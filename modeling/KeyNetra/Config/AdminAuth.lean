import KeyNetra.Lib.Fallible
import KeyNetra.Lib.StableSort
import KeyNetra.Py.Value

/-!
# KeyNetra.Config.AdminAuth — management roles of a principal

`require_management_role(m)` resolves the tenant a request addresses and the
role the principal has there, and lets the request through when that role has
rank at least `m`.

* `normalizeTenantKey` / `resolveRequestTenantKey` — the addressed tenant;
* `resolveTenantRole` — the cascade of role claims;
* `management_role_iff` — a confined principal is let through only with a role
  for that very tenant, exactly when no fallback of the cascade applies;
* `foreign_tenant_granted` — a principal that is admin of one tenant is let
  through as admin of another.
-/

namespace KeyNetra

/-! ## Roles and tenants -/

/-- The keys of `_ROLE_ORDER`. -/
inductive ManagementRole where
  | viewer
  | developer
  | admin
deriving DecidableEq, Repr

/-- `_ROLE_ORDER[role]`. -/
def ManagementRole.rank : ManagementRole → Nat
  | .viewer => 1
  | .developer => 2
  | .admin => 3

def ManagementRole.text : ManagementRole → String
  | .viewer => "viewer"
  | .developer => "developer"
  | .admin => "admin"

/-- The role a text names: `role in _ROLE_ORDER`. -/
def ManagementRole.ofText? : String → Option ManagementRole
  | "viewer" => some .viewer
  | "developer" => some .developer
  | "admin" => some .admin
  | _ => none

/-- `isinstance(role, str) and role in _ROLE_ORDER`. -/
def Value.managementRole? : Value → Option ManagementRole
  | .str text => ManagementRole.ofText? text
  | _ => none

/-- `_ROLE_ORDER.get(item, 0)`: a list or a dict cannot be hashed. -/
def roleOrder : Value → Except PyError Int
  | .str text =>
      match ManagementRole.ofText? text with
      | some role => .ok role.rank
      | none => .ok 0
  | .list _ => .error (.typeError "unhashable type: 'list'")
  | .dict _ => .error (.typeError "unhashable type: 'dict'")
  | _ => .ok 0

/-- Whether a value can be a dictionary key. -/
def Value.hashable : Value → Bool
  | .list _ | .dict _ => false
  | _ => true

/-- The rank of a value that can be hashed. -/
def valueRank (value : Value) : Int :=
  match value.managementRole? with
  | some role => role.rank
  | none => 0

theorem roleOrder_hashable {value : Value} (h : value.hashable = true) :
    roleOrder value = .ok (valueRank value) := by
  cases value with
  | str text =>
      simp only [roleOrder, valueRank, Value.managementRole?]
      cases ManagementRole.ofText? text <;> rfl
  | list xs => cases h
  | dict items => cases h
  | _ => rfl

theorem roleOrder_unhashable {value : Value} (h : value.hashable = false) :
    ∃ e, roleOrder value = .error e := by
  cases value with
  | list xs => exact ⟨_, rfl⟩
  | dict items => exact ⟨_, rfl⟩
  | _ => cases h

/-- `[a-zA-Z0-9]`. -/
def isTenantStart (c : Char) : Bool := c.isAlphanum

/-- `[a-zA-Z0-9._-]`. -/
def isTenantChar (c : Char) : Bool := c.isAlphanum || c == '.' || c == '_' || c == '-'

/-- `_TENANT_PATTERN.fullmatch`. -/
def matchesTenantPattern (text : String) : Bool :=
  match text.toList with
  | [] => false
  | c :: cs => isTenantStart c && cs.all isTenantChar && cs.length ≤ 63

/-- `normalize_tenant_key`. -/
def normalizeTenantKey (value : Option String) : Option String := do
  let normalized := pyStrip (← value)
  if normalized = "" then none
  else if matchesTenantPattern normalized then some normalized
  else none

theorem normalizeTenantKey_ne_empty {value : Option String} {tenantKey : String}
    (h : normalizeTenantKey value = some tenantKey) : tenantKey ≠ "" := by
  cases value with
  | none => cases h
  | some text =>
      simp only [normalizeTenantKey, Option.bind_eq_bind, Option.bind_some] at h
      split_ifs at h with hempty
      cases h
      exact hempty

/-! ## The best role of a map -/

/-- The best role of any tenant: the values by descending rank, ties in map order. -/
def bestRole (values : List Value) : Except PyError (Option ManagementRole) := do
  let ranked ← values.mapM fun value => do
    let rank ← roleOrder value
    .ok (rank, value)
  .ok ((Lib.sortOn (fun item => -item.1) ranked).findSome? fun item => item.2.managementRole?)

/-- A role of rank at least `minimum`. -/
def AtLeast (minimum : ManagementRole) (role : Option ManagementRole) : Prop :=
  ∃ r, role = some r ∧ minimum.rank ≤ r.rank

/-- Values that cannot be hashed make the sort raise. -/
theorem bestRole_unhashable {values : List Value} {value : Value} (hmem : value ∈ values)
    (h : value.hashable = false) (role : Option ManagementRole) : bestRole values ≠ .ok role := by
  obtain ⟨e, he⟩ := roleOrder_unhashable h
  intro hbest
  obtain ⟨ranked, hranked, -⟩ := Lib.bind_eq_ok.mp hbest
  exact Lib.mapM_ne_ok hmem (by rw [he]; rfl) ranked hranked

/-- The best role is enough exactly when some role of the map is. -/
theorem bestRole_atLeast {values : List Value} (h : ∀ value ∈ values, value.hashable = true)
    (minimum : ManagementRole) :
    ∃ best, bestRole values = .ok best ∧
      (AtLeast minimum best ↔ ∃ value ∈ values, AtLeast minimum value.managementRole?) := by
  have hranked : (values.mapM fun value => do
      let rank ← roleOrder value
      (.ok (rank, value) : Except PyError (Int × Value))) =
      .ok (values.map fun value => (valueRank value, value)) := by
    refine Lib.mapM_ok_of_forall fun value hvalue => ?_
    rw [roleOrder_hashable (h value hvalue)]
    rfl
  refine ⟨_, by unfold bestRole; rw [hranked]; rfl, ?_⟩
  generalize hsorted : Lib.sortOn (fun item : Int × Value => -item.1)
    (values.map fun value => (valueRank value, value)) = sorted
  have hmem : ∀ item, item ∈ sorted ↔ ∃ value ∈ values, (valueRank value, value) = item := by
    intro item
    rw [← hsorted, Lib.mem_sortOn, List.mem_map]
  have hpairwise : sorted.Pairwise fun a b => -a.1 ≤ -b.1 := hsorted ▸ Lib.pairwise_sortOn _ _
  constructor
  · -- the role found is one of the map's
    rintro ⟨role, hfind, hrank⟩
    obtain ⟨item, hitem, hrole⟩ := List.exists_of_findSome?_eq_some hfind
    obtain ⟨value, hvalue, rfl⟩ := (hmem item).mp hitem
    exact ⟨value, hvalue, role, hrole, hrank⟩
  · -- a role of the map comes no earlier than the one found
    rintro ⟨value, hvalue, role, hrole, hrank⟩
    have hin : (valueRank value, value) ∈ sorted := (hmem _).mpr ⟨value, hvalue, rfl⟩
    cases hfind : sorted.findSome? fun item => item.2.managementRole? with
    | none =>
        have hnone := List.findSome?_eq_none_iff.mp hfind _ hin
        rw [hrole] at hnone
        cases hnone
    | some best =>
        obtain ⟨before, item, after, hsplit, hbest, hbefore⟩ :=
          List.findSome?_eq_some_iff.mp hfind
        refine ⟨best, rfl, ?_⟩
        have hitem : item ∈ sorted := by
          rw [hsplit]
          exact List.mem_append_right _ List.mem_cons_self
        obtain ⟨bestValue, -, rfl⟩ := (hmem item).mp hitem
        have hbestRank : valueRank bestValue = best.rank := by
          unfold valueRank
          rw [hbest]
        have hroleRank : valueRank value = role.rank := by
          unfold valueRank
          rw [hrole]
        have hle : valueRank value ≤ valueRank bestValue := by
          rw [hsplit] at hin hpairwise
          rcases List.mem_append.mp hin with hin | hin
          · have hnone := hbefore _ hin
            rw [hrole] at hnone
            cases hnone
          · rcases List.mem_cons.mp hin with heq | hin
            · exact le_of_eq (congrArg Prod.fst heq)
            · have hpair := (List.pairwise_cons.mp (List.pairwise_append.mp hpairwise).2.1).1
                _ hin
              exact neg_le_neg_iff.mp hpair
        omega

section Runtime

variable [PyRuntime]

/-- The tenant of an API key's scopes. -/
def scopeTenant (scopes : Dict) : Option String :=
  normalizeTenantKey (some ((Dict.get scopes "tenant").pyOr (.str "")).text)

/-- The first of the tenant claims that normalises. -/
def claimTenant (claims : Dict) : Option String :=
  ["tenant", "tenant_id", "tenant_key"].findSome? fun key =>
    match Dict.get claims key with
    | .str tenant => normalizeTenantKey (some tenant)
    | _ => none

/-- `tenant_from_principal`. -/
def tenantFromPrincipal (principal : Dict) : Option String :=
  if Value.eq (Dict.get principal "type") (.str "api_key") then
    match Dict.get principal "scopes" with
    | .dict scopes => scopeTenant scopes
    | _ => none
  else
    match Dict.get principal "claims" with
    | .dict claims =>
        (claimTenant claims).or
          (match Dict.get claims "tenant_roles" with
            | .dict tenantRoles =>
                match tenantRoles.filterMap fun item => normalizeTenantKey (some item.1) with
                | [tenant] => some tenant
                | _ => none
            | _ => none)
    | _ => none

/-! ## The role cascade -/

/-- The first role of the list form that is not for another tenant. -/
def listRole (tenantKey : String) : List Value → Option ManagementRole
  | [] => none
  | .dict item :: items =>
      let roleTenant := normalizeTenantKey (some ((Dict.get item "tenant").pyOr
        ((Dict.get item "tenant_key").pyOr (.str ""))).text)
      if tenantKey ≠ "" ∧ roleTenant.isSome ∧ roleTenant ≠ some tenantKey then
        listRole tenantKey items
      else
        match (Dict.get item "role").managementRole? with
        | some role => some role
        | none => listRole tenantKey items
  | _ :: items => listRole tenantKey items

/-- The role of the global claims. -/
def globalRole (claims : Dict) : Option ManagementRole :=
  match ((Dict.get claims "admin_role").pyOr (Dict.get claims "role")).managementRole? with
  | some role => some role
  | none =>
      match (Dict.get claims "admin_roles").pyOr (Dict.get claims "roles") with
      | .list roles => roles.findSome? Value.managementRole?
      | _ => none

/-- The part of `_resolve_tenant_role` about API keys. -/
def scopeRole (principal : Dict) (tenantKey : String) : Option ManagementRole :=
  match Dict.get principal "scopes" with
  | .dict scopes =>
      match (Dict.get scopes "role").managementRole? with
      | some role =>
          if tenantKey ≠ "" ∧ (scopeTenant scopes).isSome ∧ scopeTenant scopes ≠ some tenantKey then
            none
          else some role
      | none => none
  | _ => none

/-- The `tenant_roles` map: the addressed tenant's role, else the best of any tenant. -/
def mapRole (tenantRoles : Dict) (tenantKey : String) :
    Except PyError (Option ManagementRole) :=
  match if tenantKey = "" then none else (Dict.get tenantRoles tenantKey).managementRole? with
  | some role => .ok (some role)
  | none => bestRole (tenantRoles.map Prod.snd)

/-- `_resolve_tenant_role`. -/
def resolveTenantRole (principal : Dict) (tenantKey : String) :
    Except PyError (Option ManagementRole) :=
  if Value.eq (Dict.get principal "type") (.str "api_key") then .ok (scopeRole principal tenantKey)
  else
    match Dict.get principal "claims" with
    | .dict claims => do
        let tenantRole ←
          match Dict.get claims "tenant_roles" with
          | .dict tenantRoles => mapRole tenantRoles tenantKey
          | .list items => .ok (listRole tenantKey items)
          | _ => .ok none
        .ok (tenantRole.or (globalRole claims))
    | _ => .ok none

/-! ## The dependency -/

/-- An error response. -/
structure ApiError where
  statusCode : Nat
  code : String
  message : String
  details : Assoc String
deriving DecidableEq, Repr

/-- How a dependency ends without granting access. -/
inductive AccessError where
  | api (error : ApiError)
  | raised (error : PyError)
deriving DecidableEq, Repr

/-- What a management request carries besides its credentials. -/
structure ManagementRequest where
  tenantHeader : Option String := none
  requestedTenantKey : Option String := none

/-- The settings the tenant resolution reads. -/
structure TenancySettings where
  strictTenancy : Bool
  isDevelopment : Bool

structure AdminAccess where
  tenantKey : String
  role : ManagementRole
  principal : Dict

/-- The error of a request that names no tenant. -/
def tenantRequired : ApiError :=
  ⟨422, "VALIDATION_ERROR", "tenant is required", [("header", "X-Tenant-Id")]⟩

/-- `_resolve_request_tenant_key`. -/
def resolveRequestTenantKey (request : ManagementRequest) (principal : Dict)
    (settings : TenancySettings) : Except ApiError String :=
  let header :=
    match request.tenantHeader with
    | some text => if text = "" then request.requestedTenantKey else some text
    | none => request.requestedTenantKey
  match normalizeTenantKey header with
  | some tenantKey => .ok tenantKey
  | none =>
      match tenantFromPrincipal principal with
      | some tenantKey => .ok tenantKey
      | none =>
          if settings.strictTenancy then .error tenantRequired
          else if settings.isDevelopment then .ok "default"
          else .error tenantRequired

/-- The dependency of a minimum role. -/
def managementDependency (minimum : ManagementRole) (request : ManagementRequest)
    (principal : Dict) (settings : TenancySettings) : Except AccessError AdminAccess :=
  match resolveRequestTenantKey request principal settings with
  | .error e => .error (.api e)
  | .ok tenantKey =>
      match resolveTenantRole principal tenantKey with
      | .error e => .error (.raised e)
      | .ok none => .error (.api
          ⟨403, "FORBIDDEN", "tenant access denied", [("tenant_key", tenantKey)]⟩)
      | .ok (some role) =>
          if role.rank < minimum.rank then .error (.api
            ⟨403, "FORBIDDEN", "insufficient management role",
              [("required_role", minimum.text), ("actual_role", role.text),
                ("tenant_key", tenantKey)]⟩)
          else .ok ⟨tenantKey, role, principal⟩

/-- `require_management_role`. -/
def requireManagementRole (minimumRole : String) :
    Except PyError (ManagementRequest → Dict → TenancySettings → Except AccessError AdminAccess) :=
  match ManagementRole.ofText? minimumRole with
  | none => .error (.valueError s!"unsupported management role: {minimumRole}")
  | some minimum => .ok (managementDependency minimum)

/-! ## Confined principals -/

/-- A principal confined to tenants: an API key whose scopes carry a non-empty
tenant, or a JWT with a `tenant_roles` map and no global role claim. -/
inductive Confinement (principal : Dict) where
  | key (scopes : Dict) (tenant : String)
      (isKey : Dict.get principal "type" = .str "api_key")
      (hasScopes : Dict.get principal "scopes" = .dict scopes)
      (hasTenant : Dict.get scopes "tenant" = .str tenant)
      (nonempty : tenant ≠ "")
  | jwt (claims tenantRoles : Dict)
      (isJwt : Dict.get principal "type" = .str "jwt")
      (hasClaims : Dict.get principal "claims" = .dict claims)
      (hasRoles : Dict.get claims "tenant_roles" = .dict tenantRoles)
      (noGlobal : ∀ key ∈ ["admin_role", "role", "admin_roles", "roles"],
        Dict.get claims key = .null)

/-- The principal holds, for this very tenant, a role of rank at least `minimum`. -/
def Confinement.Holds {principal : Dict} (minimum : ManagementRole) (tenantKey : String) :
    Confinement principal → Prop
  | .key scopes _ _ _ _ _ =>
      scopeTenant scopes = some tenantKey ∧ AtLeast minimum (Dict.get scopes "role").managementRole?
  | .jwt _ tenantRoles _ _ _ _ => AtLeast minimum (Dict.get tenantRoles tenantKey).managementRole?

/-- The dependency built for `minimum` lets the principal through only with a role
for the tenant it gets. -/
def Isolated {principal : Dict} (c : Confinement principal) (minimum : ManagementRole)
    (request : ManagementRequest) (settings : TenancySettings) : Prop :=
  ∀ dependency, requireManagementRole minimum.text = .ok dependency →
    ∀ access, dependency request principal settings = .ok access →
      c.Holds minimum access.tenantKey

/-- No fallback of the cascade can grant `minimum` for this tenant. For a key: its
scope tenant is well formed, or its role is not enough. For a JWT: the map has a
role for the tenant, or no role of any tenant is enough, or the roles cannot be
compared. -/
def Confinement.NoFallback {principal : Dict} (minimum : ManagementRole) (tenantKey : String) :
    Confinement principal → Prop
  | .key scopes _ _ _ _ _ =>
      (scopeTenant scopes).isSome ∨ ¬ AtLeast minimum (Dict.get scopes "role").managementRole?
  | .jwt _ tenantRoles _ _ _ _ =>
      (Dict.get tenantRoles tenantKey).managementRole?.isSome ∨
        (∃ item ∈ tenantRoles, item.2.hashable = false) ∨
        ∀ item ∈ tenantRoles, ¬ AtLeast minimum item.2.managementRole?

/-! ## The addressed tenant -/

theorem tenantFromPrincipal_ne_empty {principal : Dict} {tenantKey : String}
    (h : tenantFromPrincipal principal = some tenantKey) : tenantKey ≠ "" := by
  unfold tenantFromPrincipal at h
  split at h
  · -- an API key: the scope tenant
    split at h
    · exact normalizeTenantKey_ne_empty h
    · cases h
  · split at h
    · -- a JWT: a tenant claim, or the one tenant of the map
      rcases Option.or_eq_some_iff.mp h with hclaim | ⟨-, hmap⟩
      · obtain ⟨key, -, hkey⟩ := List.exists_of_findSome?_eq_some hclaim
        split at hkey
        · exact normalizeTenantKey_ne_empty hkey
        · cases hkey
      · split at hmap
        · rename_i tenantRoles _
          split at hmap
          · rename_i tenant hone
            cases hmap
            have hmem : tenantKey ∈ tenantRoles.filterMap
                fun item => normalizeTenantKey (some item.1) := by
              rw [hone]
              exact List.mem_singleton.mpr rfl
            obtain ⟨item, -, hitem⟩ := List.mem_filterMap.mp hmem
            exact normalizeTenantKey_ne_empty hitem
          · cases hmap
        · cases hmap
    · cases h

/-- The addressed tenant is never the empty text. -/
theorem resolveRequestTenantKey_ne_empty {request : ManagementRequest} {principal : Dict}
    {settings : TenancySettings} {tenantKey : String}
    (h : resolveRequestTenantKey request principal settings = .ok tenantKey) : tenantKey ≠ "" := by
  unfold resolveRequestTenantKey at h
  dsimp only at h
  split at h
  · rename_i key hkey
    cases h
    exact normalizeTenantKey_ne_empty hkey
  · split at h
    · rename_i key hkey
      cases h
      exact tenantFromPrincipal_ne_empty hkey
    · split_ifs at h
      cases h
      decide

/-! ## When the dependency grants -/

/-- The dependency grants exactly when the request addresses a tenant for which
the cascade finds a role of sufficient rank. -/
theorem managementDependency_ok_iff {minimum : ManagementRole} {request : ManagementRequest}
    {principal : Dict} {settings : TenancySettings} {access : AdminAccess} :
    managementDependency minimum request principal settings = .ok access ↔
      ∃ tenantKey role, resolveRequestTenantKey request principal settings = .ok tenantKey ∧
        resolveTenantRole principal tenantKey = .ok (some role) ∧
        minimum.rank ≤ role.rank ∧ access = ⟨tenantKey, role, principal⟩ := by
  unfold managementDependency
  cases resolveRequestTenantKey request principal settings with
  | error e => simp
  | ok tenantKey =>
      -- the tenant of the request, then the role there, then its rank
      cases hrole : resolveTenantRole principal tenantKey with
      | error e => simp [hrole]
      | ok role =>
          cases role with
          | none => simp [hrole]
          | some role =>
              by_cases hrank : role.rank < minimum.rank
              · simp [hrole, hrank]
              · simp only [hrole, hrank, if_false, Except.ok.injEq]
                constructor
                · rintro rfl
                  exact ⟨tenantKey, role, rfl, hrole, Nat.not_lt.mp hrank, rfl⟩
                · rintro ⟨t, r, rfl, hr, -, haccess⟩
                  rw [hrole] at hr
                  cases hr
                  exact haccess.symm

/-- The dependency built for a role. -/
theorem requireManagementRole_text (minimum : ManagementRole) :
    requireManagementRole minimum.text = .ok (managementDependency minimum) := by
  cases minimum <;> rfl

/-- Isolation, as a statement about the cascade at the addressed tenant. -/
theorem isolated_iff_cascade {principal : Dict} (c : Confinement principal)
    (minimum : ManagementRole) (request : ManagementRequest) (settings : TenancySettings) :
    Isolated c minimum request settings ↔
      ∀ tenantKey, resolveRequestTenantKey request principal settings = .ok tenantKey →
        ∀ role, resolveTenantRole principal tenantKey = .ok role → AtLeast minimum role →
          c.Holds minimum tenantKey := by
  unfold Isolated
  rw [requireManagementRole_text]
  constructor
  · rintro h tenantKey htenant role hrole ⟨r, rfl, hrank⟩
    exact h _ rfl ⟨tenantKey, r, principal⟩
      (managementDependency_ok_iff.mpr ⟨tenantKey, r, htenant, hrole, hrank, rfl⟩)
  · rintro h dependency hdependency access haccess
    cases hdependency
    obtain ⟨tenantKey, role, htenant, hrole, hrank, rfl⟩ := managementDependency_ok_iff.mp haccess
    exact h tenantKey htenant (some role) hrole ⟨role, rfl, hrank⟩

/-! ## Isolation -/

/-- A key whose scope tenant is well formed is refused for every other tenant. -/
theorem scopeRole_of_scopeTenant {principal scopes : Dict} {tenantKey tenant : String}
    (hscopes : Dict.get principal "scopes" = .dict scopes) (hne : tenantKey ≠ "")
    (htenant : scopeTenant scopes = some tenant) {role : ManagementRole}
    (h : scopeRole principal tenantKey = some role) : tenant = tenantKey := by
  unfold scopeRole at h
  rw [hscopes] at h
  dsimp only at h
  split at h
  · split_ifs at h with hother
    by_contra hdiff
    exact hother ⟨hne, by rw [htenant]; rfl, by rw [htenant]; simpa using hdiff⟩
  · cases h

/-- The role of a key, where its scope tenant does not stand in the way. -/
theorem scopeRole_eq {principal scopes : Dict} {tenantKey : String}
    (hscopes : Dict.get principal "scopes" = .dict scopes)
    (h : scopeTenant scopes = none ∨ scopeTenant scopes = some tenantKey) :
    scopeRole principal tenantKey = (Dict.get scopes "role").managementRole? := by
  unfold scopeRole
  rw [hscopes]
  dsimp only
  cases (Dict.get scopes "role").managementRole? with
  | none => rfl
  | some role =>
      rcases h with h | h
      · simp [h]
      · simp [h]

/-- A JWT without global role claims has the role its map gives. -/
theorem resolveTenantRole_jwt {principal claims tenantRoles : Dict} {tenantKey : String}
    (isJwt : Dict.get principal "type" = .str "jwt")
    (hasClaims : Dict.get principal "claims" = .dict claims)
    (hasRoles : Dict.get claims "tenant_roles" = .dict tenantRoles)
    (noGlobal : ∀ key ∈ ["admin_role", "role", "admin_roles", "roles"],
      Dict.get claims key = .null) :
    resolveTenantRole principal tenantKey = mapRole tenantRoles tenantKey := by
  have hglobal : globalRole claims = none := by
    unfold globalRole
    rw [noGlobal "admin_role" (by decide), noGlobal "role" (by decide),
      noGlobal "admin_roles" (by decide), noGlobal "roles" (by decide)]
    rfl
  unfold resolveTenantRole
  rw [isJwt, hasClaims]
  simp only [Value.eq_str, hasRoles, hglobal, Option.or_none]
  cases mapRole tenantRoles tenantKey <;> rfl

/-- A confined principal is let through only with a role for the very tenant it
gets, if and only if no fallback of the cascade can grant the minimum role for
the tenant the request addresses. -/
theorem management_role_iff {principal : Dict} (c : Confinement principal)
    (minimum : ManagementRole) (request : ManagementRequest) (settings : TenancySettings) :
    Isolated c minimum request settings ↔
      ∀ tenantKey, resolveRequestTenantKey request principal settings = .ok tenantKey →
        c.NoFallback minimum tenantKey := by
  rw [isolated_iff_cascade]
  refine forall_congr' fun tenantKey => imp_congr_right fun hresolve => ?_
  have hne : tenantKey ≠ "" := resolveRequestTenantKey_ne_empty hresolve
  cases c with
  | key scopes tenant isKey hasScopes hasTenant nonempty =>
      have hcascade : resolveTenantRole principal tenantKey =
          .ok (scopeRole principal tenantKey) := by
        unfold resolveTenantRole
        rw [isKey]
        rfl
      simp only [hcascade, Except.ok.injEq, forall_eq', Confinement.Holds, Confinement.NoFallback]
      cases hscoped : scopeTenant scopes with
      | none =>
          -- the scope tenant is dropped, and the key passes for any tenant
          rw [scopeRole_eq hasScopes (Or.inl hscoped)]
          simp
      | some owner =>
          simp only [Option.isSome_some, true_or, iff_true]
          rintro ⟨role, hrole, hrank⟩
          have heq : owner = tenantKey := scopeRole_of_scopeTenant hasScopes hne hscoped hrole
          subst heq
          rw [scopeRole_eq hasScopes (Or.inr hscoped)] at hrole
          exact ⟨rfl, role, hrole, hrank⟩
  | jwt claims tenantRoles isJwt hasClaims hasRoles noGlobal =>
      simp only [resolveTenantRole_jwt isJwt hasClaims hasRoles noGlobal, Confinement.Holds,
        Confinement.NoFallback, mapRole, if_neg hne]
      cases hexact : (Dict.get tenantRoles tenantKey).managementRole? with
      | some role =>
          -- the map has a role for this tenant, and that is the role used
          simp
      | none =>
          have hnever : ¬ AtLeast minimum none := by
            rintro ⟨r, hr, -⟩
            cases hr
          simp only [hnever, Option.isSome_none, Bool.false_eq_true, false_or]
          by_cases hhash : ∃ item ∈ tenantRoles, item.2.hashable = false
          · -- the sort raises
            obtain ⟨item, hitem, hvalue⟩ := hhash
            refine iff_of_true ?_ (Or.inl ⟨item, hitem, hvalue⟩)
            intro role hrole
            exact absurd hrole (bestRole_unhashable (List.mem_map_of_mem hitem) hvalue role)
          · -- the best role of any tenant is used
            have hall : ∀ value ∈ tenantRoles.map Prod.snd, value.hashable = true := by
              intro value hvalue
              obtain ⟨item, hitem, rfl⟩ := List.mem_map.mp hvalue
              by_contra hfalse
              exact hhash ⟨item, hitem, by simpa using hfalse⟩
            obtain ⟨best, hbest, henough⟩ := bestRole_atLeast hall minimum
            simp only [hbest, Except.ok.injEq, forall_eq', henough, hhash, false_or]
            constructor
            · intro hnone item hitem henough
              exact hnone ⟨item.2, List.mem_map_of_mem hitem, henough⟩
            · rintro hnone ⟨value, hvalue, henough⟩
              obtain ⟨item, hitem, rfl⟩ := List.mem_map.mp hvalue
              exact hnone item hitem henough

end Runtime

/-! ## Concrete principals -/

section Concrete

attribute [local instance] plainRuntime

/-- A JWT that is admin of `acme` and nothing else. -/
def acmeAdmin : Dict :=
  [("type", .str "jwt"),
    ("claims", .dict [("tenant_roles", .dict [("acme", .str "admin")])])]

theorem acmeAdmin_noGlobal : ∀ key ∈ ["admin_role", "role", "admin_roles", "roles"],
    Dict.get [("tenant_roles", .dict [("acme", .str "admin")])] key = .null := by
  intro key hkey
  have hne : "tenant_roles" ≠ key := by
    rintro rfl
    exact absurd hkey (by decide)
  simp [Dict.get, hne]

def acmeConfinement : Confinement acmeAdmin :=
  .jwt [("tenant_roles", .dict [("acme", .str "admin")])] [("acme", .str "admin")] rfl rfl rfl
    acmeAdmin_noGlobal

/-- A request that addresses another tenant. -/
def globexRequest : ManagementRequest where
  tenantHeader := some "globex"

def productionTenancy : TenancySettings where
  strictTenancy := true
  isDevelopment := false

/-- The admin of `acme` is let through as admin of `globex`, for which the map has
no role. -/
theorem foreign_tenant_granted :
    managementDependency .admin globexRequest acmeAdmin productionTenancy =
        .ok ⟨"globex", .admin, acmeAdmin⟩ ∧
      ¬ Isolated acmeConfinement .admin globexRequest productionTenancy := by
  have hgranted : managementDependency .admin globexRequest acmeAdmin productionTenancy =
      .ok ⟨"globex", .admin, acmeAdmin⟩ := rfl
  refine ⟨hgranted, ?_⟩
  intro hisolated
  obtain ⟨role, hrole, -⟩ := hisolated _ rfl _ hgranted
  cases hrole

end Concrete

end KeyNetra
