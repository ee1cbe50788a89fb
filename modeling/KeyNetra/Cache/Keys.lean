import KeyNetra.Cache.Adapters
import KeyNetra.Py.Json

/-!
# KeyNetra.Cache.Keys — the keys of different tenants

The last fields of a policy key and of a decision key are numerals and a digest, so the
fields before them can be read back, whatever they hold. A decision key then tells the
name it is cached under and, when the digest collides for no two payloads, the request up
to the order of the members of its objects.

* `policyCacheKey_inj` — the policy documents of two tenants never meet;
* `decisionKeyAt_eq` — what a decision key tells;
* `SameInput` — inputs with one canonical payload;
* `sameJson_payload` — what a payload tells.
-/

namespace KeyNetra

/-! ## Last fields -/

/-- A last field without a colon can be read back. -/
theorem cacheKey_concat_inj {a b y z : String} {xs ys : List String} (hy : ':' ∉ y.toList)
    (hz : ':' ∉ z.toList) :
    cacheKey (a :: xs ++ [y]) = cacheKey (b :: ys ++ [z]) ↔
      cacheKey (a :: xs) = cacheKey (b :: ys) ∧ y = z := by
  unfold cacheKey
  exact Lib.intercalate_concat_inj (by decide) hy hz

/-- A policy key tells the tenant. -/
theorem policyKeyAt_tenant {tenantKey tenantKey' : String} {m n : Nat} {v v' : Int}
    (h : policyKeyAt tenantKey m v = policyKeyAt tenantKey' n v') : tenantKey = tenantKey' := by
  have hkeys : cacheKey ("pol" :: [tenantKey, toString m] ++ [toString v]) =
      cacheKey ("pol" :: [tenantKey', toString n] ++ [toString v']) := h
  have hversions := (cacheKey_concat_inj (Lib.colon_notMem_intRepr _)
    (Lib.colon_notMem_intRepr _)).mp hkeys
  have hrest : cacheKey ("pol" :: [tenantKey] ++ [toString m]) =
      cacheKey ("pol" :: [tenantKey'] ++ [toString n]) := hversions.1
  have hnames := (cacheKey_concat_inj (Lib.colon_notMem_natRepr _)
    (Lib.colon_notMem_natRepr _)).mp hrest
  have hlast := cacheKey_cons_left.mp hnames.1
  rwa [cacheKey_single, cacheKey_single] at hlast

/-- The current policy keys of two tenants differ. -/
theorem policyCacheKey_tenant {counters counters' : String → Option Nat}
    {tenantKey tenantKey' : String} {v v' : Int}
    (h : policyCacheKey counters tenantKey v = policyCacheKey counters' tenantKey' v') :
    tenantKey = tenantKey' := policyKeyAt_tenant h

/-- A decision key tells the name it is cached under, the version and the digest. -/
theorem decisionKeyAt_eq {name name' : String} {m n : Nat} {v v' : Int} {d d' : String}
    (hd : ':' ∉ d.toList) (hd' : ':' ∉ d'.toList)
    (h : decisionKeyAt name m v d = decisionKeyAt name' n v' d') :
    name = name' ∧ v = v' ∧ d = d' := by
  have hkeys : cacheKey ("dec" :: [name, toString m, toString v] ++ [d]) =
      cacheKey ("dec" :: [name', toString n, toString v'] ++ [d']) := h
  have hdigests := (cacheKey_concat_inj hd hd').mp hkeys
  have hrest : cacheKey ("dec" :: [name, toString m] ++ [toString v]) =
      cacheKey ("dec" :: [name', toString n] ++ [toString v']) := hdigests.1
  have hversions := (cacheKey_concat_inj (Lib.colon_notMem_intRepr _)
    (Lib.colon_notMem_intRepr _)).mp hrest
  have hnumbers : cacheKey ("dec" :: [name] ++ [toString m]) =
      cacheKey ("dec" :: [name'] ++ [toString n]) := hversions.1
  have hnames := (cacheKey_concat_inj (Lib.colon_notMem_natRepr _)
    (Lib.colon_notMem_natRepr _)).mp hnumbers
  have hlast := cacheKey_cons_left.mp hnames.1
  rw [cacheKey_single, cacheKey_single] at hlast
  exact ⟨hlast, Lib.toString_int_inj.mp hversions.2, hdigests.2⟩

/-! ## Payloads -/

/-- The inputs are equal up to the order of the members of their objects. -/
structure SameInput (input input' : AuthorizationInput) : Prop where
  action : input.action = input'.action
  user : SameJson (.dict input.user) (.dict input'.user)
  resource : SameJson (.dict input.resource) (.dict input'.resource)
  context : SameJson (.dict input.context) (.dict input'.context)

/-- Payloads with one canonical text are of one name and of inputs with one. -/
theorem sameInput_of_payload {name name' : String} {v v' r r' : Int}
    {input input' : AuthorizationInput}
    (h : SameJson (decisionPayload name v r input) (decisionPayload name' v' r' input')) :
    name = name' ∧ SameInput input input' := by
  unfold decisionPayload at h
  have hname : SameJson (.str name) (.str name') := by
    rcases h.member List.mem_cons_self with ⟨w, hw, hsame⟩
    rwa [show w = .str name' by simpa using hw] at hsame
  have haction : SameJson (.str input.action) (.str input'.action) := by
    rcases @SameJson.member _ _ h "action" (.str input.action) (by simp) with ⟨w, hw, hsame⟩
    rwa [show w = .str input'.action by simpa using hw] at hsame
  have huser : SameJson (.dict input.user) (.dict input'.user) := by
    rcases @SameJson.member _ _ h "user" (.dict input.user) (by simp) with ⟨w, hw, hsame⟩
    rwa [show w = .dict input'.user by simpa using hw] at hsame
  have hresource : SameJson (.dict input.resource) (.dict input'.resource) := by
    rcases @SameJson.member _ _ h "resource" (.dict input.resource) (by simp) with
      ⟨w, hw, hsame⟩
    rwa [show w = .dict input'.resource by simpa using hw] at hsame
  have hcontext : SameJson (.dict input.context) (.dict input'.context) := by
    rcases @SameJson.member _ _ h "context" (.dict input.context) (by simp) with ⟨w, hw, hsame⟩
    rwa [show w = .dict input'.context by simpa using hw] at hsame
  exact ⟨sameJson_str.mp hname, sameJson_str.mp haction, huser, hresource, hcontext⟩

/-- Under one policy version, a payload tells the name, the token and the input. -/
theorem sameJson_payload {name name' : String} {v r r' : Int} {input input' : AuthorizationInput} :
    SameJson (decisionPayload name v r input) (decisionPayload name' v r' input') ↔
      name = name' ∧ r = r' ∧ SameInput input input' := by
  constructor
  · intro h
    rcases sameInput_of_payload h with ⟨hname, hinput⟩
    unfold decisionPayload at h
    rcases @SameJson.member _ _ h "revision" (.int r) (by simp) with ⟨w, hw, hsame⟩
    rw [show w = .int r' by simpa using hw] at hsame
    exact ⟨hname, sameJson_int.mp hsame, hinput⟩
  · rintro ⟨rfl, rfl, hinput⟩
    unfold decisionPayload SameJson
    rw [Value.sorted, Value.sorted]
    simp only [Value.sortedItems]
    rw [hinput.action, show _ = _ from hinput.user, show _ = _ from hinput.resource,
      show _ = _ from hinput.context]

end KeyNetra
