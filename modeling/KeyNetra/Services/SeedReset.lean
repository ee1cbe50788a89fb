import KeyNetra.Services.Revocation
import KeyNetra.Services.Seeding

/-!
# KeyNetra.Services.SeedReset — what a reset of the sample data leaves

A reset deletes the sample rows and seeds them anew. The links of other users to the role are left
with the id of the deleted role, and SQLite gives the id after the greatest one out again.

* `SeedDatabase.Sound` — the links that every seeding keeps sound;
* `seeds_sound` — every run of seedings keeps them;
* `reset_restores` — after a run of seedings that ends with a reset, the sample user has the sample
  role with the sample permissions, and the tenant the sample relationship and the sample policies,
  and nothing else;
* `reset_regained_iff` — another user holds the new role exactly when it held the old one, and the
  old one had the id after those of the other roles.
-/

namespace KeyNetra

/-! ## Sound links -/

/-- The users of links exist, and the rows that links of permissions join. -/
structure RbacTables.Carried (t : RbacTables) : Prop where
  users : ∀ link ∈ t.userRoles, ∃ user ∈ t.users, user.id = link.1
  roles : ∀ link ∈ t.rolePermissions, ∃ role ∈ t.roles.rows, role.id = link.1
  permissions : ∀ link ∈ t.rolePermissions, ∃ permission ∈ t.permissions.rows,
    permission.id = link.2

/-- The links that every seeding keeps sound. -/
structure SeedDatabase.Sound (db : SeedDatabase) : Prop where
  rbac : db.rbac.Carried
  relationships : ∀ row ∈ db.relationships.rows, ∃ tenant ∈ db.tenants.rows,
    tenant.id = row.tenantId
  policies : ∀ p ∈ db.policies.policies, ∃ tenant ∈ db.tenants.rows, tenant.id = p.tenantId
  versions : ∀ v ∈ db.policies.versions, ∃ p ∈ db.policies.policies,
    p.id = v.policyId ∧ p.tenantId = v.tenantId

/-! ## What is cleared -/

section Clear

variable {t : RbacTables}

/-- The permissions of the sample. -/
def sampleRows (t : RbacTables) : List Permission :=
  t.permissions.rows.filter fun permission => permission.action ∈ samplePermissions

/-- The table each deletion writes. -/
theorem clearSampleRoles_tables (t : RbacTables) :
    (clearSampleRoles t).users =
        ((t.users.find? fun row => row.id = sampleUser.id).elim t fun user =>
          t.deleteUserRow user).users ∧
      (clearSampleRoles t).roles =
        ((t.roles.named? sampleRole).elim t fun role => t.deleteRoleRow role).roles ∧
      (clearSampleRoles t).permissions =
        (if (sampleRows t).isEmpty then t else
          t.deletePermissionRows ((sampleRows t).map Permission.id)).permissions ∧
      (clearSampleRoles t).userRoles =
        ((t.users.find? fun row => row.id = sampleUser.id).elim t fun user =>
          t.deleteUserRoles user).userRoles ∧
      (clearSampleRoles t).rolePermissions =
        (let t' := (t.roles.named? sampleRole).elim t fun role => t.deleteRoleLinks role
         if (sampleRows t).isEmpty then t' else
          t'.deletePermissionLinks ((sampleRows t).map Permission.id)).rolePermissions := by
  unfold clearSampleRoles sampleRows
  cases t.roles.named? sampleRole <;> cases t.users.find? fun row => row.id = sampleUser.id <;>
    dsimp only [Option.elim_none, Option.elim_some] <;> split <;> exact ⟨rfl, rfl, rfl, rfl, rfl⟩

/-- The rows left: all but those of the sample. -/
theorem clearSampleRoles_rows (t : RbacTables) :
    (clearSampleRoles t).users = t.users.filter (fun user => user.id ≠ sampleUser.id) ∧
      (clearSampleRoles t).roles.rows = t.roles.rows.filter (fun role => role.name ≠ sampleRole) ∧
      (clearSampleRoles t).permissions.rows =
        t.permissions.rows.filter fun permission => permission.action ∉ samplePermissions := by
  obtain ⟨husers, hroles, hpermissions, -, -⟩ := clearSampleRoles_tables t
  refine ⟨?_, ?_, ?_⟩
  · -- the user is deleted if it is there
    rw [husers]
    cases h : t.users.find? fun row => row.id = sampleUser.id with
    | none =>
        have habsent : ∀ row ∈ t.users, row.id ≠ sampleUser.id := by simpa using h
        exact (List.filter_eq_self.mpr fun row hrow => decide_eq_true (habsent row hrow)).symm
    | some found =>
        have hid : found.id = sampleUser.id := by simpa using List.find?_some h
        rw [← hid]
        rfl
  · -- the role's row is the one of its name, for names are unique
    rw [hroles]
    cases h : t.roles.named? sampleRole with
    | none =>
        have habsent := Lib.NamedTable.named?_eq_none.mp h
        exact (List.filter_eq_self.mpr fun row hrow => decide_eq_true (habsent row hrow)).symm
    | some found =>
        obtain ⟨hfound, hname⟩ := Lib.NamedTable.named?_eq_some.mp h
        apply List.filter_congr
        intro role hrole
        rw [decide_eq_decide, List.mem_singleton]
        refine not_congr ⟨fun hid => ?_, fun hsame => ?_⟩
        · rw [Lib.eq_of_key_eq t.roles.ids hrole hfound hid]
          exact hname
        · rw [Lib.eq_of_key_eq t.roles.names hrole hfound (hsame.trans hname.symm)]
          rfl
  · -- so are the rows of the permissions
    rw [hpermissions]
    split
    · rename_i hempty
      have habsent : ∀ row ∈ t.permissions.rows, row.action ∉ samplePermissions := by
        simpa [sampleRows] using hempty
      exact (List.filter_eq_self.mpr fun row hrow => decide_eq_true (habsent row hrow)).symm
    · apply List.filter_congr
      intro permission hrow
      rw [decide_eq_decide]
      refine not_congr ⟨fun hid => ?_, fun hsample => ?_⟩
      · obtain ⟨found, hfound, hid⟩ := List.mem_map.mp hid
        obtain ⟨hfound, haction⟩ := List.mem_filter.mp hfound
        rw [Lib.eq_of_key_eq t.permissions.ids hrow hfound hid.symm]
        exact of_decide_eq_true haction
      · exact List.mem_map_of_mem (List.mem_filter.mpr ⟨hrow, decide_eq_true hsample⟩)

theorem mem_clearSampleRoles (t : RbacTables) :
    (∀ user, user ∈ (clearSampleRoles t).users ↔ user ∈ t.users ∧ user.id ≠ sampleUser.id) ∧
      (∀ role, role ∈ (clearSampleRoles t).roles.rows ↔
        role ∈ t.roles.rows ∧ role.name ≠ sampleRole) ∧
      ∀ permission, permission ∈ (clearSampleRoles t).permissions.rows ↔
        permission ∈ t.permissions.rows ∧ permission.action ∉ samplePermissions := by
  obtain ⟨husers, hroles, hpermissions⟩ := clearSampleRoles_rows t
  rw [husers, hroles, hpermissions]
  simp only [List.mem_filter, decide_eq_true_eq, implies_true, and_self]

/-- The links left are links that were there, and none of a row that was deleted. -/
theorem clearSampleRoles_links (h : t.Carried) :
    (clearSampleRoles t).userRoles = t.userRoles.filter (fun link => link.1 ≠ sampleUser.id) ∧
      ∀ link, link ∈ (clearSampleRoles t).rolePermissions ↔
        link ∈ t.rolePermissions ∧
          (∀ role ∈ t.roles.rows, role.name = sampleRole → link.1 ≠ role.id) ∧
          ∀ permission ∈ t.permissions.rows, permission.action ∈ samplePermissions →
            link.2 ≠ permission.id := by
  obtain ⟨-, -, -, huserRoles, hrolePermissions⟩ := clearSampleRoles_tables t
  refine ⟨?_, ?_⟩
  · -- user_roles: a link leads to a stored user, so none is left of the deleted one
    rw [huserRoles]
    cases hfind : t.users.find? fun row => row.id = sampleUser.id with
    | none =>
        have habsent : ∀ row ∈ t.users, row.id ≠ sampleUser.id := by simpa using hfind
        symm
        apply List.filter_eq_self.mpr
        intro link hlink
        obtain ⟨user, huser, hid⟩ := h.users link hlink
        exact decide_eq_true (hid ▸ habsent user huser)
    | some found =>
        have hid : found.id = sampleUser.id := by simpa using List.find?_some hfind
        show t.userRoles.filter (fun link => link.1 ≠ found.id) = _
        rw [hid]
  · -- role_permissions: first those of the role go, then those of the permissions
    intro link
    rw [hrolePermissions]
    have hrole : ∀ link, link ∈ ((t.roles.named? sampleRole).elim t fun role =>
        t.deleteRoleLinks role).rolePermissions ↔ link ∈ t.rolePermissions ∧
          ∀ role ∈ t.roles.rows, role.name = sampleRole → link.1 ≠ role.id := by
      intro link
      cases hnamed : t.roles.named? sampleRole with
      | none =>
          have habsent := Lib.NamedTable.named?_eq_none.mp hnamed
          exact ⟨fun hlink => ⟨hlink, fun role hrow hname => absurd hname (habsent role hrow)⟩,
            And.left⟩
      | some found =>
          obtain ⟨hfound, hname⟩ := Lib.NamedTable.named?_eq_some.mp hnamed
          show link ∈ t.rolePermissions.filter _ ↔ _
          rw [List.mem_filter, decide_eq_true_eq]
          refine and_congr_right fun _ => ⟨fun hid role hrow hsample => ?_, fun hall => ?_⟩
          · rw [Lib.eq_of_key_eq t.roles.names hrow hfound (hsample.trans hname.symm)]
            exact hid
          · exact hall found hfound hname
    generalize ((t.roles.named? sampleRole).elim t fun role => t.deleteRoleLinks role) = t' at hrole
    dsimp only
    rw [← and_assoc, ← hrole]
    split
    · rename_i hempty
      have habsent : ∀ row ∈ t.permissions.rows, row.action ∉ samplePermissions := by
        simpa [sampleRows] using hempty
      exact ⟨fun hlink => ⟨hlink, fun row hrow haction => absurd haction (habsent row hrow)⟩,
        And.left⟩
    · show link ∈ t'.rolePermissions.filter _ ↔ _
      rw [List.mem_filter, decide_eq_true_eq]
      refine and_congr_right fun _ => ⟨fun hid row hrow haction heq => ?_, fun hall hid => ?_⟩
      · exact hid (List.mem_map.mpr
          ⟨row, List.mem_filter.mpr ⟨hrow, decide_eq_true haction⟩, heq.symm⟩)
      · obtain ⟨row, hrow, heq⟩ := List.mem_map.mp hid
        obtain ⟨hrow, haction⟩ := List.mem_filter.mp hrow
        exact hall row hrow (of_decide_eq_true haction) heq.symm

/-- Clearing keeps the links sound. -/
theorem clearSampleRoles_carried (h : t.Carried) : (clearSampleRoles t).Carried := by
  obtain ⟨husers, hroles, hpermissions⟩ := mem_clearSampleRoles t
  obtain ⟨huserRoles, hlinks⟩ := clearSampleRoles_links h
  refine ⟨?_, ?_, ?_⟩
  · intro link hlink
    rw [huserRoles] at hlink
    obtain ⟨hlink, hother⟩ := List.mem_filter.mp hlink
    obtain ⟨user, huser, hid⟩ := h.users link hlink
    exact ⟨user, (husers user).mpr ⟨huser, hid ▸ of_decide_eq_true hother⟩, hid⟩
  · intro link hlink
    obtain ⟨hlink, hother, -⟩ := (hlinks link).mp hlink
    obtain ⟨role, hrole, hid⟩ := h.roles link hlink
    exact ⟨role, (hroles role).mpr ⟨hrole, fun hname => hother role hrole hname hid.symm⟩, hid⟩
  · intro link hlink
    obtain ⟨hlink, -, hother⟩ := (hlinks link).mp hlink
    obtain ⟨permission, hrow, hid⟩ := h.permissions link hlink
    exact ⟨permission, (hpermissions permission).mpr
      ⟨hrow, fun haction => hother permission hrow haction hid.symm⟩, hid⟩

end Clear

/-! ## What is seeded -/

section Seed

variable {t : RbacTables}

theorem sample_sorted : sortedSet [sampleRole] = [sampleRole] ∧
    sortedSet samplePermissions = samplePermissions := by decide +kernel

namespace SeededRoles

variable {seeded : RbacTables} {role : Role}

theorem user_mem (h : SeededRoles t seeded role) : ∃ user ∈ seeded.users, user.id = sampleUser.id := by
  rw [h.users]
  exact List.mem_map.mp (Lib.key_mem_ensureRow User.id t.users sampleUser)

/-- Seeding keeps the links sound. -/
theorem carried (h : SeededRoles t seeded role) (ht : t.Carried) : seeded.Carried := by
  refine ⟨?_, ?_, ?_⟩
  · intro link hlink
    rw [h.userRoles] at hlink
    rcases Lib.mem_of_mem_ensureRow hlink with hlink | rfl
    · obtain ⟨user, huser, hid⟩ := ht.users link hlink
      rw [h.users]
      exact ⟨user, Lib.mem_ensureRow huser sampleUser, hid⟩
    · exact h.user_mem
  · intro link hlink
    rcases h.links link hlink with hlink | ⟨hid, -⟩
    · obtain ⟨role', hrole, hid⟩ := ht.roles link hlink
      rw [h.roles]
      exact ⟨role', Lib.NamedTable.mem_ensure hrole sampleRole, hid⟩
    · exact ⟨role, h.role_mem.1, hid.symm⟩
  · intro link hlink
    rcases h.links link hlink with hlink | ⟨-, permission, hrow, hid, -⟩
    · obtain ⟨permission, hrow, hid⟩ := ht.permissions link hlink
      exact ⟨permission, h.permissions hrow, hid⟩
    · exact ⟨permission, hrow, hid⟩

/-- Where neither the role nor the user was there, the user has the sample role and no other, and
the role the sample permissions and no others. -/
theorem context (h : SeededRoles t seeded role) (ht : t.Carried)
    (hrole : t.roles.named? sampleRole = none) (huser : ∀ user ∈ t.users, user.id ≠ sampleUser.id) :
    getUserContext seeded.userRows sampleUser.id =
      some ⟨sampleUser.id, some sampleRole, [sampleRole], samplePermissions⟩ := by
  obtain ⟨hmem, hname⟩ := h.role_mem
  -- no row has the id of a role that was just made
  have hfresh : ∀ role' ∈ t.roles.rows, role'.id ≠ role.id := by
    intro role' hrole' hid
    rw [h.role_eq, (Lib.NamedTable.ensure_of_none hrole).1] at hid
    exact Lib.NamedTable.newRow_id_notMem t.roles sampleRole
      (List.mem_map.mpr ⟨role', hrole', hid⟩)
  -- so a link of the user leads to the role only
  have hheld : ∀ role' ∈ seeded.roles.rows,
      (sampleUser.id, role'.id) ∈ seeded.userRoles ↔ role' = role := by
    intro role' hrole'
    rw [h.userRoles]
    constructor
    · intro hlink
      rcases Lib.mem_of_mem_ensureRow hlink with hlink | heq
      · obtain ⟨user, hrow, hid⟩ := ht.users _ hlink
        exact absurd hid (huser user hrow)
      · exact Lib.eq_of_key_eq seeded.roles.ids hrole' hmem (congrArg Prod.snd heq)
    · rintro rfl
      exact mem_ensureLink t.userRoles _
  -- and a link of the role to a sample permission only
  have hcarried : ∀ permission ∈ seeded.permissions.rows,
      (role.id, permission.id) ∈ seeded.rolePermissions ↔
        permission.action ∈ samplePermissions := by
    intro permission hrow
    constructor
    · intro hlink
      rcases h.links _ hlink with hlink | ⟨-, permission', hrow', hid, hsample⟩
      · obtain ⟨role', hrole', hid⟩ := ht.roles _ hlink
        exact absurd hid (hfresh role' hrole')
      · rwa [← Lib.eq_of_key_eq seeded.permissions.ids hrow' hrow hid]
    · intro hsample
      obtain ⟨permission', hnamed, hlink⟩ := h.permitted _ hsample
      obtain ⟨hrow', haction⟩ := Lib.NamedTable.named?_eq_some.mp hnamed
      rwa [← Lib.eq_of_key_eq seeded.permissions.names hrow' hrow haction]
  -- roles and permissions of the context are what the directory says
  have hroles : ∀ name, name ∈ [sampleRole] ↔ (sampleUser.id, name) ∈ seeded.directory.holds := by
    intro name
    rw [List.mem_singleton]
    constructor
    · rintro rfl
      exact ⟨h.user_mem, role, hmem, (hheld role hmem).mpr rfl, hname⟩
    · rintro ⟨-, role', hrole', hlink, rfl⟩
      rw [(hheld role' hrole').mp hlink, hname]
  have hpermissions : ∀ action, action ∈ samplePermissions ↔
      seeded.directory.May sampleUser.id action := by
    intro action
    rw [Lib.Rbac.may_iff]
    constructor
    · intro haction
      obtain ⟨permission, hnamed, hlink⟩ := h.permitted action haction
      obtain ⟨hrow, hnamed⟩ := Lib.NamedTable.named?_eq_some.mp hnamed
      exact ⟨sampleRole, (hroles sampleRole).mp (List.mem_singleton.mpr rfl), role, hmem,
        permission, hrow, hlink, hname, hnamed⟩
    · rintro ⟨name, hholds, role', hrole', permission, hrow, hlink, hname', rfl⟩
      have hsample := List.mem_singleton.mp ((hroles name).mpr hholds)
      have heq : role' = role := Lib.eq_of_key_eq seeded.roles.names hrole' hmem
        (hname'.trans (hsample.trans hname.symm))
      rw [heq] at hlink
      exact (hcarried permission hrow).mp hlink
  rw [getUserContext_eq h.user_mem hroles hpermissions, sample_sorted.1, sample_sorted.2]
  rfl

end SeededRoles

end Seed

/-! ## The policies that are seeded -/

section Policies

variable {s : PolicyStore} {tenantId : Int} {change : PolicyChange}

theorem mem_currentPolicyRows {policySet : String} {row : PolicyVersion × Policy} :
    row ∈ s.currentPolicyRows tenantId policySet ↔ row.1 ∈ s.versions ∧ row.2 ∈ s.policies ∧
      IsCurrentRow tenantId (normalizedPolicySet policySet) row := by
  unfold PolicyStore.currentPolicyRows PolicyStore.joined
  rw [Lib.mem_sortOn, Lib.mem_sortOn, List.mem_filter, List.mem_flatMap, decide_eq_true_eq,
    ← and_assoc]
  refine and_congr_left fun _ => ?_
  constructor
  · rintro ⟨v, hv, hrow⟩
    obtain ⟨p, hp, rfl⟩ := List.mem_map.mp hrow
    exact ⟨hv, hp⟩
  · rintro ⟨hv, hp⟩
    exact ⟨row.1, hv, List.mem_map.mpr ⟨row.2, hp, rfl⟩⟩

/-- Seeding a policy stores what creating its first version stores. -/
theorem createPolicyVersion_addPolicy (h : s.findPolicy tenantId change.policyKey = none) :
    ∃ result, s.createPolicyVersion tenantId change = .ok (result, s.addPolicy tenantId change h) := by
  obtain ⟨s', hcreate, hpolicies, hversions⟩ := create_new h
  have hstore : s' = s.addPolicy tenantId change h := by
    cases s'
    unfold PolicyStore.addPolicy
    congr
  rw [← hstore]
  exact ⟨_, hcreate⟩

/-- The definition of the first version of a policy. -/
def PolicyChange.firstDefinition (change : PolicyChange) : PolicyDefinition where
  action := change.action
  effect := .ofText change.effect
  priority := change.priority
  conditions := change.conditions
  policyId := some s!"{change.policyKey}:v{(1 : Int)}"

/-- The definitions the engine is given for a tenant. -/
def PolicyStore.definitions (s : PolicyStore) (tenantId : Int) : List PolicyDefinition :=
  (s.listCurrentPolicies tenantId).map PolicyRecord.definition

theorem definitions_eq_map (s : PolicyStore) (tenantId : Int) :
    s.definitions tenantId = (s.currentPolicyRows tenantId "active").map rowDefinition := by
  unfold PolicyStore.definitions PolicyStore.listCurrentPolicies
  rw [List.map_map]
  rfl

theorem map_rowDefinition_sortOn (rows : List (PolicyVersion × Policy)) :
    (Lib.sortOn (fun row => row.1.priority) rows).map rowDefinition =
      Lib.sortOn PolicyDefinition.priority (rows.map rowDefinition) := by
  symm
  apply Lib.sortOn_map
  exact fun _ => rfl

theorem definitions_sorted (s : PolicyStore) (tenantId : Int) :
    Lib.sortOn PolicyDefinition.priority (s.definitions tenantId) = s.definitions tenantId := by
  rw [definitions_eq_map]
  unfold PolicyStore.currentPolicyRows
  rw [map_rowDefinition_sortOn, Lib.sortOn_sortOn]

/-- A seeded policy is listed behind the others of its priority. -/
theorem definitions_addPolicy (h : s.findPolicy tenantId change.policyKey = none)
    (hactive : change.state = "active") :
    (s.addPolicy tenantId change h).definitions tenantId =
      Lib.sortOn PolicyDefinition.priority (s.definitions tenantId ++ [change.firstDefinition]) := by
  obtain ⟨result, hcreate⟩ := createPolicyVersion_addPolicy h
  obtain ⟨v, p, hv, hkey, hrows⟩ :=
    currentRows_create_listed hcreate (hactive.trans normalizedPolicySet_active.symm)
  have hother : ((s.currentPolicyRows tenantId "active").filter fun row =>
      row.2.policyKey ≠ change.policyKey) = s.currentPolicyRows tenantId "active" := by
    rw [List.filter_eq_self]
    intro row hrow
    obtain ⟨-, hp, hcurrent⟩ := mem_currentPolicyRows.mp hrow
    exact decide_eq_true fun hsame =>
      findPolicy_none h row.2 hp (Prod.ext hcurrent.2.1 hsame)
  -- the policy of the new row is the one that was added
  have hp : p = s.newPolicy tenantId change.policyKey := by
    have hlisted : (v, p) ∈ (s.addPolicy tenantId change h).currentPolicyRows tenantId "active" := by
      rw [hrows, Lib.mem_sortOn]
      exact List.mem_append_right _ (List.mem_singleton.mpr rfl)
    obtain ⟨-, hp, hcurrent⟩ := mem_currentPolicyRows.mp hlisted
    apply Lib.eq_of_key_eq (s.addPolicy tenantId change h).policyKeys hp
    · exact List.mem_append_right _ (List.mem_singleton.mpr rfl)
    · exact Prod.ext hcurrent.2.1 hkey
  have hnew : rowDefinition (v, p) = change.firstDefinition := by
    rw [hv, hp]
    rfl
  rw [hother] at hrows
  rw [definitions_eq_map, definitions_eq_map, hrows, map_rowDefinition_sortOn, List.map_append,
    List.map_singleton, hnew]

/-- The keys still to be stored are as new as before. -/
theorem findPolicy_others {changes : List PolicyChange}
    (hkeys : ((change :: changes).map PolicyChange.policyKey).Nodup)
    (hnew : ∀ other ∈ change :: changes, s.findPolicy tenantId other.policyKey = none)
    (h : s.findPolicy tenantId change.policyKey = none) :
    ∀ other ∈ changes, (s.addPolicy tenantId change h).findPolicy tenantId other.policyKey =
      none := by
  intro other hother
  have hne : (s.newPolicy tenantId change.policyKey).key ≠ (tenantId, other.policyKey) := by
    intro hkey
    have hsame : change.policyKey = other.policyKey := congrArg Prod.snd hkey
    exact (List.nodup_cons.mp hkeys).1 (hsame ▸ List.mem_map_of_mem hother)
  rw [findPolicy_addPolicy, hnew other (List.mem_cons_of_mem _ hother), if_neg hne,
    Option.none_or]

/-- Policies whose keys the tenant does not have are listed by priority, in their order. -/
theorem definitions_ensurePolicies {changes : List PolicyChange}
    (hkeys : (changes.map PolicyChange.policyKey).Nodup)
    (hnew : ∀ change ∈ changes, s.findPolicy tenantId change.policyKey = none)
    (hactive : ∀ change ∈ changes, change.state = "active")
    (hsorted : Lib.sortOn PolicyDefinition.priority (s.definitions tenantId) =
      s.definitions tenantId) :
    (Lib.ensureAll (ensurePolicy tenantId) changes s).2.definitions tenantId =
      Lib.sortOn PolicyDefinition.priority
        (s.definitions tenantId ++ changes.map PolicyChange.firstDefinition) := by
  induction changes generalizing s with
  | nil =>
      rw [List.map_nil, List.append_nil, hsorted]
      rfl
  | cons change changes ih =>
      -- the first policy is new, and is listed behind those that are there
      have h := hnew change List.mem_cons_self
      have hstep : (Lib.ensureAll (ensurePolicy tenantId) (change :: changes) s).2 =
          (Lib.ensureAll (ensurePolicy tenantId) changes (s.addPolicy tenantId change h)).2 := by
        show (Lib.ensureAll (ensurePolicy tenantId) changes (ensurePolicy tenantId change s).2).2 = _
        rw [ensurePolicy_of_none h]
      have hlisted := definitions_addPolicy h (hactive change List.mem_cons_self)
      rw [hstep, ih, hlisted, Lib.sortOn_sortOn_append, List.map_cons, List.append_assoc]
      · rfl
      · exact (List.nodup_cons.mp hkeys).2
      · -- adding it takes no other key
        exact findPolicy_others hkeys hnew h
      · exact fun other hother => hactive other (List.mem_cons_of_mem _ hother)
      · rw [hlisted, Lib.sortOn_sortOn]

end Policies

/-! ## Every seeding keeps the links sound -/

section Database

variable {db : SeedDatabase} {tenantKey : String}

/-- The tables after a seeding. -/
def SeedDatabase.seed (db : SeedDatabase) (call : String × Bool) : SeedDatabase :=
  (seedDemoData db call.1 call.2).2

theorem clearSampleData_sound (h : db.Sound) (tenantKey : String) :
    (clearSampleData db tenantKey).Sound := by
  unfold clearSampleData
  split
  · exact h
  · rename_i tenant hfind
    have hkept : ∀ tenantId : Int, tenantId ≠ tenant.id →
        (∃ row ∈ db.tenants.rows, row.id = tenantId) →
        ∃ row ∈ (db.tenants.deleteTenant tenant.id).rows, row.id = tenantId := by
      rintro tenantId hne ⟨row, hrow, hid⟩
      exact ⟨row, List.mem_filter.mpr ⟨hrow, decide_eq_true (hid ▸ hne)⟩, hid⟩
    refine ⟨clearSampleRoles_carried h.rbac, ?_, ?_, ?_⟩
    · intro row hrow
      obtain ⟨hrow, hne⟩ := List.mem_filter.mp hrow
      exact hkept _ (of_decide_eq_true hne) (h.relationships row hrow)
    · intro p hp
      obtain ⟨hp, hne⟩ := List.mem_filter.mp hp
      exact hkept _ (of_decide_eq_true hne) (h.policies p hp)
    · intro v hv
      obtain ⟨hv, hother⟩ := List.mem_filter.mp hv
      obtain ⟨p, hp, hid, htenant⟩ := h.versions v hv
      have hother : v.tenantId ≠ tenant.id ∧ _ := of_decide_eq_true hother
      exact ⟨p, List.mem_filter.mpr ⟨hp, decide_eq_true (htenant ▸ hother.1)⟩, hid, htenant⟩

theorem mem_seedRelationship {tenantId : Int} {record : RelationshipRecord} {t : RelationshipTable}
    {row : RelationshipRow} (h : row ∈ (seedRelationship tenantId record t).2.rows) :
    row ∈ t.rows ∨ row.tenantId = tenantId := by
  unfold seedRelationship at h
  split at h
  · exact Or.inl h
  · rename_i hcreate
    rw [RelationshipTable.create_ok hcreate] at h
    rcases List.mem_append.mp h with h | h
    · exact Or.inl h
    · rw [List.mem_singleton.mp h]
      exact Or.inr rfl

/-- The policies that are seeded are the tenant's, and their versions are. -/
theorem ensurePolicies_sound {T : Int → Prop} {tenantId : Int} (htenant : T tenantId)
    (changes : List PolicyChange) {s : PolicyStore} (hpolicies : ∀ p ∈ s.policies, T p.tenantId)
    (hversions : ∀ v ∈ s.versions, ∃ p ∈ s.policies, p.id = v.policyId ∧ p.tenantId = v.tenantId) :
    (∀ p ∈ (Lib.ensureAll (ensurePolicy tenantId) changes s).2.policies, T p.tenantId) ∧
      ∀ v ∈ (Lib.ensureAll (ensurePolicy tenantId) changes s).2.versions,
        ∃ p ∈ (Lib.ensureAll (ensurePolicy tenantId) changes s).2.policies,
          p.id = v.policyId ∧ p.tenantId = v.tenantId := by
  refine @Lib.ensureAll_keeps PolicyChange PolicyStore (ensurePolicy tenantId)
    (fun s => (∀ p ∈ s.policies, T p.tenantId) ∧ ∀ v ∈ s.versions,
      ∃ p ∈ s.policies, p.id = v.policyId ∧ p.tenantId = v.tenantId) changes ?_ s
    ⟨hpolicies, hversions⟩
  rintro change - s' ⟨hpolicies, hversions⟩
  -- a policy that is there is left as it is
  cases h : s'.findPolicy tenantId change.policyKey with
  | some p =>
      rw [ensurePolicy_of_some h]
      exact ⟨hpolicies, hversions⟩
  | none =>
      -- a new one is of the tenant, and its version refers to it
      rw [ensurePolicy_of_none h]
      refine ⟨?_, ?_⟩
      · intro p hp
        rcases List.mem_append.mp hp with hp | hp
        · exact hpolicies p hp
        · rw [List.mem_singleton.mp hp]
          exact htenant
      · intro v hv
        rcases List.mem_append.mp hv with hv | hv
        · obtain ⟨p, hp, hjoined⟩ := hversions v hv
          exact ⟨p, List.mem_append_left _ hp, hjoined⟩
        · rw [List.mem_singleton.mp hv]
          exact ⟨s'.newPolicy tenantId change.policyKey,
            List.mem_append_right _ (List.mem_singleton.mpr rfl), rfl, rfl⟩

theorem seed_sound (h : db.Sound) (call : String × Bool) : (db.seed call).Sound := by
  obtain ⟨tenantKey, reset⟩ := call
  -- after a reset or without one, the tables are sound
  have hkept : (if reset then clearSampleData db tenantKey else db).Sound := by
    split
    · exact clearSampleData_sound h tenantKey
    · exact h
  unfold SeedDatabase.seed
  rw [seedDemoData_tables]
  generalize (if reset then clearSampleData db tenantKey else db) = kept at hkept ⊢
  let T : Int → Prop := fun tenantId =>
    ∃ tenant ∈ (kept.tenants.getOrCreate tenantKey).2.rows, tenant.id = tenantId
  have hnew : T (kept.tenants.getOrCreate tenantKey).1.id :=
    ⟨_, (TenantTable.find?_some (kept.tenants.find?_getOrCreate tenantKey)).1, rfl⟩
  have hold : ∀ tenantId, (∃ tenant ∈ kept.tenants.rows, tenant.id = tenantId) → T tenantId := by
    rintro tenantId ⟨tenant, hrow, hid⟩
    exact ⟨tenant, (grown_getOrCreate kept.tenants tenantKey).1.subset hrow, hid⟩
  obtain ⟨hpolicies, hversions⟩ := ensurePolicies_sound hnew samplePolicyDefinitions
    (fun p hp => hold _ (hkept.policies p hp)) hkept.versions
  refine ⟨(seedRoles_seeded kept.rbac).carried hkept.rbac, ?_, hpolicies, hversions⟩
  intro row hrow
  -- the relationship is of the tenant as well
  rcases mem_seedRelationship hrow with hrow | htenant
  · exact hold _ (hkept.relationships row hrow)
  · show T row.tenantId
    rw [htenant]
    exact hnew

/-! ## What a reset restores -/

/-- A tenant that nothing belongs to has the seeded relationship and no other. -/
theorem seedRelationship_only {tenantId : Int} {record : RelationshipRecord} {t : RelationshipTable}
    (h : ∀ row ∈ t.rows, row.tenantId ≠ tenantId) :
    ((seedRelationship tenantId record t).2.rows.filter fun row => row.tenantId = tenantId).map
      RelationshipRow.record = [record] := by
  have hnew : (t.rows.filter fun row => row.tenantId = tenantId) = [] := by
    rw [List.filter_eq_nil_iff]
    exact fun row hrow heq => h row hrow (of_decide_eq_true heq)
  unfold seedRelationship
  rcases hcreate : t.create tenantId record with e | ⟨id, t'⟩
  · -- the tuple is not taken
    unfold RelationshipTable.create at hcreate
    dsimp only at hcreate
    split at hcreate
    · rename_i htaken
      obtain ⟨row, hrow, hkey⟩ := List.mem_map.mp htaken
      exact absurd (congrArg Prod.fst hkey) (h row hrow)
    · cases hcreate
  · dsimp only
    rw [RelationshipTable.create_ok hcreate, List.filter_append, hnew, List.nil_append]
    simp

/-- What is left of the tenant's rows when it is cleared. -/
theorem clearSampleData_found {tenant : TenantRecord}
    (h : db.tenants.find? tenantKey = some tenant) : clearSampleData db tenantKey =
      ⟨clearSampleRoles db.rbac, db.tenants.deleteTenant tenant.id,
        db.relationships.deleteTenant tenant.id, db.policies.deleteTenant tenant.id⟩ := by
  unfold clearSampleData
  rw [h]

theorem find?_deleteTenant {tenant : TenantRecord} (h : db.tenants.find? tenantKey = some tenant) :
    (db.tenants.deleteTenant tenant.id).find? tenantKey = none := by
  unfold TenantTable.find?
  rw [List.find?_eq_none]
  intro row hrow hkey
  obtain ⟨hrow, hne⟩ := List.mem_filter.mp hrow
  obtain ⟨hfound, hfoundKey⟩ := TenantTable.find?_some h
  have heq : row = tenant := Lib.eq_of_key_eq db.tenants.keys hrow hfound
    ((of_decide_eq_true hkey).trans hfoundKey.symm)
  exact of_decide_eq_true hne (congrArg TenantRecord.id heq)

/-- A tenant that is stored anew has nothing that is stored already. -/
theorem newTenant_unused (h : db.Sound) (hnone : db.tenants.find? tenantKey = none) :
    (∀ row ∈ db.relationships.rows, row.tenantId ≠ (db.tenants.getOrCreate tenantKey).1.id) ∧
      ∀ p ∈ db.policies.policies, p.tenantId ≠ (db.tenants.getOrCreate tenantKey).1.id := by
  have hfresh : ∀ tenantId, (∃ tenant ∈ db.tenants.rows, tenant.id = tenantId) →
      tenantId ≠ (db.tenants.getOrCreate tenantKey).1.id := by
    rintro tenantId ⟨tenant, hrow, hid⟩ heq
    rw [TenantTable.getOrCreate_eq, hnone] at heq
    exact Lib.freshId_notMem (db.tenants.rows.map TenantRecord.id)
      (List.mem_map.mpr ⟨tenant, hrow, hid.trans heq⟩)
  exact ⟨fun row hrow => hfresh _ (h.relationships row hrow),
    fun p hp => hfresh _ (h.policies p hp)⟩

theorem sample_keys : (samplePolicyDefinitions.map PolicyChange.policyKey).Nodup := by
  decide +kernel

/-- The sample policies are active, and of one priority. -/
theorem sample_policies : (∀ change ∈ samplePolicyDefinitions, change.state = "active") ∧
    Lib.sortOn PolicyDefinition.priority
      (samplePolicyDefinitions.map PolicyChange.firstDefinition) =
        samplePolicyDefinitions.map PolicyChange.firstDefinition := by
  refine ⟨?_, ?_⟩
  · simp [samplePolicyDefinitions]
  · apply Lib.sortOn_eq_self
    simp [samplePolicyDefinitions, PolicyChange.firstDefinition]

/-- A reset of a tenant that is there. -/
theorem reset_seeds (h : db.Sound) (htenant : (db.tenants.find? tenantKey).isSome) :
    ∃ tenant, (db.seed (tenantKey, true)).tenants.find? tenantKey = some tenant ∧
      getUserContext (db.seed (tenantKey, true)).rbac.userRows sampleUser.id =
        some ⟨sampleUser.id, some sampleRole, [sampleRole], samplePermissions⟩ ∧
      ((db.seed (tenantKey, true)).relationships.rows.filter
        fun row => row.tenantId = tenant.id).map RelationshipRow.record = [sampleRelationship] ∧
      (db.seed (tenantKey, true)).policies.definitions tenant.id =
        samplePolicyDefinitions.map PolicyChange.firstDefinition := by
  obtain ⟨old, hold⟩ := Option.isSome_iff_exists.mp htenant
  -- the reset leaves no role, no user and no policy of the sample
  have hsound := clearSampleData_sound h tenantKey
  obtain ⟨husers, hroles, -⟩ := mem_clearSampleRoles db.rbac
  have hnone : (clearSampleData db tenantKey).tenants.find? tenantKey = none := by
    rw [clearSampleData_found hold]
    exact find?_deleteTenant hold
  have hrbac : (clearSampleData db tenantKey).rbac = clearSampleRoles db.rbac := by
    rw [clearSampleData_found hold]
  obtain ⟨hrelationships, hpolicies⟩ := newTenant_unused hsound hnone
  have hrole : (clearSampleData db tenantKey).rbac.roles.named? sampleRole = none := by
    rw [hrbac, Lib.NamedTable.named?_eq_none]
    exact fun role hrole => ((hroles role).mp hrole).2
  have huser : ∀ user ∈ (clearSampleData db tenantKey).rbac.users, user.id ≠ sampleUser.id := by
    rw [hrbac]
    exact fun user huser => ((husers user).mp huser).2
  unfold SeedDatabase.seed
  rw [seedDemoData_tables, if_pos rfl]
  generalize clearSampleData db tenantKey = kept at *
  refine ⟨_, kept.tenants.find?_getOrCreate tenantKey,
    (seedRoles_seeded kept.rbac).context hsound.rbac hrole huser,
    seedRelationship_only hrelationships, ?_⟩
  -- no policy is of the new tenant yet, so each of the sample is written
  have hunknown : ∀ policyKey,
      kept.policies.findPolicy (kept.tenants.getOrCreate tenantKey).1.id policyKey = none := by
    intro policyKey
    cases hfind : kept.policies.findPolicy _ policyKey with
    | none => rfl
    | some p =>
        obtain ⟨hp, htenant, -⟩ := findPolicy_some hfind
        exact absurd htenant (hpolicies p hp)
  have hempty : kept.policies.definitions (kept.tenants.getOrCreate tenantKey).1.id = [] := by
    unfold PolicyStore.definitions PolicyStore.listCurrentPolicies
    rw [List.map_map, List.map_eq_nil_iff, List.eq_nil_iff_forall_not_mem]
    intro row hrow
    obtain ⟨-, hp, hcurrent⟩ := mem_currentPolicyRows.mp hrow
    exact hpolicies row.2 hp hcurrent.2.1
  have hlisted := definitions_ensurePolicies sample_keys (fun change _ => hunknown change.policyKey)
    sample_policies.1 (by rw [hempty, Lib.sortOn_nil])
  rw [hempty, List.nil_append, sample_policies.2] at hlisted
  exact hlisted

/-- Every run of seedings keeps the links sound. -/
theorem seeds_sound (h : db.Sound) (calls : List (String × Bool)) :
    (Lib.run SeedDatabase.seed db calls).Sound := by
  refine @Lib.run_preserves SeedDatabase (String × Bool) SeedDatabase.seed SeedDatabase.Sound ?_ db
    h calls
  exact fun _ call h => seed_sound h call

/-- After a run of seedings, and a reset of a tenant that is there, the sample user has the sample
role and no other, the role the sample permissions and no others, and the tenant the sample
relationship and the sample policies and no others. -/
theorem reset_restores (h : db.Sound) (calls : List (String × Bool)) {tenantKey : String}
    (htenant : ((Lib.run SeedDatabase.seed db calls).tenants.find? tenantKey).isSome) :
    let db' := Lib.run SeedDatabase.seed db (calls ++ [(tenantKey, true)])
    ∃ tenant, db'.tenants.find? tenantKey = some tenant ∧
      getUserContext db'.rbac.userRows sampleUser.id =
        some ⟨sampleUser.id, some sampleRole, [sampleRole], samplePermissions⟩ ∧
      (db'.relationships.rows.filter fun row => row.tenantId = tenant.id).map
        RelationshipRow.record = [sampleRelationship] ∧
      db'.policies.definitions tenant.id =
        samplePolicyDefinitions.map PolicyChange.firstDefinition := by
  intro db'
  have hrun : db' = (Lib.run SeedDatabase.seed db calls).seed (tenantKey, true) := by
    show Lib.run SeedDatabase.seed db (calls ++ [(tenantKey, true)]) = _
    rw [Lib.run_append, Lib.run_cons, Lib.run_nil]
  rw [hrun]
  exact reset_seeds (seeds_sound h calls) htenant

/-! ## What a reset leaves to other users -/

/-- The ids of the roles that a reset leaves. -/
def RbacTables.otherRoleIds (t : RbacTables) : List Int :=
  (t.roles.rows.filter fun role => role.name ≠ sampleRole).map Role.id

/-- Another user holds the role after a reset when a link of its own carries the id the role is
given. -/
theorem reset_holders (h : db.Sound) (htenant : (db.tenants.find? tenantKey).isSome) {user : User}
    (huser : user ∈ db.rbac.users) (hother : user.id ≠ sampleUser.id) :
    (user.id, sampleRole) ∈ (db.seed (tenantKey, true)).rbac.directory.holds ↔
      (user.id, Lib.freshId db.rbac.otherRoleIds) ∈ db.rbac.userRoles := by
  obtain ⟨old, hold⟩ := Option.isSome_iff_exists.mp htenant
  obtain ⟨husers, hroles, -⟩ := clearSampleRoles_rows db.rbac
  obtain ⟨hlinks, -⟩ := clearSampleRoles_links h.rbac
  have hrbac : (db.seed (tenantKey, true)).rbac = (seedRoles (clearSampleRoles db.rbac)).2 := by
    unfold SeedDatabase.seed
    rw [seedDemoData_tables, if_pos rfl, clearSampleData_found hold]
    rfl
  -- the role is made again, under the next id
  have hseeded := seedRoles_seeded (clearSampleRoles db.rbac)
  have hnone : (clearSampleRoles db.rbac).roles.named? sampleRole = none := by
    rw [Lib.NamedTable.named?_eq_none, hroles]
    exact fun role hrole => of_decide_eq_true (List.mem_filter.mp hrole).2
  have hid : ((clearSampleRoles db.rbac).roles.ensure sampleRole).1.id =
      Lib.freshId db.rbac.otherRoleIds := by
    rw [(Lib.NamedTable.ensure_of_none hnone).1]
    show Lib.freshId ((clearSampleRoles db.rbac).roles.rows.map Role.id) = _
    rw [hroles]
    rfl
  have huser' : user ∈ (seedRoles (clearSampleRoles db.rbac)).2.users := by
    rw [hseeded.users, husers]
    exact Lib.mem_ensureRow (List.mem_filter.mpr ⟨huser, decide_eq_true hother⟩) sampleUser
  rw [hrbac, ← hid]
  generalize ((clearSampleRoles db.rbac).roles.ensure sampleRole).1 = role at hseeded hid ⊢
  obtain ⟨hmem, hname⟩ := hseeded.role_mem
  -- links of other users are neither deleted nor written
  have hlinked : (user.id, role.id) ∈ (seedRoles (clearSampleRoles db.rbac)).2.userRoles ↔
      (user.id, role.id) ∈ db.rbac.userRoles := by
    rw [hseeded.userRoles, hlinks]
    constructor
    · intro hlink
      rcases Lib.mem_of_mem_ensureRow hlink with hlink | heq
      · exact (List.mem_filter.mp hlink).1
      · exact absurd (congrArg Prod.fst heq) hother
    · intro hlink
      exact Lib.mem_ensureRow (List.mem_filter.mpr ⟨hlink, decide_eq_true hother⟩) _
  rw [← hlinked]
  -- so the user holds the new role through an old link
  constructor
  · rintro ⟨-, role', hrole', hlink, hsame⟩
    rwa [← Lib.eq_of_key_eq (seedRoles (clearSampleRoles db.rbac)).2.roles.names hrole' hmem
      (hsame.trans hname.symm)]
  · intro hlink
    exact ⟨⟨user, huser', rfl⟩, role, hmem, hlink, hname⟩

/-- Where the links were sound, another user has the role after a reset exactly when it had it and
the role had the id that comes after those of the other roles. -/
theorem reset_regained_iff (h : db.Sound) (hlinked : db.rbac.Linked)
    (htenant : (db.tenants.find? tenantKey).isSome) {user : User} (huser : user ∈ db.rbac.users)
    (hother : user.id ≠ sampleUser.id) :
    (∃ context, getUserContext (db.seed (tenantKey, true)).rbac.userRows user.id = some context ∧
        sampleRole ∈ context.roles) ↔
      (∃ context, getUserContext db.rbac.userRows user.id = some context ∧
        sampleRole ∈ context.roles) ∧
        ∃ role, db.rbac.roles.named? sampleRole = some role ∧
          role.id = Lib.freshId db.rbac.otherRoleIds := by
  have hread : ∀ t : RbacTables, (∃ context, getUserContext t.userRows user.id = some context ∧
      sampleRole ∈ context.roles) ↔ (user.id, sampleRole) ∈ t.directory.holds := by
    intro t
    constructor
    · rintro ⟨context, hcontext, hrole⟩
      exact ((getUserContext_directory hcontext).2.2.1 sampleRole).mp hrole
    · intro hholds
      obtain ⟨context, hcontext⟩ :=
        Option.isSome_iff_exists.mp (getUserContext_isSome.mpr hholds.1)
      exact ⟨context, hcontext, ((getUserContext_directory hcontext).2.2.1 sampleRole).mpr hholds⟩
  rw [hread, hread, reset_holders h htenant huser hother]
  constructor
  · intro hlink
    obtain ⟨role, hrole, hid⟩ := hlinked.roles _ hlink
    have hid : role.id = Lib.freshId db.rbac.otherRoleIds := hid
    -- the other roles do not have this id
    have hname : role.name = sampleRole := by
      by_contra hne
      apply Lib.freshId_notMem db.rbac.otherRoleIds
      rw [← hid]
      exact List.mem_map_of_mem (List.mem_filter.mpr ⟨hrole, decide_eq_true hne⟩)
    refine ⟨⟨⟨user, huser, rfl⟩, role, hrole, ?_, hname⟩, role,
      Lib.NamedTable.named?_eq_some.mpr ⟨hrole, hname⟩, hid⟩
    rw [hid]
    exact hlink
  · rintro ⟨⟨-, role, hrole, hlink, hname⟩, role', hnamed, hid⟩
    obtain ⟨hrole', hname'⟩ := Lib.NamedTable.named?_eq_some.mp hnamed
    have heq : role = role' :=
      Lib.eq_of_key_eq db.rbac.roles.names hrole hrole' (hname.trans hname'.symm)
    rwa [← hid, ← heq]

end Database

/-! ## A concrete database -/

section Concrete

theorem stocked_roleIds : [(1 : Int)].Nodup := List.nodup_singleton _

theorem stocked_roleNames : [sampleRole].Nodup := List.nodup_singleton _

theorem stocked_userIds : [(7 : Int)].Nodup := List.nodup_singleton _

theorem stocked_held : [((7 : Int), (1 : Int))].Nodup := List.nodup_singleton _

theorem stocked_tenantKeys : [sampleTenantKey].Nodup := List.nodup_singleton _

theorem no_ids : ([] : List Int).Nodup := List.nodup_nil

theorem no_names : ([] : List String).Nodup := List.nodup_nil

theorem no_carried : ([] : List (Int × Int)).Nodup := List.nodup_nil

/-- The tenant is there, and user 7 is a manager. -/
def stockedDatabase : SeedDatabase where
  rbac :=
    { users := [⟨7, none⟩]
      roles := ⟨[⟨1, sampleRole⟩], stocked_roleIds, stocked_roleNames⟩
      permissions := ⟨[], no_ids, no_names⟩
      userRoles := [(7, 1)]
      rolePermissions := []
      userIds := stocked_userIds
      userRolesKey := stocked_held
      rolePermissionsKey := no_carried }
  tenants := ⟨[⟨1, sampleTenantKey, 1, 1⟩], stocked_roleIds, stocked_tenantKeys⟩
  relationships := noRelationships
  policies := PolicyStore.empty

theorem stocked_linked : stockedDatabase.rbac.Linked where
  users := by decide
  roles := by decide
  permissionRoles := by decide
  permissions := by decide

theorem stocked_sound : stockedDatabase.Sound where
  rbac := ⟨stocked_linked.users, stocked_linked.permissionRoles, stocked_linked.permissions⟩
  relationships := by decide
  policies := by decide
  versions := by
    intro v hv
    cases hv

theorem stocked_reset : ∃ tenant,
    (Lib.run SeedDatabase.seed stockedDatabase [(sampleTenantKey, true)]).tenants.find?
        sampleTenantKey = some tenant ∧
      (Lib.run SeedDatabase.seed stockedDatabase
        [(sampleTenantKey, true)]).policies.definitions tenant.id =
          samplePolicyDefinitions.map PolicyChange.firstDefinition := by
  have htenant : ((Lib.run SeedDatabase.seed stockedDatabase []).tenants.find?
      sampleTenantKey).isSome := by decide
  obtain ⟨tenant, hfind, -, -, hpolicies⟩ := reset_restores stocked_sound [] htenant
  exact ⟨tenant, hfind, hpolicies⟩

/-- The manager keeps the role: it is given its id again. -/
theorem stocked_regained : ∃ context,
    getUserContext (stockedDatabase.seed (sampleTenantKey, true)).rbac.userRows 7 = some context ∧
      sampleRole ∈ context.roles := by
  apply (reset_regained_iff stocked_sound stocked_linked (by decide)
    (List.mem_singleton.mpr rfl) (by decide)).mpr
  refine ⟨⟨⟨7, some sampleRole, [sampleRole], []⟩, by decide +kernel,
    List.mem_singleton.mpr rfl⟩, ⟨1, sampleRole⟩, by decide, by decide⟩

end Concrete

end KeyNetra
