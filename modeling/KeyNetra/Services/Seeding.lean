import KeyNetra.Lib.Ensuring
import KeyNetra.Repo.CurrentRows
import KeyNetra.Repo.Rbac

/-!
# KeyNetra.Services.Seeding — the sample data of a tenant

`seed_demo_data` adds what is missing of the sample data: the tenant, the role with its permissions,
the user with its role, the relationship and the policies. With `reset` it first clears the data of
the tenant.

* `seedDemoData` / `clearSampleData` — the two, over the tables they write;
* `seed_again` — seeding twice is seeding once, and reports that nothing was created;
* `seed_counts` — the summary counts the rows that were added, the links that were missing are
  added with them, and no row is lost.

SQLite, the default database, gives a new row the id after the greatest one, and enforces no foreign
key.
-/

namespace KeyNetra

/-! ## The sample data -/

def sampleTenantKey : String := "default"

/-- `SAMPLE_USER`. -/
def sampleUser : User := ⟨1, some "sample-manager"⟩

/-- The name in `SAMPLE_ROLE`. -/
def sampleRole : String := "manager"

/-- The actions of `SAMPLE_PERMISSIONS`. -/
def samplePermissions : List String := ["approve_payment", "view_project"]

/-- The one entry of `SAMPLE_RELATIONSHIPS`. -/
def sampleRelationship : RelationshipRecord where
  subjectType := "user"
  subjectId := "1"
  relation := "member_of"
  objectType := "team"
  objectId := "engineering"

/-- `SAMPLE_POLICY_DEFINITIONS`, as `_ensure_policy` stores them. -/
def samplePolicyDefinitions : List PolicyChange :=
  [{ policyKey := "approve-manager"
     action := "approve_payment"
     effect := "allow"
     priority := 10
     conditions := [("role", .str "manager"), ("max_amount", .int 100000)]
     createdBy := some "seed-data" },
   { policyKey := "view-owner"
     action := "view_project"
     effect := "allow"
     priority := 10
     conditions := [("owner_only", .bool true)]
     createdBy := some "seed-data" }]

/-- The tables that seeding writes. -/
structure SeedDatabase where
  rbac : RbacTables
  tenants : TenantTable
  relationships : RelationshipTable
  policies : PolicyStore

/-- `SeedSummary`. -/
structure SeedSummary where
  tenantKey : String
  createdTenant : Bool
  createdUser : Bool
  createdRole : Bool
  createdPermissions : Nat
  createdRelationships : Nat
  createdPolicies : Nat
deriving DecidableEq, Repr

/-! ## Seeding -/

theorem nodup_ensureLink {links : List (Int × Int)} (h : links.Nodup) (link : Int × Int) :
    (Lib.ensureRow id links link).Nodup := by
  have hmap : ((Lib.ensureRow id links link).map id).Nodup :=
    Lib.nodup_ensureRow (by rwa [List.map_id]) link
  rwa [List.map_id] at hmap

theorem mem_ensureLink (links : List (Int × Int)) (link : Int × Int) :
    link ∈ Lib.ensureRow id links link := by
  have hmem := Lib.key_mem_ensureRow id links link
  rwa [List.map_id] at hmem

theorem ensureLink_of_mem {links : List (Int × Int)} {link : Int × Int} (h : link ∈ links) :
    Lib.ensureRow id links link = links :=
  Lib.ensureRow_of_mem (by rwa [List.map_id])

/-- One round of the loop over the permissions: the permission, and its link to the role. -/
def seedPermission (role : Role) (action : String) (t : RbacTables) : Nat × RbacTables :=
  let (permission, permissions) := t.permissions.ensure action
  (if (t.permissions.named? action).isSome then 0 else 1,
    { t with
      permissions := permissions
      rolePermissions := Lib.ensureRow id t.rolePermissions (role.id, permission.id)
      rolePermissionsKey := nodup_ensureLink t.rolePermissionsKey _ })

/-- The user, and its link to the role. -/
def seedUser (role : Role) (user : User) (t : RbacTables) : Bool × RbacTables :=
  (decide (user.id ∉ t.users.map User.id),
    { t with
      users := Lib.ensureRow User.id t.users user
      userRoles := Lib.ensureRow id t.userRoles (user.id, role.id)
      userIds := Lib.nodup_ensureRow t.userIds user
      userRolesKey := nodup_ensureLink t.userRolesKey _ })

/-- The role with its permissions, and the user with its role. -/
def seedRoles (t : RbacTables) : (Bool × Nat × Bool) × RbacTables :=
  let createdRole := (t.roles.named? sampleRole).isNone
  let (role, roles) := t.roles.ensure sampleRole
  let t := { t with roles := roles }
  let (createdPermissions, t) := Lib.ensureAll (seedPermission role) samplePermissions t
  let (createdUser, t) := seedUser role sampleUser t
  ((createdRole, createdPermissions, createdUser), t)

/-- The relationship; the tuple it is looked up by is the one the table keeps unique. -/
def seedRelationship (tenantId : Int) (record : RelationshipRecord) (t : RelationshipTable) :
    Nat × RelationshipTable :=
  match t.create tenantId record with
  | .error _ => (0, t)
  | .ok (_, t') => (1, t')

/-- The row of a new policy. -/
def PolicyStore.newPolicy (s : PolicyStore) (tenantId : Int) (policyKey : String) : Policy :=
  ⟨Lib.freshId (s.policies.map Policy.id), tenantId, policyKey, 1⟩

theorem newPolicy_key_notMem {s : PolicyStore} {tenantId : Int} {policyKey : String}
    (h : s.findPolicy tenantId policyKey = none) :
    (s.newPolicy tenantId policyKey).key ∉ s.policies.map Policy.key := by
  intro hmem
  obtain ⟨p, hp, hkey⟩ := List.mem_map.mp hmem
  exact findPolicy_none h p hp hkey

theorem newVersion_key_notMem (s : PolicyStore) (tenantId : Int) (change : PolicyChange) :
    (s.newRow tenantId (s.newPolicy tenantId change.policyKey).id 1 change).key ∉
      s.versions.map PolicyVersion.key := by
  intro hmem
  obtain ⟨v, hv, hkey⟩ := List.mem_map.mp hmem
  have hid : v.policyId = Lib.freshId (s.policies.map Policy.id) := congrArg Prod.fst hkey
  exact Lib.freshId_notMem _ (hid ▸ s.policyRefs v hv)

theorem newPolicy_refs {s : PolicyStore} {tenantId : Int} {change : PolicyChange} :
    ∀ v ∈ s.versions ++ [s.newRow tenantId (s.newPolicy tenantId change.policyKey).id 1 change],
      v.policyId ∈ (s.policies ++ [s.newPolicy tenantId change.policyKey]).map Policy.id := by
  intro v hv
  rw [List.map_append]
  rcases List.mem_append.mp hv with hv | hv
  · exact List.mem_append_left _ (s.policyRefs v hv)
  · rw [List.mem_singleton.mp hv]
    exact List.mem_append_right _ (List.mem_singleton.mpr rfl)

/-- `db.add(policy)` and `db.add(PolicyVersion(…))`. -/
def PolicyStore.addPolicy (s : PolicyStore) (tenantId : Int) (change : PolicyChange)
    (h : s.findPolicy tenantId change.policyKey = none) : PolicyStore where
  policies := s.policies ++ [s.newPolicy tenantId change.policyKey]
  versions := s.versions ++ [s.newRow tenantId (s.newPolicy tenantId change.policyKey).id 1 change]
  policyIds := Lib.nodup_map_append s.policyIds (Lib.freshId_notMem _)
  policyKeys := Lib.nodup_map_append s.policyKeys (newPolicy_key_notMem h)
  versionIds := Lib.nodup_map_append s.versionIds (Lib.freshId_notMem _)
  versionKeys := Lib.nodup_map_append s.versionKeys (newVersion_key_notMem s tenantId change)
  policyRefs := newPolicy_refs

/-- `_ensure_policy`. -/
def ensurePolicy (tenantId : Int) (change : PolicyChange) (s : PolicyStore) : Nat × PolicyStore :=
  match h : s.findPolicy tenantId change.policyKey with
  | some _ => (0, s)
  | none => (1, s.addPolicy tenantId change h)

/-! ## Clearing -/

namespace RbacTables

/-- `delete(user_roles).where(user_id == …)`. -/
def deleteUserRoles (t : RbacTables) (user : User) : RbacTables :=
  { t with
    userRoles := t.userRoles.filter fun link => link.1 ≠ user.id
    userRolesKey := t.userRolesKey.filter _ }

theorem carriersLeft_nodup (t : RbacTables) (role : Role) :
    (t.rolePermissions.filter fun link => link.1 ≠ role.id).Nodup := t.rolePermissionsKey.filter _

/-- `delete(role_permissions).where(role_id == …)`. -/
def deleteRoleLinks (t : RbacTables) (role : Role) : RbacTables :=
  { t with
    rolePermissions := t.rolePermissions.filter fun link => link.1 ≠ role.id
    rolePermissionsKey := t.carriersLeft_nodup role }

/-- `delete(role_permissions).where(permission_id.in_(…))`. -/
def deletePermissionLinks (t : RbacTables) (ids : List Int) : RbacTables :=
  { t with
    rolePermissions := t.rolePermissions.filter fun link => link.2 ∉ ids
    rolePermissionsKey := t.rolePermissionsKey.filter _ }

/-- `delete(Role).where(id == …)`. -/
def deleteRoleRow (t : RbacTables) (role : Role) : RbacTables :=
  { t with roles := t.roles.deleteAll [role.id] }

/-- `delete(Permission).where(id.in_(…))`. -/
def deletePermissionRows (t : RbacTables) (ids : List Int) : RbacTables :=
  { t with permissions := t.permissions.deleteAll ids }

/-- `delete(User).where(id == …)`. -/
def deleteUserRow (t : RbacTables) (user : User) : RbacTables :=
  { t with
    users := t.users.filter fun row => row.id ≠ user.id
    userIds := Lib.nodup_map_filter _ t.userIds }

end RbacTables

/-- The sample role, user and permissions are deleted with their links; the links of other users
to the role are left. -/
def clearSampleRoles (t : RbacTables) : RbacTables :=
  let role := t.roles.named? sampleRole
  let user := t.users.find? fun row => row.id = sampleUser.id
  let permissions := t.permissions.rows.filter fun permission =>
    permission.action ∈ samplePermissions
  let ids := permissions.map Permission.id
  let t := user.elim t t.deleteUserRoles
  let t := role.elim t t.deleteRoleLinks
  let t := if permissions.isEmpty then t else t.deletePermissionLinks ids
  let t := role.elim t t.deleteRoleRow
  let t := if permissions.isEmpty then t else t.deletePermissionRows ids
  user.elim t t.deleteUserRow

/-- `delete(Relationship).where(tenant_id == …)`. -/
def RelationshipTable.deleteTenant (t : RelationshipTable) (tenantId : Int) : RelationshipTable where
  rows := t.rows.filter fun row => row.tenantId ≠ tenantId
  ids := Lib.nodup_map_filter _ t.ids
  tuples := Lib.nodup_map_filter _ t.tuples

theorem refs_deleteTenant {s : PolicyStore} {tenantId : Int} :
    ∀ v ∈ s.versions.filter (fun v => v.tenantId ≠ tenantId ∧ ∃ p ∈ s.policies,
        p.id = v.policyId ∧ p.tenantId ≠ tenantId),
      v.policyId ∈ (s.policies.filter fun p => p.tenantId ≠ tenantId).map Policy.id := by
  intro v hv
  obtain ⟨-, hkept⟩ := List.mem_filter.mp hv
  obtain ⟨-, p, hp, hid, htenant⟩ := of_decide_eq_true hkept
  exact List.mem_map.mpr ⟨p, List.mem_filter.mpr ⟨hp, decide_eq_true htenant⟩, hid⟩

/-- `delete(PolicyVersion).where(tenant_id == …)` and `delete(Policy).where(tenant_id == …)`; no
version is left without its policy. -/
def PolicyStore.deleteTenant (s : PolicyStore) (tenantId : Int) : PolicyStore where
  policies := s.policies.filter fun p => p.tenantId ≠ tenantId
  versions := s.versions.filter fun v => v.tenantId ≠ tenantId ∧ ∃ p ∈ s.policies,
    p.id = v.policyId ∧ p.tenantId ≠ tenantId
  policyIds := Lib.nodup_map_filter _ s.policyIds
  policyKeys := Lib.nodup_map_filter _ s.policyKeys
  versionIds := Lib.nodup_map_filter _ s.versionIds
  versionKeys := Lib.nodup_map_filter _ s.versionKeys
  policyRefs := refs_deleteTenant

/-- `delete(Tenant).where(id == …)`. -/
def TenantTable.deleteTenant (t : TenantTable) (tenantId : Int) : TenantTable where
  rows := t.rows.filter fun row => row.id ≠ tenantId
  ids := Lib.nodup_map_filter _ t.ids
  keys := Lib.nodup_map_filter _ t.keys

/-- `_clear_sample_data`. -/
def clearSampleData (db : SeedDatabase) (tenantKey : String) : SeedDatabase :=
  match db.tenants.find? tenantKey with
  | none => db
  | some tenant =>
      { rbac := clearSampleRoles db.rbac
        tenants := db.tenants.deleteTenant tenant.id
        relationships := db.relationships.deleteTenant tenant.id
        policies := db.policies.deleteTenant tenant.id }

/-- `seed_demo_data`. -/
def seedDemoData (db : SeedDatabase) (tenantKey : String) (reset : Bool) :
    SeedSummary × SeedDatabase :=
  let db := if reset then clearSampleData db tenantKey else db
  let createdTenant := (db.tenants.find? tenantKey).isNone
  let (tenant, tenants) := db.tenants.getOrCreate tenantKey
  let ((createdRole, createdPermissions, createdUser), rbac) := seedRoles db.rbac
  let (createdRelationships, relationships) :=
    seedRelationship tenant.id sampleRelationship db.relationships
  let (createdPolicies, policies) :=
    Lib.ensureAll (ensurePolicy tenant.id) samplePolicyDefinitions db.policies
  ({ tenantKey := tenant.tenantKey
     createdTenant, createdUser, createdRole, createdPermissions, createdRelationships
     createdPolicies },
   ⟨rbac, tenants, relationships, policies⟩)

/-- The tables of a tenant that is seeded. -/
def SeedDatabase.seeded (db : SeedDatabase) (tenantKey : String) : SeedDatabase where
  rbac := (seedRoles db.rbac).2
  tenants := (db.tenants.getOrCreate tenantKey).2
  relationships := (seedRelationship (db.tenants.getOrCreate tenantKey).1.id sampleRelationship
    db.relationships).2
  policies := (Lib.ensureAll (ensurePolicy (db.tenants.getOrCreate tenantKey).1.id)
    samplePolicyDefinitions db.policies).2

/-- Seeding seeds what a reset has left. -/
theorem seedDemoData_tables (db : SeedDatabase) (tenantKey : String) (reset : Bool) :
    (seedDemoData db tenantKey reset).2 =
      (if reset then clearSampleData db tenantKey else db).seeded tenantKey := rfl

/-! ## Seeding again -/

/-- The permission is there, and the role has it. -/
def HasPermissionRow (role : Role) (action : String) (t : RbacTables) : Prop :=
  ∃ permission, t.permissions.named? action = some permission ∧
    (role.id, permission.id) ∈ t.rolePermissions

theorem seedPermission_ensuring (role : Role) :
    Lib.Ensuring (seedPermission role) (HasPermissionRow role) where
  brings action t := by
    refine ⟨(t.permissions.ensure action).1, Lib.NamedTable.named?_ensure _ _, ?_⟩
    exact mem_ensureLink t.rolePermissions _
  keeps action other t := by
    rintro ⟨permission, hnamed, hlink⟩
    obtain ⟨hrow, hname⟩ := Lib.NamedTable.named?_eq_some.mp hnamed
    exact ⟨permission, Lib.NamedTable.named?_eq_some.mpr ⟨Lib.NamedTable.mem_ensure hrow _, hname⟩,
      Lib.mem_ensureRow hlink _⟩
  rests action t := by
    rintro ⟨permission, hnamed, hlink⟩
    unfold seedPermission
    simp only [Lib.NamedTable.ensure_of_named? hnamed, hnamed, ensureLink_of_mem hlink,
      Option.isSome_some, if_true]

/-- The permissions leave the other tables alone. -/
theorem seedPermissions_frame (role : Role) (actions : List String) (t : RbacTables) :
    (Lib.ensureAll (seedPermission role) actions t).2.roles = t.roles ∧
      (Lib.ensureAll (seedPermission role) actions t).2.users = t.users ∧
      (Lib.ensureAll (seedPermission role) actions t).2.userRoles = t.userRoles := by
  refine @Lib.ensureAll_keeps String RbacTables (seedPermission role)
    (fun t' => t'.roles = t.roles ∧ t'.users = t.users ∧ t'.userRoles = t.userRoles) actions ?_ t ?_
  · intro action _ t' h
    exact h
  · exact ⟨rfl, rfl, rfl⟩

/-- A user that is there with its role is left alone. -/
theorem seedUser_rests {role : Role} {user : User} {t : RbacTables}
    (huser : user.id ∈ t.users.map User.id) (hlink : (user.id, role.id) ∈ t.userRoles) :
    seedUser role user t = (false, t) := by
  unfold seedUser
  simp only [Lib.ensureRow_of_mem huser, ensureLink_of_mem hlink, huser, not_true_eq_false,
    decide_false]

/-- The roles are seeded once. -/
theorem seedRoles_again (t : RbacTables) :
    seedRoles (seedRoles t).2 = ((false, 0, false), (seedRoles t).2) := by
  generalize hrole : (t.roles.ensure sampleRole).1 = role
  generalize hroles : (t.roles.ensure sampleRole).2 = roles
  have hseeded : (seedRoles t).2 = (seedUser role sampleUser (Lib.ensureAll (seedPermission role)
      samplePermissions { t with roles := roles }).2).2 := by
    rw [← hrole, ← hroles]
    rfl
  generalize hpermitted : (Lib.ensureAll (seedPermission role) samplePermissions
    { t with roles := roles }).2 = permitted at hseeded
  -- what the first run brought, the second finds
  have hall : ∀ action ∈ samplePermissions, HasPermissionRow role action permitted := by
    rw [← hpermitted]
    exact (seedPermission_ensuring role).bringsAll samplePermissions _
  have hnamed : permitted.roles.named? sampleRole = some role := by
    rw [← hpermitted, (seedPermissions_frame role samplePermissions _).1, ← hrole, ← hroles]
    exact Lib.NamedTable.named?_ensure _ _
  -- so each part rests
  have hrests : Lib.ensureAll (seedPermission role) samplePermissions (seedRoles t).2 =
      (0, (seedRoles t).2) := by
    apply (seedPermission_ensuring role).restsAll
    rw [hseeded]
    exact hall
  have huser : seedUser role sampleUser (seedRoles t).2 = (false, (seedRoles t).2) := by
    rw [hseeded]
    apply seedUser_rests
    · exact Lib.key_mem_ensureRow User.id permitted.users sampleUser
    · exact mem_ensureLink permitted.userRoles _
  have hnamed' : (seedRoles t).2.roles.named? sampleRole = some role := by
    rw [hseeded]
    exact hnamed
  generalize (seedRoles t).2 = seeded at hrests huser hnamed' ⊢
  unfold seedRoles
  simp only [Lib.NamedTable.ensure_of_named? hnamed', hrests, huser, hnamed', Option.isNone_some]

/-- The relationship is seeded once. -/
theorem seedRelationship_again (tenantId : Int) (record : RelationshipRecord)
    (t : RelationshipTable) :
    seedRelationship tenantId record (seedRelationship tenantId record t).2 =
      (0, (seedRelationship tenantId record t).2) := by
  have htaken : (tenantId, record) ∈
      (seedRelationship tenantId record t).2.rows.map RelationshipRow.key := by
    unfold seedRelationship
    rcases hcreate : t.create tenantId record with e | ⟨id, t'⟩
    · unfold RelationshipTable.create at hcreate
      dsimp only at hcreate
      split at hcreate
      · assumption
      · cases hcreate
    · dsimp only
      rw [RelationshipTable.create_ok hcreate, List.map_append]
      exact List.mem_append_right _ (List.mem_singleton.mpr rfl)
  generalize (seedRelationship tenantId record t).2 = t' at htaken ⊢
  unfold seedRelationship
  have hcreate : t'.create tenantId record = .error .integrityError := by
    unfold RelationshipTable.create
    exact dif_pos htaken
  rw [hcreate]

theorem ensurePolicy_of_some {s : PolicyStore} {tenantId : Int} {change : PolicyChange} {p : Policy}
    (h : s.findPolicy tenantId change.policyKey = some p) :
    ensurePolicy tenantId change s = (0, s) := by
  unfold ensurePolicy
  split
  · rfl
  · rename_i h'
    rw [h] at h'
    cases h'

theorem ensurePolicy_of_none {s : PolicyStore} {tenantId : Int} {change : PolicyChange}
    (h : s.findPolicy tenantId change.policyKey = none) :
    ensurePolicy tenantId change s = (1, s.addPolicy tenantId change h) := by
  unfold ensurePolicy
  split
  · rename_i h'
    rw [h] at h'
    cases h'
  · rfl

/-- A policy that is found is still found after another is added. -/
theorem findPolicy_addPolicy {s : PolicyStore} {tenantId : Int} {change : PolicyChange}
    (h : s.findPolicy tenantId change.policyKey = none) (tenantId' : Int) (policyKey : String) :
    (s.addPolicy tenantId change h).findPolicy tenantId' policyKey =
      (s.findPolicy tenantId' policyKey).or
        (if (s.newPolicy tenantId change.policyKey).key = (tenantId', policyKey) then
          some (s.newPolicy tenantId change.policyKey) else none) := by
  show (s.policies ++ [_]).find? _ = _
  rw [List.find?_append, List.find?_singleton]
  simp only [decide_eq_true_eq]
  rfl

theorem ensurePolicy_ensuring (tenantId : Int) : Lib.Ensuring (ensurePolicy tenantId)
    fun change s => ∃ p, s.findPolicy tenantId change.policyKey = some p where
  brings change s := by
    cases h : s.findPolicy tenantId change.policyKey with
    | some p =>
        rw [ensurePolicy_of_some h]
        exact ⟨p, h⟩
    | none =>
        rw [ensurePolicy_of_none h]
        refine ⟨s.newPolicy tenantId change.policyKey, ?_⟩
        -- a policy that is added is found under its key
        have hkey : (s.newPolicy tenantId change.policyKey).key = (tenantId, change.policyKey) := rfl
        rw [findPolicy_addPolicy, h, if_pos hkey, Option.none_or]
  keeps change other s := by
    rintro ⟨p, hp⟩
    cases h : s.findPolicy tenantId change.policyKey with
    | some q =>
        rw [ensurePolicy_of_some h]
        exact ⟨p, hp⟩
    | none =>
        rw [ensurePolicy_of_none h]
        -- and what was found before is found still
        refine ⟨p, ?_⟩
        rw [findPolicy_addPolicy, hp, Option.some_or]
  rests change s := by
    rintro ⟨p, hp⟩
    exact ensurePolicy_of_some hp

/-- Seeding again, after a seeding with or without a reset, creates nothing and changes nothing. -/
theorem seed_again (db : SeedDatabase) (tenantKey : String) (reset : Bool) :
    seedDemoData (seedDemoData db tenantKey reset).2 tenantKey false =
      (⟨tenantKey, false, false, false, 0, 0, 0⟩, (seedDemoData db tenantKey reset).2) := by
  rw [seedDemoData_tables]
  generalize (if reset then clearSampleData db tenantKey else db) = kept
  have hfind := TenantTable.find?_getOrCreate kept.tenants tenantKey
  unfold seedDemoData SeedDatabase.seeded
  simp only [Bool.false_eq_true, if_false, TenantTable.getOrCreate_of_find? hfind, seedRoles_again,
    seedRelationship_again, (ensurePolicy_ensuring _).again, hfind, Option.isNone_some,
    (TenantTable.find?_some hfind).2]

/-! ## What seeding adds -/

theorem grown_getOrCreate (t : TenantTable) (tenantKey : String) :
    Lib.GrownBy (t.find? tenantKey).isNone.toNat t.rows (t.getOrCreate tenantKey).2.rows := by
  unfold TenantTable.getOrCreate
  split
  · rename_i row h
    rw [h]
    exact Lib.GrownBy.refl t.rows
  · rename_i h
    have hnone : (t.find? tenantKey).isNone.toNat = 1 := by
      rw [h]
      rfl
    rw [hnone]
    exact Lib.GrownBy.append_singleton t.rows _

theorem grown_seedRelationship (tenantId : Int) (record : RelationshipRecord)
    (t : RelationshipTable) :
    Lib.GrownBy (seedRelationship tenantId record t).1 t.rows
      (seedRelationship tenantId record t).2.rows := by
  unfold seedRelationship
  split
  · exact Lib.GrownBy.refl t.rows
  · rename_i hcreate
    rw [RelationshipTable.create_ok hcreate]
    exact Lib.GrownBy.append_singleton t.rows _

theorem grown_ensurePolicy (tenantId : Int) (change : PolicyChange) (s : PolicyStore) :
    Lib.GrownBy (ensurePolicy tenantId change s).1 s.policies
        (ensurePolicy tenantId change s).2.policies ∧
      Lib.GrownBy (ensurePolicy tenantId change s).1 s.versions
        (ensurePolicy tenantId change s).2.versions := by
  cases h : s.findPolicy tenantId change.policyKey with
  | some p =>
      rw [ensurePolicy_of_some h]
      exact ⟨Lib.GrownBy.refl _, Lib.GrownBy.refl _⟩
  | none =>
      rw [ensurePolicy_of_none h]
      exact ⟨Lib.GrownBy.append_singleton _ _, Lib.GrownBy.append_singleton _ _⟩

/-- The links of permissions that are new are those of the role to the sample permissions. -/
theorem seedPermissions_links (role : Role) (t : RbacTables) :
    t.permissions.rows ⊆
        (Lib.ensureAll (seedPermission role) samplePermissions t).2.permissions.rows ∧
      t.rolePermissions <+:
        (Lib.ensureAll (seedPermission role) samplePermissions t).2.rolePermissions ∧
      ∀ link ∈ (Lib.ensureAll (seedPermission role) samplePermissions t).2.rolePermissions,
        link ∈ t.rolePermissions ∨ link.1 = role.id ∧
          ∃ permission ∈ (Lib.ensureAll (seedPermission role) samplePermissions t).2.permissions.rows,
            permission.id = link.2 ∧ permission.action ∈ samplePermissions := by
  refine @Lib.ensureAll_keeps String RbacTables (seedPermission role)
    (fun t' => t.permissions.rows ⊆ t'.permissions.rows ∧
      t.rolePermissions <+: t'.rolePermissions ∧ ∀ link ∈ t'.rolePermissions,
        link ∈ t.rolePermissions ∨ link.1 = role.id ∧ ∃ permission ∈ t'.permissions.rows,
          permission.id = link.2 ∧ permission.action ∈ samplePermissions) samplePermissions ?_ t ?_
  · -- a permission that is ensured keeps the rows and links, and adds a link of the role at most
    rintro action haction t' ⟨hkept, hbehind, hlinks⟩
    have hmore : t'.permissions.rows ⊆ (seedPermission role action t').2.permissions.rows :=
      (t'.permissions.grown_ensure action).1.subset
    refine ⟨List.Subset.trans hkept hmore,
      hbehind.trans (Lib.grown_ensureRow id t'.rolePermissions _).1, ?_⟩
    intro link hlink
    rcases Lib.mem_of_mem_ensureRow hlink with hlink | rfl
    · rcases hlinks link hlink with hold | ⟨hrole, permission, hrow, hid, hsample⟩
      · exact Or.inl hold
      · exact Or.inr ⟨hrole, permission, hmore hrow, hid, hsample⟩
    · obtain ⟨hrow, hname⟩ :=
        Lib.NamedTable.named?_eq_some.mp (t'.permissions.named?_ensure action)
      refine Or.inr ⟨rfl, _, hrow, rfl, ?_⟩
      rw [show (t'.permissions.ensure action).1.action = action from hname]
      exact haction
  · exact ⟨List.Subset.refl _, List.prefix_refl _, fun link hlink => Or.inl hlink⟩

/-- What seeding makes of the tables: the role with its permissions, the user with its role, and
nothing besides. -/
structure SeededRoles (t seeded : RbacTables) (role : Role) : Prop where
  role_eq : role = (t.roles.ensure sampleRole).1
  roles : seeded.roles = (t.roles.ensure sampleRole).2
  users : seeded.users = Lib.ensureRow User.id t.users sampleUser
  userRoles : seeded.userRoles = Lib.ensureRow id t.userRoles (sampleUser.id, role.id)
  permissions : t.permissions.rows ⊆ seeded.permissions.rows
  permitted : ∀ action ∈ samplePermissions, HasPermissionRow role action seeded
  rolePermissions : t.rolePermissions <+: seeded.rolePermissions
  links : ∀ link ∈ seeded.rolePermissions, link ∈ t.rolePermissions ∨ link.1 = role.id ∧
    ∃ permission ∈ seeded.permissions.rows,
      permission.id = link.2 ∧ permission.action ∈ samplePermissions

theorem seedRoles_seeded (t : RbacTables) :
    SeededRoles t (seedRoles t).2 (t.roles.ensure sampleRole).1 := by
  let t₁ : RbacTables := { t with roles := (t.roles.ensure sampleRole).2 }
  let role := (t.roles.ensure sampleRole).1
  obtain ⟨hroles, husers, huserRoles⟩ := seedPermissions_frame role samplePermissions t₁
  obtain ⟨hpermissions, hbehind, hlinks⟩ := seedPermissions_links role t₁
  refine ⟨rfl, hroles, ?_, ?_, hpermissions, ?_, hbehind, hlinks⟩
  · show Lib.ensureRow User.id (Lib.ensureAll (seedPermission role) samplePermissions t₁).2.users
      sampleUser = _
    rw [husers]
  · show Lib.ensureRow id (Lib.ensureAll (seedPermission role) samplePermissions t₁).2.userRoles
      (sampleUser.id, role.id) = _
    rw [huserRoles]
  · exact (seedPermission_ensuring role).bringsAll samplePermissions t₁

namespace SeededRoles

variable {t seeded : RbacTables} {role : Role}

theorem role_mem (h : SeededRoles t seeded role) :
    role ∈ seeded.roles.rows ∧ role.name = sampleRole := by
  rw [h.role_eq, h.roles]
  exact Lib.NamedTable.named?_eq_some.mp (t.roles.named?_ensure sampleRole)

/-- The user's link to the role is behind the links there were. -/
theorem userRoles_extended (h : SeededRoles t seeded role) :
    Lib.ExtendedBy (· = (sampleUser.id, role.id)) t.userRoles seeded.userRoles := by
  rw [h.userRoles]
  exact Lib.extended_ensureRow t.userRoles _

/-- The role's links to the sample permissions are behind the links there were. -/
theorem rolePermissions_extended (h : SeededRoles t seeded role) :
    Lib.ExtendedBy (fun link => ∃ permission ∈ seeded.permissions.rows,
      permission.action ∈ samplePermissions ∧ link = (role.id, permission.id))
      t.rolePermissions seeded.rolePermissions := by
  refine ⟨h.rolePermissions, fun link => ⟨fun hlink => ?_, ?_⟩⟩
  · rcases h.links link hlink with hold | ⟨hrole, permission, hrow, hid, hsample⟩
    · exact Or.inl hold
    · exact Or.inr ⟨permission, hrow, hsample, Prod.ext hrole hid.symm⟩
  · rintro (hold | ⟨permission, hrow, hsample, rfl⟩)
    · exact h.rolePermissions.subset hold
    · obtain ⟨found, hnamed, hlink⟩ := h.permitted permission.action hsample
      obtain ⟨hfound, hname⟩ := Lib.NamedTable.named?_eq_some.mp hnamed
      have heq : found = permission := Lib.eq_of_key_eq seeded.permissions.names hfound hrow hname
      rwa [← heq]

end SeededRoles

/-- The role, the permissions and the user that are reported are added. -/
theorem grown_seedRoles (t : RbacTables) :
    Lib.GrownBy (seedRoles t).1.1.toNat t.roles.rows (seedRoles t).2.roles.rows ∧
      Lib.GrownBy (seedRoles t).1.2.1 t.permissions.rows (seedRoles t).2.permissions.rows ∧
      Lib.GrownBy (seedRoles t).1.2.2.toNat t.users (seedRoles t).2.users := by
  let t₁ : RbacTables := { t with roles := (t.roles.ensure sampleRole).2 }
  let role := (t.roles.ensure sampleRole).1
  obtain ⟨hroles, husers, -⟩ := seedPermissions_frame role samplePermissions t₁
  refine ⟨?_, ?_, ?_⟩
  · -- roles: one row, unless the name is taken
    show Lib.GrownBy (t.roles.named? sampleRole).isNone.toNat t.roles.rows
      (Lib.ensureAll (seedPermission role) samplePermissions t₁).2.roles.rows
    rw [hroles]
    have hgrown := t.roles.grown_ensure sampleRole
    cases h : t.roles.named? sampleRole <;> rwa [h] at hgrown
  · -- permissions: one by one
    have hstep : ∀ (action : String) (t' : RbacTables),
        Lib.GrownBy (seedPermission role action t').1 t'.permissions.rows
          (seedPermission role action t').2.permissions.rows :=
      fun action t' => t'.permissions.grown_ensure action
    exact Lib.ensureAll_grown hstep samplePermissions t₁
  · -- users: one row, unless the id is taken
    show Lib.GrownBy
      (decide (sampleUser.id ∉
        (Lib.ensureAll (seedPermission role) samplePermissions t₁).2.users.map User.id)).toNat t.users
      (Lib.ensureRow User.id (Lib.ensureAll (seedPermission role) samplePermissions t₁).2.users
        sampleUser)
    rw [husers]
    have hgrown := Lib.grown_ensureRow User.id t.users sampleUser
    show Lib.GrownBy (decide (sampleUser.id ∉ t.users.map User.id)).toNat t.users _
    by_cases h : sampleUser.id ∈ t.users.map User.id
    · rw [if_pos h] at hgrown
      rwa [decide_eq_false (not_not_intro h)]
    · rw [if_neg h] at hgrown
      rwa [decide_eq_true h]

/-- Seeding keeps every row, behind a reset those the reset left, and adds as many as the summary
says, with the links of the sample user and of the sample role that were missing. -/
theorem seed_counts (db : SeedDatabase) (tenantKey : String) (reset : Bool) :
    let kept := if reset then clearSampleData db tenantKey else db
    let summary := (seedDemoData db tenantKey reset).1
    let seeded := (seedDemoData db tenantKey reset).2
    Lib.GrownBy summary.createdTenant.toNat kept.tenants.rows seeded.tenants.rows ∧
      Lib.GrownBy summary.createdUser.toNat kept.rbac.users seeded.rbac.users ∧
      Lib.GrownBy summary.createdRole.toNat kept.rbac.roles.rows seeded.rbac.roles.rows ∧
      Lib.GrownBy summary.createdPermissions kept.rbac.permissions.rows
        seeded.rbac.permissions.rows ∧
      Lib.GrownBy summary.createdRelationships kept.relationships.rows seeded.relationships.rows ∧
      Lib.GrownBy summary.createdPolicies kept.policies.policies seeded.policies.policies ∧
      Lib.GrownBy summary.createdPolicies kept.policies.versions seeded.policies.versions ∧
      ∃ role ∈ seeded.rbac.roles.rows, role.name = sampleRole ∧
        Lib.ExtendedBy (· = (sampleUser.id, role.id)) kept.rbac.userRoles seeded.rbac.userRoles ∧
        Lib.ExtendedBy (fun link => ∃ permission ∈ seeded.rbac.permissions.rows,
          permission.action ∈ samplePermissions ∧ link = (role.id, permission.id))
          kept.rbac.rolePermissions seeded.rbac.rolePermissions := by
  intro kept summary seeded
  let tenantId := (kept.tenants.getOrCreate tenantKey).1.id
  obtain ⟨hroles, hpermissions, husers⟩ := grown_seedRoles kept.rbac
  refine ⟨grown_getOrCreate kept.tenants tenantKey, husers, hroles, hpermissions,
    grown_seedRelationship _ sampleRelationship kept.relationships, ?_, ?_, ?_⟩
  · exact Lib.ensureAll_grown (fun change s => (grown_ensurePolicy tenantId change s).1)
      samplePolicyDefinitions kept.policies
  · exact Lib.ensureAll_grown (fun change s => (grown_ensurePolicy tenantId change s).2)
      samplePolicyDefinitions kept.policies
  · have hseeded := seedRoles_seeded kept.rbac
    exact ⟨_, hseeded.role_mem.1, hseeded.role_mem.2, hseeded.userRoles_extended,
      hseeded.rolePermissions_extended⟩

end KeyNetra
