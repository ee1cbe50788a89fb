import KeyNetra.Cache.Adapters
import KeyNetra.Lib.Table
import Mathlib.Data.List.Dedup
import Mathlib.Data.String.Basic

/-!
# KeyNetra.Repo.Tables — the tables the authorization service reads

Tenants, ACL rows, relationship rows, users with their roles, stored schemas and
versioned policies, with the repository functions over them.

A table is a structure that carries its unique constraints, so every write is
shown to keep them where it is defined.
-/

namespace KeyNetra

/-! ## Tenants -/

/-- A row of `tenants`. -/
structure TenantRecord where
  id : Int
  tenantKey : String
  policyVersion : Int
  revision : Int
deriving DecidableEq, Repr

structure TenantTable where
  rows : List TenantRecord
  ids : (rows.map TenantRecord.id).Nodup
  keys : (rows.map TenantRecord.tenantKey).Nodup

/-- The row of a tenant key. -/
def TenantTable.find? (t : TenantTable) (tenantKey : String) : Option TenantRecord :=
  t.rows.find? fun row => row.tenantKey = tenantKey

theorem TenantTable.find?_none {t : TenantTable} {tenantKey : String}
    (h : t.find? tenantKey = none) : tenantKey ∉ t.rows.map TenantRecord.tenantKey := by
  intro hmem
  obtain ⟨row, hrow, hkey⟩ := List.mem_map.mp hmem
  have hne := List.find?_eq_none.mp h row hrow
  simp [hkey] at hne

/-- A row the column defaults give a new tenant. -/
def TenantTable.newRow (t : TenantTable) (tenantKey : String) : TenantRecord :=
  ⟨Lib.freshId (t.rows.map TenantRecord.id), tenantKey, 1, 1⟩

/-- `SqlTenantRepository.get_or_create`. -/
def TenantTable.getOrCreate (t : TenantTable) (tenantKey : String) : TenantRecord × TenantTable :=
  match h : t.find? tenantKey with
  | some row => (row, t)
  | none =>
      (t.newRow tenantKey,
        { rows := t.rows ++ [t.newRow tenantKey]
          ids := Lib.nodup_map_append t.ids (Lib.freshId_notMem _)
          keys := Lib.nodup_map_append t.keys (TenantTable.find?_none h) })

/-- Update the rows of one tenant, leaving ids and keys alone. -/
def TenantTable.update (t : TenantTable) (tenantId : Int) (policyVersion revision : Int → Int) :
    TenantTable :=
  let change := fun row : TenantRecord =>
    if row.id = tenantId then
      { row with
        policyVersion := policyVersion row.policyVersion
        revision := revision row.revision }
    else row
  have hid : ∀ row, (change row).id = row.id := fun row => by
    simp only [change]; split <;> rfl
  have hkey : ∀ row, (change row).tenantKey = row.tenantKey := fun row => by
    simp only [change]; split <;> rfl
  { rows := t.rows.map change
    ids := Lib.nodup_map_update hid t.ids
    keys := Lib.nodup_map_update hkey t.keys }

/-- `SqlTenantRepository.bump_policy_version`, of an existing tenant. -/
def TenantTable.bumpPolicyVersion (t : TenantTable) (tenantId : Int) : TenantTable :=
  t.update tenantId (· + 1) id

/-- `SqlTenantRepository.bump_revision`, of an existing tenant. -/
def TenantTable.bumpRevision (t : TenantTable) (tenantId : Int) : TenantTable :=
  t.update tenantId id (· + 1)

theorem TenantTable.find?_some {t : TenantTable} {tenantKey : String} {row : TenantRecord}
    (h : t.find? tenantKey = some row) : row ∈ t.rows ∧ row.tenantKey = tenantKey :=
  ⟨List.mem_of_find?_eq_some h, by simpa using List.find?_some h⟩

/-- The tenant found is the one created or the one stored. -/
theorem TenantTable.getOrCreate_eq (t : TenantTable) (tenantKey : String) :
    (t.getOrCreate tenantKey).1 = (t.find? tenantKey).getD (t.newRow tenantKey) := by
  unfold TenantTable.getOrCreate
  split
  · rename_i row h
    simp [h]
  · rename_i h
    simp [h]

/-- After `get_or_create` the tenant is stored. -/
theorem TenantTable.find?_getOrCreate (t : TenantTable) (tenantKey : String) :
    (t.getOrCreate tenantKey).2.find? tenantKey = some (t.getOrCreate tenantKey).1 := by
  unfold TenantTable.getOrCreate
  split
  · rename_i row h
    exact h
  · rename_i h
    have hnone : t.rows.find? (fun row => row.tenantKey = tenantKey) = none := h
    simp [TenantTable.find?, List.find?_append, hnone, TenantTable.newRow]

theorem TenantTable.getOrCreate_of_find? {t : TenantTable} {tenantKey : String}
    {row : TenantRecord} (h : t.find? tenantKey = some row) : t.getOrCreate tenantKey = (row, t) := by
  unfold TenantTable.getOrCreate
  split
  · rename_i row' h'
    have hrow : row' = row := Option.some.inj (h'.symm.trans h)
    rw [hrow]
  · rename_i h'
    rw [h] at h'
    cases h'

/-- What an update does to the tenant found by a key. -/
theorem TenantTable.find?_update (t : TenantTable) (tenantId : Int) (f g : Int → Int)
    (tenantKey : String) :
    (t.update tenantId f g).find? tenantKey = (t.find? tenantKey).map fun row =>
      if row.id = tenantId then { row with policyVersion := f row.policyVersion, revision := g row.revision }
      else row := by
  show (t.rows.map _).find? _ = _
  rw [List.find?_map]
  congr 1
  unfold TenantTable.find?
  congr 1
  funext row
  simp only [Function.comp]
  split <;> rfl

/-! ## Access control lists -/

/-- The table `resource_acl`. -/
structure AclTable where
  rows : List ACLRecord
  ids : (rows.map ACLRecord.id).Nodup

/-- The row is for the resource and the action of the lookup. -/
def ACLRecord.Matches (l : Lookup) (row : ACLRecord) : Prop :=
  row.tenantId = l.tenantId ∧ row.resourceType = l.resourceType ∧
    row.resourceId = l.resourceId ∧ row.action = l.action

instance (l : Lookup) (row : ACLRecord) : Decidable (row.Matches l) := by
  unfold ACLRecord.Matches
  infer_instance

/-- `SqlACLRepository.find_matching_acl`: the matching rows by id. -/
def AclTable.findMatchingAcl (t : AclTable) (l : Lookup) : List ACLRecord :=
  Lib.sortOn ACLRecord.id (t.rows.filter fun row => row.Matches l)

theorem AclTable.mem_findMatchingAcl {t : AclTable} {l : Lookup} {row : ACLRecord} :
    row ∈ t.findMatchingAcl l ↔ row ∈ t.rows ∧ row.Matches l := by
  simp [AclTable.findMatchingAcl]

/-- What `create_acl_entry` is called with; the id is given by the table. -/
structure AclDraft where
  subjectType : String
  subjectId : String
  resourceType : String
  resourceId : String
  action : String
  effect : String
  createdAt : Option String := none

/-- The row of a draft. -/
def AclTable.newRow (t : AclTable) (tenantId : Int) (draft : AclDraft) : ACLRecord :=
  { id := Lib.freshId (t.rows.map ACLRecord.id)
    tenantId := tenantId
    subjectType := draft.subjectType
    subjectId := draft.subjectId
    resourceType := draft.resourceType
    resourceId := draft.resourceId
    action := draft.action
    effect := draft.effect
    createdAt := draft.createdAt }

/-- `SqlACLRepository.create_acl_entry`. -/
def AclTable.createAclEntry (t : AclTable) (tenantId : Int) (draft : AclDraft) : Int × AclTable :=
  ((t.newRow tenantId draft).id,
    { rows := t.rows ++ [t.newRow tenantId draft]
      ids := Lib.nodup_map_append t.ids (Lib.freshId_notMem _) })

/-- `SqlACLRepository.get_acl_entry`. -/
def AclTable.getAclEntry (t : AclTable) (tenantId aclId : Int) : Option ACLRecord :=
  t.rows.find? fun row => row.tenantId = tenantId ∧ row.id = aclId

/-- `SqlACLRepository.delete_acl_entry`. -/
def AclTable.deleteAclEntry (t : AclTable) (tenantId aclId : Int) : AclTable where
  rows := t.rows.filter fun row => ¬(row.tenantId = tenantId ∧ row.id = aclId)
  ids := Lib.nodup_map_filter _ t.ids

/-! ## Relationships -/

/-- A row of `relationships`. -/
structure RelationshipRow where
  id : Int
  tenantId : Int
  record : RelationshipRecord
deriving DecidableEq, Repr

/-- The tuple the table keeps unique. -/
def RelationshipRow.key (row : RelationshipRow) : Int × RelationshipRecord :=
  (row.tenantId, row.record)

structure RelationshipTable where
  rows : List RelationshipRow
  ids : (rows.map RelationshipRow.id).Nodup
  tuples : (rows.map RelationshipRow.key).Nodup

/-- `SqlRelationshipRepository.list_for_subject`, by relation, object and id. -/
def RelationshipTable.listForSubject (t : RelationshipTable) (tenantId : Int)
    (subjectType subjectId : String) : List RelationshipRecord :=
  let rows := t.rows.filter fun row =>
    row.tenantId = tenantId ∧ row.record.subjectType = subjectType ∧
      row.record.subjectId = subjectId
  (Lib.sortOn (fun row => row.record.relation) (Lib.sortOn (fun row => row.record.objectType)
    (Lib.sortOn (fun row => row.record.objectId) (Lib.sortOn RelationshipRow.id rows)))).map
    RelationshipRow.record

/-- `SqlRelationshipRepository.list_for_object`, by subject, relation and id. -/
def RelationshipTable.listForObject (t : RelationshipTable) (tenantId : Int)
    (objectType objectId : String) : List RelationshipRecord :=
  let rows := t.rows.filter fun row =>
    row.tenantId = tenantId ∧ row.record.objectType = objectType ∧
      row.record.objectId = objectId
  (Lib.sortOn (fun row => row.record.subjectType) (Lib.sortOn (fun row => row.record.subjectId)
    (Lib.sortOn (fun row => row.record.relation) (Lib.sortOn RelationshipRow.id rows)))).map
    RelationshipRow.record

theorem RelationshipTable.mem_listForSubject {t : RelationshipTable} {tenantId : Int}
    {subjectType subjectId : String} {record : RelationshipRecord} :
    record ∈ t.listForSubject tenantId subjectType subjectId ↔
      (∃ row ∈ t.rows, row.tenantId = tenantId ∧ row.record = record) ∧
        record.subjectType = subjectType ∧ record.subjectId = subjectId := by
  simp only [listForSubject, List.mem_map, Lib.mem_sortOn, List.mem_filter, decide_eq_true_eq]
  constructor
  · rintro ⟨row, ⟨hrow, htenant, htype, hid⟩, rfl⟩
    exact ⟨⟨row, hrow, htenant, rfl⟩, htype, hid⟩
  · rintro ⟨⟨row, hrow, htenant, rfl⟩, htype, hid⟩
    exact ⟨row, ⟨hrow, htenant, htype, hid⟩, rfl⟩

/-- `SqlRelationshipRepository.create`, under the unique constraint. -/
def RelationshipTable.create (t : RelationshipTable) (tenantId : Int)
    (record : RelationshipRecord) : Except PyError (Int × RelationshipTable) :=
  let row : RelationshipRow := ⟨Lib.freshId (t.rows.map RelationshipRow.id), tenantId, record⟩
  if h : row.key ∈ t.rows.map RelationshipRow.key then .error .integrityError
  else .ok (row.id,
    { rows := t.rows ++ [row]
      ids := Lib.nodup_map_append t.ids (Lib.freshId_notMem _)
      tuples := Lib.nodup_map_append t.tuples h })

/-- What a create that returns has stored. -/
theorem RelationshipTable.create_ok {t t' : RelationshipTable} {tenantId id : Int}
    {record : RelationshipRecord} (h : t.create tenantId record = .ok (id, t')) :
    t'.rows = t.rows ++ [⟨id, tenantId, record⟩] := by
  unfold RelationshipTable.create at h
  dsimp only at h
  split at h
  · cases h
  · cases h
    rfl

/-- A new row changes the list of its subject and no other. -/
theorem RelationshipTable.listForSubject_create {t t' : RelationshipTable} {tenantId id : Int}
    {record : RelationshipRecord} (h : t.create tenantId record = .ok (id, t'))
    {tenantId' : Int} {subjectType subjectId : String}
    (hne : ¬(tenantId = tenantId' ∧ record.subjectType = subjectType ∧
      record.subjectId = subjectId)) :
    t'.listForSubject tenantId' subjectType subjectId =
      t.listForSubject tenantId' subjectType subjectId := by
  unfold RelationshipTable.listForSubject
  rw [RelationshipTable.create_ok h]
  simp [List.filter_append, hne]

/-! ## Users -/

/-- A role with the actions its permissions name. -/
structure RoleRow where
  name : String
  permissions : List String
deriving DecidableEq, Repr

/-- A user with the roles joined to it. -/
structure UserRow where
  id : Int
  roles : List RoleRow
deriving DecidableEq, Repr

/-- `sorted(set(texts))`. -/
def sortedSet (texts : List String) : List String := Lib.sortOn id texts.dedup

@[simp] theorem mem_sortedSet {texts : List String} {text : String} :
    text ∈ sortedSet texts ↔ text ∈ texts := by
  simp [sortedSet]

/-- What `SqlUserRepository.get_user_context` returns. -/
structure UserContext where
  id : Int
  role : Option String
  roles : List String
  permissions : List String
deriving DecidableEq, Repr

/-- `SqlUserRepository.get_user_context`. -/
def getUserContext (users : List UserRow) (userId : Int) : Option UserContext :=
  (users.find? fun user => user.id = userId).map fun user =>
    let roles := sortedSet (user.roles.map RoleRow.name)
    { id := user.id
      role := roles.head?
      roles := roles
      permissions := sortedSet (user.roles.flatMap RoleRow.permissions) }

/-! ## The database -/

/-- A row of `auth_models`. -/
structure AuthModelRecord where
  tenantId : Int
  schemaText : String
deriving DecidableEq, Repr

structure Database where
  tenants : TenantTable
  acl : AclTable
  relationships : RelationshipTable
  users : List UserRow
  authModels : List AuthModelRecord
  policies : PolicyStore

/-- `SqlAuthModelRepository.get_model`. -/
def getModel (models : List AuthModelRecord) (tenantId : Int) : Option AuthModelRecord :=
  models.find? fun record => record.tenantId = tenantId

end KeyNetra
