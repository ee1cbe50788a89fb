import KeyNetra.Config.AdminAuth
import KeyNetra.Lib.Runs
import KeyNetra.Services.Freshness

/-!
# KeyNetra.Services.Coherence — writes and requests of one tenant, in any order

The `/acl` routes, `create_relationship` and the role and permission edits write
a table and then invalidate caches; requests fill the caches in between.

* `createAclEntry` / `deleteAclEntry` / `createRelationship` / `editRoles` — the
  writes, each with the invalidations it makes;
* `ServiceOp.Effective` — a write moves the keys of every lookup it concerns to
  keys without a document;
* `cached_authorize_eq_cold` — in every history whose writes are effective, a
  fully consistent request is answered as with empty caches;
* `relationship_after_acl_hidden` — a relationship created after an ACL entry of
  the same resource is not: the tenant's counter is hidden by the resource's.

The invariant is `Fresh`: a write keeps it when it is effective (`Fresh.write`),
a request always does.
-/

namespace KeyNetra

section Writes

variable [PyRuntime]

/-! ## The writes -/

/-- `RevisionService.bump_revision`. -/
def World.bumpRevision (w : World) (tenantKey : String) : World :=
  let tenant := w.tenant tenantKey
  let w := w.ensureTenant tenantKey
  { w with db := { w.db with tenants := w.db.tenants.bumpRevision tenant.id } }

/-- `AccessIndexer.invalidate_resource`. -/
def invalidateResource (b : Backend) (tenantId : Int) (resourceType resourceId : String) :
    Backend :=
  indexCacheInvalidate (aclCacheInvalidate b tenantId resourceType resourceId) tenantId
    resourceType resourceId

/-- The answer to an effect the route does not know. -/
def effectRefused : ApiError := ⟨422, "VALIDATION_ERROR", "effect must be allow or deny", []⟩

/-- `POST /acl`. -/
def createAclEntry (w : World) (tenantKey : String) (draft : AclDraft) :
    Except ApiError Int × World :=
  let tenant := w.tenant tenantKey
  let w := w.ensureTenant tenantKey
  if draft.effect ∉ ["allow", "deny"] then (.error effectRefused, w)
  else
    let (aclId, acl) := w.db.acl.createAclEntry tenant.id draft
    let b := invalidateResource w.backend tenant.id draft.resourceType draft.resourceId
    let b := decisionBumpNamespace b tenant.tenantKey
    (.ok aclId, { w with db := { w.db with acl := acl }, backend := b }.bumpRevision tenantKey)

/-- `DELETE /acl/{acl_id}`. -/
def deleteAclEntry (w : World) (tenantKey : String) (aclId : Int) : World :=
  let tenant := w.tenant tenantKey
  let w := w.ensureTenant tenantKey
  let b :=
    match w.db.acl.getAclEntry tenant.id aclId with
    | some target => invalidateResource w.backend tenant.id target.resourceType target.resourceId
    | none => w.backend
  let b := decisionBumpNamespace b tenant.tenantKey
  { w with db := { w.db with acl := w.db.acl.deleteAclEntry tenant.id aclId }
           backend := b }.bumpRevision tenantKey

/-- `RelationshipService.create_relationship`. -/
def createRelationship (w : World) (tenantKey : String) (record : RelationshipRecord) :
    Except PyError Int × World :=
  let tenant := w.tenant tenantKey
  let w := w.ensureTenant tenantKey
  match w.db.relationships.create tenant.id record with
  | .error e => (.error e, w)
  | .ok (rowId, relationships) =>
      let b :=
        relationshipCacheInvalidate w.backend tenant.id record.subjectType record.subjectId
      let b := indexCacheInvalidateTenant b tenant.id
      let b := decisionBumpNamespace b tenant.tenantKey
      (.ok rowId,
        { w with db := { w.db with relationships := relationships }
                 backend := b }.bumpRevision tenantKey)

/-- A route of `/roles` or `/permissions`, by the user rows it leaves. -/
def editRoles (w : World) (tenantKey : String) (users : List UserRow) : World :=
  { w with db := { w.db with users := users }
           backend := indexCacheInvalidateGlobal w.backend }.bumpRevision tenantKey

/-- An operation of the tenant. -/
inductive ServiceOp where
  | createAcl (draft : AclDraft)
  | deleteAcl (aclId : Int)
  | createRelationship (record : RelationshipRecord)
  | editRoles (users : List UserRow)
  | authorize (request : AuthorizeRequest)

variable (settings : Settings) (tenantKey : String)

/-- One completed operation. -/
def World.step (w : World) : ServiceOp → World
  | .createAcl draft => (createAclEntry w tenantKey draft).2
  | .deleteAcl aclId => deleteAclEntry w tenantKey aclId
  | .createRelationship record => (createRelationship w tenantKey record).2
  | .editRoles users => editRoles w tenantKey users
  | .authorize request => (authorize settings w request).2

/-! ## Effective writes -/

/-- What the requests of a history look up. -/
def lookups (tenantId : Int) (ops : List ServiceOp) : Set Lookup :=
  {l | ∃ request, ServiceOp.authorize request ∈ ops ∧ l = request.lookup tenantId}

/-- A key that is kept with what it stands for, or a new one without a document. -/
def Renewed (b : Backend) (key key' : String) (unchanged : Prop) : Prop :=
  (key' = key ∧ unchanged) ∨ b.get key' = none

/-- What a write does to a lookup: each of its two keys is kept with its rows, or
moved to a key without a document. -/
def Reaches (w w' : World) (l : Lookup) : Prop :=
  Renewed w.backend (aclKey w.backend.counters l) (aclKey w'.backend.counters l)
      (w'.db.acl.findMatchingAcl l = w.db.acl.findMatchingAcl l) ∧
    Renewed w.backend (indexKey w.backend.counters l) (indexKey w'.backend.counters l)
      (w'.storeEntries l = w.storeEntries l)

/-- A write reaches every live lookup. -/
def ServiceOp.Effective (live : Set Lookup) (w : World) (op : ServiceOp) : Prop :=
  match op with
  | .authorize _ => True
  | op => ∀ l ∈ live, Reaches w (w.step settings tenantKey op) l

open Classical in
/-- The world with the ACL, index, relationship and decision caches emptied. -/
noncomputable def World.emptied (w : World) : World :=
  w.withBackend
    { counters := w.backend.counters
      documents := fun key => if HasKind "pol" key then w.backend.documents key else none }

/-- A fully consistent request is answered as with empty caches. -/
def ServiceOp.Agrees (w : World) : ServiceOp → Prop
  | .authorize request => request.FullyConsistent →
      (KeyNetra.authorize settings w request).1.decision =
        (KeyNetra.authorize settings w.emptied request).1.decision
  | _ => True

variable {settings tenantKey} {live : Set Lookup} {w w' : World}

/-! ## What a write leaves alone -/

omit [PyRuntime] in
/-- Only the revision of the tenant moves. -/
theorem tenant_bumpRevision (w : World) (tenantKey : String) :
    (w.bumpRevision tenantKey).tenant tenantKey =
      { w.tenant tenantKey with revision := (w.tenant tenantKey).revision + 1 } := by
  have hfind : (w.db.tenants.getOrCreate tenantKey).2.find? tenantKey = some (w.tenant tenantKey) :=
    TenantTable.find?_getOrCreate _ _
  have hbumped : ((w.db.tenants.getOrCreate tenantKey).2.bumpRevision
      (w.tenant tenantKey).id).find? tenantKey =
      some { w.tenant tenantKey with revision := (w.tenant tenantKey).revision + 1 } := by
    unfold TenantTable.bumpRevision
    rw [TenantTable.find?_update, hfind]
    simp
  exact congrArg Prod.fst (TenantTable.getOrCreate_of_find? hbumped)

/-- A write to the tables of the caches: the policies and their key are left alone,
and each user's relationships are kept or their document is dropped. -/
structure TableWrite (tenantKey : String) (w w' : World) : Prop where
  tenantId : (w'.tenant tenantKey).id = (w.tenant tenantKey).id
  policyVersion : (w'.tenant tenantKey).policyVersion = (w.tenant tenantKey).policyVersion
  policies : w'.db.policies = w.db.policies
  policyNamespace : policyNamespace w'.backend.counters tenantKey =
    policyNamespace w.backend.counters tenantKey
  documents : ∀ kind key, HasKind kind key → kind ∈ ["acl", "idx", "pol"] →
    w'.backend.get key = w.backend.get key
  relationships : ∀ subjectId,
    (w'.backend.get (relationshipKey (w.tenant tenantKey).id "user" subjectId) =
        w.backend.get (relationshipKey (w.tenant tenantKey).id "user" subjectId) ∧
      w'.db.relationships.listForSubject (w.tenant tenantKey).id "user" subjectId =
        w.db.relationships.listForSubject (w.tenant tenantKey).id "user" subjectId) ∨
      w'.backend.get (relationshipKey (w.tenant tenantKey).id "user" subjectId) = none

omit [PyRuntime] in
/-- A write that reaches every live lookup keeps the caches fresh. -/
theorem Fresh.write (h : Fresh live tenantKey w) (hwrite : TableWrite tenantKey w w')
    (hreach : ∀ l ∈ live, Reaches w w' l) : Fresh live tenantKey w' where
  acl := by
    apply h.acl.move
    intro l hl
    -- either the key still names the same rows, or nothing is stored under it
    have hdoc := hwrite.documents "acl" _ (hasKind_aclKey w'.backend.counters l) (by decide)
    rcases (hreach l hl).1 with ⟨hkey, hrows⟩ | hempty
    · left
      rw [hdoc, hkey, hrows]
      exact ⟨rfl, rfl⟩
    · right
      exact hdoc.trans hempty
  index := by
    apply h.index.move
    intro l hl
    have hdoc := hwrite.documents "idx" _ (hasKind_indexKey w'.backend.counters l) (by decide)
    rcases (hreach l hl).2 with ⟨hkey, hentries⟩ | hempty
    · left
      rw [hdoc, hkey, hentries]
      exact ⟨rfl, rfl⟩
    · right
      exact hdoc.trans hempty
  relationships := by
    rw [hwrite.tenantId]
    apply h.relationships.move
    intro subjectId _
    rcases hwrite.relationships subjectId with ⟨hdoc, hrows⟩ | hempty
    · left
      rw [hrows]
      exact ⟨hdoc, rfl⟩
    · right
      exact hempty
  policies := by
    -- no such write touches a policy
    have hkey : policyCacheKey w'.backend.counters tenantKey (w'.tenant tenantKey).policyVersion =
        policyCacheKey w.backend.counters tenantKey (w.tenant tenantKey).policyVersion := by
      unfold policyCacheKey
      rw [hwrite.policyNamespace, hwrite.policyVersion]
    have hlist : w'.storePolicies tenantKey "active" = w.storePolicies tenantKey "active" := by
      unfold World.storePolicies
      rw [hwrite.policies, hwrite.tenantId]
    rw [hkey, hlist, hwrite.documents "pol" _ (hasKind_policyCacheKey _ _ _) (by decide)]
    exact h.policies

/-! ## Each write -/

omit [PyRuntime] in
/-- Bumping the counter of another cache leaves the policy namespace alone. -/
theorem policyNamespace_incr {b : Backend} {kind key : String} (hkey : HasKind kind key)
    (hkind : kind ∈ documentKinds ++ counterKinds ∧ "polns" ≠ kind) :
    policyNamespace (b.incr key).counters tenantKey = policyNamespace b.counters tenantKey := by
  have hne : policyNamespaceKey tenantKey ≠ key :=
    (hasKind_policyNamespaceKey tenantKey).ne hkey ⟨by decide, hkind⟩
  unfold policyNamespace
  rw [Backend.counters_incr_ne _ hne]

omit [PyRuntime] in
theorem policyNamespace_invalidateResource (b : Backend) (tenantId : Int)
    (resourceType resourceId : String) :
    policyNamespace (invalidateResource b tenantId resourceType resourceId).counters tenantKey =
      policyNamespace b.counters tenantKey := by
  unfold invalidateResource indexCacheInvalidate aclCacheInvalidate
  rw [policyNamespace_incr (hasKind_indexNamespaceKey _ _ _) (by decide),
    policyNamespace_incr (hasKind_aclNamespaceKey _ _ _) (by decide)]

omit [PyRuntime] in
theorem policyNamespace_decisionBump (b : Backend) (tenantKey' : String) :
    policyNamespace (decisionBumpNamespace b tenantKey').counters tenantKey =
      policyNamespace b.counters tenantKey :=
  policyNamespace_incr (hasKind_decisionNamespaceKey _) (by decide)

omit [PyRuntime] in
/-- Bumping the revision afterwards leaves the same alone. -/
theorem TableWrite.bumpRevision (h : TableWrite tenantKey w w') :
    TableWrite tenantKey w (w'.bumpRevision tenantKey) where
  tenantId := by
    rw [tenant_bumpRevision]
    exact h.tenantId
  policyVersion := by
    rw [tenant_bumpRevision]
    exact h.policyVersion
  policies := h.policies
  policyNamespace := h.policyNamespace
  documents := h.documents
  relationships := h.relationships

omit [PyRuntime] in
theorem tableWrite_ensureTenant (w : World) (tenantKey : String) :
    TableWrite tenantKey w (w.ensureTenant tenantKey) where
  tenantId := congrArg TenantRecord.id (tenant_ensureTenant w tenantKey)
  policyVersion := congrArg TenantRecord.policyVersion (tenant_ensureTenant w tenantKey)
  policies := rfl
  policyNamespace := rfl
  documents _ _ _ _ := rfl
  relationships _ := Or.inl ⟨rfl, rfl⟩

omit [PyRuntime] in
/-- A write to the ACL table, with any bumps of counters. -/
theorem tableWrite_acl (acl : AclTable) {b : Backend}
    (hdocs : ∀ key, b.get key = w.backend.get key)
    (hns : policyNamespace b.counters tenantKey = policyNamespace w.backend.counters tenantKey) :
    TableWrite tenantKey w
      { w.ensureTenant tenantKey with
        db := { (w.ensureTenant tenantKey).db with acl := acl }, backend := b } where
  tenantId := congrArg TenantRecord.id (tenant_ensureTenant w tenantKey)
  policyVersion := congrArg TenantRecord.policyVersion (tenant_ensureTenant w tenantKey)
  policies := rfl
  policyNamespace := hns
  documents _ key _ _ := hdocs key
  relationships _ := Or.inl ⟨hdocs _, rfl⟩

omit [PyRuntime] in
theorem tableWrite_createAclEntry (w : World) (draft : AclDraft) :
    TableWrite tenantKey w (createAclEntry w tenantKey draft).2 := by
  unfold createAclEntry
  dsimp only
  split
  · exact tableWrite_ensureTenant w tenantKey
  · apply TableWrite.bumpRevision
    apply tableWrite_acl
    · intro key
      rfl
    · rw [policyNamespace_decisionBump, policyNamespace_invalidateResource]
      rfl

omit [PyRuntime] in
theorem tableWrite_deleteAclEntry (w : World) (aclId : Int) :
    TableWrite tenantKey w (deleteAclEntry w tenantKey aclId) := by
  unfold deleteAclEntry
  dsimp only
  apply TableWrite.bumpRevision
  apply tableWrite_acl
  · intro key
    split <;> rfl
  · rw [policyNamespace_decisionBump]
    split
    · exact policyNamespace_invalidateResource _ _ _ _
    · rfl

omit [PyRuntime] in
/-- A new relationship drops the document of its subject. -/
theorem tableWrite_createRelationship (w : World) (record : RelationshipRecord) :
    TableWrite tenantKey w (createRelationship w tenantKey record).2 := by
  unfold createRelationship
  dsimp only
  split
  · exact tableWrite_ensureTenant w tenantKey
  · rename_i rowId relationships hcreate
    apply TableWrite.bumpRevision
    have hother : ∀ key, key ≠ relationshipKey (w.tenant tenantKey).id record.subjectType
        record.subjectId → (relationshipCacheInvalidate w.backend (w.tenant tenantKey).id
          record.subjectType record.subjectId).get key = w.backend.get key := by
      intro key hne
      exact Backend.get_delete_ne _ hne
    refine
      { tenantId := congrArg TenantRecord.id (tenant_ensureTenant w tenantKey)
        policyVersion := congrArg TenantRecord.policyVersion (tenant_ensureTenant w tenantKey)
        policies := rfl
        policyNamespace := ?_
        documents := ?_
        relationships := ?_ }
    · rw [policyNamespace_decisionBump]
      unfold indexCacheInvalidateTenant
      rw [policyNamespace_incr (hasKind_indexTenantKey _) (by decide)]
      rfl
    · intro kind key hkey hkind
      apply hother
      apply hkey.ne (hasKind_relationshipKey _ _ _)
      simp only [List.mem_cons, List.not_mem_nil, or_false] at hkind
      rcases hkind with rfl | rfl | rfl
      · decide
      · decide
      · decide
    · intro subjectId
      by_cases hkey : relationshipKey (w.tenant tenantKey).id "user" subjectId =
          relationshipKey (w.tenant tenantKey).id record.subjectType record.subjectId
      · right
        rw [hkey]
        exact Backend.get_delete_self _ _
      · left
        refine ⟨hother _ hkey, ?_⟩
        apply RelationshipTable.listForSubject_create hcreate
        -- a row of this subject would have the key of its document
        rintro ⟨-, htype, hid⟩
        apply hkey
        rw [htype, hid]

omit [PyRuntime] in
theorem tableWrite_editRoles (w : World) (users : List UserRow) :
    TableWrite tenantKey w (editRoles w tenantKey users) := by
  apply TableWrite.bumpRevision
  exact
    { tenantId := rfl
      policyVersion := rfl
      policies := rfl
      policyNamespace := policyNamespace_incr hasKind_indexGlobalKey (by decide)
      documents := fun _ _ _ _ => rfl
      relationships := fun _ => Or.inl ⟨rfl, rfl⟩ }

/-! ## Histories -/

/-- The invariant of a history of the tenant. -/
structure TenantFresh (live : Set Lookup) (tenantKey : String) (tenantId : Int) (w : World) :
    Prop where
  fresh : Fresh live tenantKey w
  tenant : (w.tenant tenantKey).id = tenantId

/-- A request of the tenant that looks up a live resource. -/
def ServiceOp.Live (tenantKey : String) (tenantId : Int) (live : Set Lookup) (op : ServiceOp) :
    Prop :=
  ∀ request, op = .authorize request →
    request.tenantKey = tenantKey ∧ request.lookup tenantId ∈ live

/-- One operation keeps the invariant, when it is effective. -/
theorem TenantFresh.step {tenantId : Int} (hdistinct : Distinct live)
    (h : TenantFresh live tenantKey tenantId w) {op : ServiceOp}
    (heffective : op.Effective settings tenantKey live w)
    (hlive : op.Live tenantKey tenantId live) :
    TenantFresh live tenantKey tenantId (w.step settings tenantKey op) := by
  -- a write that reaches every live lookup leaves nothing stale
  have hwrite : ∀ w', TableWrite tenantKey w w' → (∀ l ∈ live, Reaches w w' l) →
      TenantFresh live tenantKey tenantId w' := by
    intro w' htable hreach
    exact ⟨h.fresh.write htable hreach, htable.tenantId.trans h.tenant⟩
  cases op with
  | createAcl draft => exact hwrite _ (tableWrite_createAclEntry w draft) heffective
  | deleteAcl aclId => exact hwrite _ (tableWrite_deleteAclEntry w aclId) heffective
  | createRelationship record =>
      exact hwrite _ (tableWrite_createRelationship w record) heffective
  | editRoles users => exact hwrite _ (tableWrite_editRoles w users) heffective
  | authorize request =>
      -- authorize: what it stores is what the tables say
      rcases hlive request rfl with ⟨rfl, hmem⟩
      have hlookup : w.lookup request ∈ live := by
        unfold World.lookup
        rw [h.tenant]
        exact hmem
      have hwarmed := authorize_warmed settings h.fresh hdistinct hlookup
      refine ⟨hwarmed.fresh, ?_⟩
      have htenant := congrArg TenantRecord.id hwarmed.tables.tenant
      exact htenant.trans h.tenant

omit [PyRuntime] in
/-- Emptying the four caches leaves fresh ones, when the policy cache was. -/
theorem fresh_emptied (hpolicies : ∀ v, w.backend.get (policyCacheKey w.backend.counters tenantKey
      (w.tenant tenantKey).policyVersion) = some v →
    w.storePolicies tenantKey "active" ≠ [] ∧
      v = encodePolicies (w.storePolicies tenantKey "active")) :
    Fresh live tenantKey w.emptied where
  acl := by
    -- only documents of the kind `pol` are kept, so no other cache holds anything
    apply Lib.coherent_of_empty
    intro l _
    apply if_neg
    intro hpol
    exact (hasKind_aclKey _ l).ne hpol (by decide) rfl
  index := by
    apply Lib.coherent_of_empty
    intro l _
    apply if_neg
    intro hpol
    exact (hasKind_indexKey _ l).ne hpol (by decide) rfl
  relationships := by
    apply Lib.coherent_of_empty
    intro s _
    apply if_neg
    intro hpol
    exact (hasKind_relationshipKey _ _ s).ne hpol (by decide) rfl
  policies v hv := by
    apply hpolicies
    have hpol := hasKind_policyCacheKey w.backend.counters tenantKey
      (w.tenant tenantKey).policyVersion
    exact (if_pos hpol).symm.trans hv

/-- With the four caches emptied, a fully consistent request is answered by the tables. -/
theorem authorize_emptied {request : AuthorizeRequest} (hconsistent : request.FullyConsistent)
    (hpolicies : ∀ v, w.backend.get (policyCacheKey w.backend.counters request.tenantKey
        (w.tenant request.tenantKey).policyVersion) = some v →
      w.storePolicies request.tenantKey "active" ≠ [] ∧
        v = encodePolicies (w.storePolicies request.tenantKey "active")) :
    (authorize settings w.emptied request).1.decision = w.storeDecision settings request := by
  have hcold : (authorize settings w.emptied request).1.decision =
      w.emptied.storeDecision settings request :=
    authorize_spec (fresh_emptied hpolicies) (distinct_singleton (w.emptied.lookup request))
      (Set.mem_singleton _) (decisionCurrent_of_fullyConsistent hconsistent)
  rw [hcold]
  exact (SameTables.withBackend w _).storeDecision

/-- From fresh caches a fully consistent request is answered as with empty ones. -/
theorem TenantFresh.agrees {tenantId : Int} (hdistinct : Distinct live)
    (h : TenantFresh live tenantKey tenantId w) {op : ServiceOp}
    (hlive : op.Live tenantKey tenantId live) : op.Agrees settings w := by
  cases op with
  | authorize request =>
      intro hconsistent
      rcases hlive request rfl with ⟨rfl, hmem⟩
      have hlookup : w.lookup request ∈ live := by
        unfold World.lookup
        rw [h.tenant]
        exact hmem
      have hwarm : (KeyNetra.authorize settings w request).1.decision =
          w.storeDecision settings request :=
        authorize_spec h.fresh hdistinct hlookup (decisionCurrent_of_fullyConsistent hconsistent)
      rw [hwarm, authorize_emptied hconsistent h.fresh.policies]
  | _ => trivial

/-- In every history of one tenant, from caches that agree with the tables (empty
ones do), whose writes are effective and whose lookups differ in what their keys
tell, every fully consistent request is answered as with empty caches on the
current tables. -/
theorem cached_authorize_eq_cold (settings : Settings) (tenantKey : String) (w : World)
    (ops : List ServiceOp)
    (htenant : ∀ request, ServiceOp.authorize request ∈ ops → request.tenantKey = tenantKey)
    (hfresh : Fresh (lookups (w.tenant tenantKey).id ops) tenantKey w)
    (hdistinct : Distinct (lookups (w.tenant tenantKey).id ops))
    (heffective : Lib.Along (World.step settings tenantKey)
      (fun v op => op.Effective settings tenantKey (lookups (w.tenant tenantKey).id ops) v) w ops) :
    Lib.Along (World.step settings tenantKey) (fun v op => op.Agrees settings v) w ops := by
  have hlive : ∀ op ∈ ops,
      op.Live tenantKey (w.tenant tenantKey).id (lookups (w.tenant tenantKey).id ops) := by
    intro op hop request hrequest
    subst hrequest
    exact ⟨htenant request hop, request, hop, rfl⟩
  have hinitial : TenantFresh (lookups (w.tenant tenantKey).id ops) tenantKey
      (w.tenant tenantKey).id w := ⟨hfresh, rfl⟩
  apply Lib.along_of_invariant _ _ hinitial (heffective.and_forall hlive)
  · intro v op hv hok
    exact hv.step hdistinct hok.1 hok.2
  · intro v op hv hok
    exact hv.agrees hdistinct hok.2

end Writes

/-! ## Concrete histories -/

section Concrete

attribute [local instance] plainRuntime

attribute [local semireducible] cacheKey

/-- A database without rows, and empty caches. -/
def blankWorld : World where
  db :=
    { tenants := ⟨[], List.nodup_nil, List.nodup_nil⟩
      acl := ⟨[], List.nodup_nil⟩
      relationships := noRelationships
      users := []
      authModels := []
      policies := .empty }
  backend := .cold fun _ => none
  modelGraphs _ := none

/-- Fail closed, and no policies. -/
def plainSettings : Settings := ⟨"fail_closed", "static", .ok []⟩

/-- User 7 reads document 1, bypassing the decision cache. -/
def readDoc : AuthorizeRequest where
  tenantKey := "default"
  user := [("id", .int 7)]
  action := "read"
  resource := [("type", .str "doc"), ("id", .str "1")]
  consistency := "fully_consistent"

/-- User 7 becomes a viewer of document 1. -/
def makeViewer : ServiceOp := .createRelationship ⟨"user", "7", "viewer", "doc", "1"⟩

/-- Another user's ACL entry for document 1. -/
def shareWithNine : ServiceOp := .createAcl ⟨"user", "9", "doc", "1", "read", "allow", none⟩

/-- A read, a new relationship, and the read again: the tenant's counter moves the
index key, so the second read sees the relationship. -/
theorem relationship_seen :
    Lib.Along (World.step plainSettings "default") (fun v op => op.Agrees plainSettings v)
      blankWorld [.authorize readDoc, makeViewer, .authorize readDoc] := by
  have hlookups : ∀ l ∈ lookups (blankWorld.tenant "default").id
      [.authorize readDoc, makeViewer, .authorize readDoc], l = blankWorld.lookup readDoc := by
    rintro l ⟨request, hrequest, rfl⟩
    have hread : request = readDoc := by simpa [makeViewer] using hrequest
    rw [hread]
    rfl
  apply cached_authorize_eq_cold plainSettings "default" blankWorld
  · intro request hrequest
    have hread : request = readDoc := by simpa [makeViewer] using hrequest
    rw [hread]
    rfl
  · exact fresh_of_empty fun _ => rfl
  · intro l hl r hr _ _
    rw [hlookups l hl, hlookups r hr]
  · refine ⟨trivial, ?_, trivial, trivial⟩
    intro l hl
    rw [hlookups l hl]
    -- the write of the viewer reaches the read, for no resource counter hides it
    refine ⟨Or.inl ⟨?_, ?_⟩, Or.inr ?_⟩
    · decide +kernel
    · decide +kernel
    · decide +kernel

/-- The history before the last read: an ACL write gives document 1 a counter of its
own, a read fills the index under it, and a relationship moves the tenant's counter. -/
def hiddenWorld : World :=
  Lib.run (World.step plainSettings "default") blankWorld
    [shareWithNine, .authorize readDoc, makeViewer]

/-- User 7 is now linked to document 1, and is denied; with empty caches the
relationship is found. -/
theorem relationship_after_acl_hidden :
    (authorize plainSettings hiddenWorld readDoc).1.decision.allowed = false ∧
      (authorize plainSettings hiddenWorld.emptied readDoc).1.decision.allowed = true ∧
      ¬ Lib.Along (World.step plainSettings "default") (fun v op => op.Agrees plainSettings v)
        blankWorld [shareWithNine, .authorize readDoc, makeViewer, .authorize readDoc] := by
  -- the read bypasses the decision cache, so it is the index that hides the write
  have hconsistent : readDoc.FullyConsistent := by decide +kernel
  have hdenied : (authorize plainSettings hiddenWorld readDoc).1.decision.allowed = false := by
    decide +kernel
  have hnone : hiddenWorld.backend.get (policyCacheKey hiddenWorld.backend.counters "default"
      (hiddenWorld.tenant "default").policyVersion) = none := by
    decide +kernel
  have hallowed :
      (authorize plainSettings hiddenWorld.emptied readDoc).1.decision.allowed = true := by
    rw [authorize_emptied hconsistent]
    · decide +kernel
    · intro v hv
      rw [show readDoc.tenantKey = "default" from rfl, hnone] at hv
      cases hv
  refine ⟨hdenied, hallowed, ?_⟩
  intro hagrees
  have hlast : (authorize plainSettings hiddenWorld readDoc).1.decision =
      (authorize plainSettings hiddenWorld.emptied readDoc).1.decision :=
    hagrees.2.2.2.1 hconsistent
  rw [hlast, hallowed] at hdenied
  cases hdenied

end Concrete

end KeyNetra
