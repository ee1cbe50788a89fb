import KeyNetra.Cache.Backend
import KeyNetra.Engine.Pipeline
import KeyNetra.Repo.Policies

/-!
# KeyNetra.Cache.Adapters — the five caches over the backend

Each cache serialises its records to JSON objects and reads them back field by
field, with defaults for what is missing. Two kinds of invalidation: a namespace
counter is part of the key (ACL, index, policy, decision cache), or the document
is deleted (relationship cache).

* `toDict` / `fromDict` — the two directions of each record, with the lemma that
  reading back what was written gives the same record;
* `aclKey`, `indexKey`, … — the keys, with the counters they read;
* `…CacheGet` / `…CacheSet` / `…CacheInvalidate` — the cache operations.
-/

namespace KeyNetra

/-! ## Lists of records as documents -/

/-- The items of a payload that are objects. -/
def dictItems : List Value → List Dict
  | [] => []
  | .dict item :: rest => item :: dictItems rest
  | _ :: rest => dictItems rest

/-- A list of records as a payload. -/
def encodeList {α : Type} (encode : α → Dict) (records : List α) : Value :=
  .list (records.map fun record => .dict (encode record))

/-- A payload as a list of records; `none` is a miss. -/
def decodeList {α : Type} (decode : Dict → Except PyError α) :
    Option Value → Except PyError (Option (List α))
  | some (.list items) => do
      let records ← (dictItems items).mapM decode
      .ok (some records)
  | _ => .ok none

theorem dictItems_encode {α : Type} (encode : α → Dict) (records : List α) :
    dictItems (records.map fun record => .dict (encode record)) = records.map encode := by
  induction records with
  | nil => rfl
  | cons record records ih => rw [List.map_cons, dictItems, ih, List.map_cons]

/-- Reading back a list of records gives the records. -/
theorem decodeList_encodeList {α : Type} {encode : α → Dict} {decode : Dict → Except PyError α}
    (h : ∀ record, decode (encode record) = .ok record) (records : List α) :
    decodeList decode (some (encodeList encode records)) = .ok (some records) := by
  have hdecode : (records.map encode).mapM decode = .ok records := by
    rw [List.mapM_map]
    have hfun : decode ∘ encode = fun record => .ok record := funext h
    rw [hfun]
    simpa using Lib.mapM_ok (fun record => record) records
  simp only [decodeList, encodeList, dictItems_encode, hdecode, Lib.ok_bind]

@[simp] theorem decodeList_none {α : Type} (decode : Dict → Except PyError α) :
    decodeList decode none = .ok none := rfl

section Adapters

variable [PyRuntime]

/-! ## The ACL cache -/

/-- A row of `resource_acl`; `createdAt` is its ISO text. -/
structure ACLRecord where
  id : Int
  tenantId : Int
  subjectType : String
  subjectId : String
  resourceType : String
  resourceId : String
  action : String
  effect : String
  createdAt : Option String
deriving DecidableEq, Repr

/-- `ACLRecord.to_dict`. -/
def ACLRecord.toDict (r : ACLRecord) : Dict :=
  [("id", .int r.id), ("tenant_id", .int r.tenantId), ("subject_type", .str r.subjectType),
    ("subject_id", .str r.subjectId), ("resource_type", .str r.resourceType),
    ("resource_id", .str r.resourceId), ("action", .str r.action), ("effect", .str r.effect),
    ("created_at", .ofOption r.createdAt)]

/-- The record a cached item is read as. -/
def ACLRecord.fromDict (l : Lookup) (item : Dict) : Except PyError ACLRecord := do
  let id ← (Dict.getD item "id" (.int 0)).toInt
  let tenantId ← (Dict.getD item "tenant_id" (.int l.tenantId)).toInt
  .ok
    { id, tenantId
      subjectType := (Dict.getD item "subject_type" (.str "")).text
      subjectId := (Dict.getD item "subject_id" (.str "")).text
      resourceType := (Dict.getD item "resource_type" (.str l.resourceType)).text
      resourceId := (Dict.getD item "resource_id" (.str l.resourceId)).text
      action := (Dict.getD item "action" (.str l.action)).text
      effect := (Dict.getD item "effect" (.str "deny")).text
      createdAt := (Dict.get item "created_at").optText }

theorem ACLRecord.fromDict_toDict (l : Lookup) (r : ACLRecord) :
    ACLRecord.fromDict l r.toDict = .ok r := by
  obtain ⟨id, tenantId, st, si, rt, ri, a, e, c⟩ := r
  cases c <;> rfl

/-- The counter of one resource. -/
def aclNamespaceKey (tenantId : Int) (resourceType resourceId : String) : String :=
  cacheKey ["aclns", toString tenantId, resourceType, resourceId]

omit [PyRuntime] in
theorem hasKind_aclNamespaceKey (tenantId : Int) (resourceType resourceId : String) :
    HasKind "aclns" (aclNamespaceKey tenantId resourceType resourceId) := ⟨_, _, rfl⟩

/-- The counter of all resources. -/
def aclGlobalKey : String := cacheKey ["aclns", "global"]

/-- The namespace a lookup reads: its resource's counter, else the global one. -/
def aclNamespace (counters : String → Option Nat) (l : Lookup) : Nat :=
  ((counters (aclNamespaceKey l.tenantId l.resourceType l.resourceId)).or
    (counters aclGlobalKey)).getD 0

/-- `RedisBackedACLCache._key`. -/
def aclKey (counters : String → Option Nat) (l : Lookup) : String :=
  l.key "acl" (aclNamespace counters l)

/-- The payload of an ACL document. -/
def encodeAcl (records : List ACLRecord) : Value := encodeList ACLRecord.toDict records

/-- `RedisBackedACLCache.get`. -/
def aclCacheGet (b : Backend) (l : Lookup) : Except PyError (Option (List ACLRecord)) :=
  decodeList (ACLRecord.fromDict l) (b.get (aclKey b.counters l))

/-- `RedisBackedACLCache.set`. -/
def aclCacheSet (b : Backend) (l : Lookup) (records : List ACLRecord) : Backend :=
  b.set (aclKey b.counters l) (encodeAcl records)

/-- `RedisBackedACLCache.invalidate`. -/
def aclCacheInvalidate (b : Backend) (tenantId : Int) (resourceType resourceId : String) :
    Backend :=
  b.incr (aclNamespaceKey tenantId resourceType resourceId)

/-- A document that holds an encoded list is read back. -/
theorem aclCacheGet_of_doc {b : Backend} {l : Lookup} {records : List ACLRecord}
    (h : b.get (aclKey b.counters l) = some (encodeAcl records)) :
    aclCacheGet b l = .ok (some records) := by
  rw [aclCacheGet, h]
  exact decodeList_encodeList (ACLRecord.fromDict_toDict l) records

omit [PyRuntime] in
@[simp] theorem counters_aclCacheSet (b : Backend) (l : Lookup) (records : List ACLRecord) :
    (aclCacheSet b l records).counters = b.counters := rfl

omit [PyRuntime] in
theorem get_aclCacheSet_self (b : Backend) (l : Lookup) (records : List ACLRecord) :
    (aclCacheSet b l records).get (aclKey b.counters l) = some (encodeAcl records) :=
  Backend.get_set_self _ _ _

omit [PyRuntime] in
theorem get_aclCacheSet_ne (b : Backend) {l : Lookup} (records : List ACLRecord) {key : String}
    (h : key ≠ aclKey b.counters l) : (aclCacheSet b l records).get key = b.get key :=
  Backend.get_set_ne _ _ h

theorem aclCacheGet_of_none {b : Backend} {l : Lookup} (h : b.get (aclKey b.counters l) = none) :
    aclCacheGet b l = .ok none := by
  rw [aclCacheGet, h, decodeList_none]

/-! ## The access index cache -/

/-- An entry of a resource's access index. -/
structure AccessIndexEntry where
  resourceType : String
  resourceId : String
  action : String
  allowedSubjects : List String
  source : String
  subjectType : Option String := none
  subjectId : Option String := none
  effect : Option String := none
  aclId : Option Int := none
deriving DecidableEq, Repr

/-- `None` or an integer, as a value. -/
def Value.ofInt? : Option Int → Value
  | some n => .int n
  | none => .null

/-- The fields of an entry, as `entry.__dict__` and as the cached payload. -/
def AccessIndexEntry.toDict (e : AccessIndexEntry) : Dict :=
  [("resource_type", .str e.resourceType), ("resource_id", .str e.resourceId),
    ("action", .str e.action), ("allowed_subjects", .list (e.allowedSubjects.map .str)),
    ("source", .str e.source), ("subject_type", .ofOption e.subjectType),
    ("subject_id", .ofOption e.subjectId), ("effect", .ofOption e.effect),
    ("acl_id", .ofInt? e.aclId)]

/-- The texts of a list, other items skipped. -/
def strItems : List Value → List String
  | [] => []
  | .str s :: rest => s :: strItems rest
  | _ :: rest => strItems rest

omit [PyRuntime] in
@[simp] theorem strItems_map_str (xs : List String) : strItems (xs.map .str) = xs := by
  induction xs with
  | nil => rfl
  | cons x xs ih => rw [List.map_cons, strItems, ih]

/-- The entry a cached item is read as. -/
def AccessIndexEntry.fromDict (l : Lookup) (item : Dict) : Except PyError AccessIndexEntry := do
  let aclId ←
    match Dict.get item "acl_id" with
    | .null => .ok none
    | value => do .ok (some (← value.toInt))
  .ok
    { resourceType := (Dict.getD item "resource_type" (.str l.resourceType)).text
      resourceId := (Dict.getD item "resource_id" (.str l.resourceId)).text
      action := (Dict.getD item "action" (.str l.action)).text
      allowedSubjects :=
        match Dict.getD item "allowed_subjects" (.list []) with
        | .list subjects => strItems subjects
        | _ => []
      source := (Dict.getD item "source" (.str "unknown")).text
      subjectType := (Dict.get item "subject_type").optText
      subjectId := (Dict.get item "subject_id").optText
      effect := (Dict.get item "effect").optText
      aclId := aclId }

theorem AccessIndexEntry.fromDict_toDict (l : Lookup) (e : AccessIndexEntry) :
    AccessIndexEntry.fromDict l e.toDict = .ok e := by
  obtain ⟨rt, ri, a, subjects, source, st, si, effect, aclId⟩ := e
  have hsubjects : strItems (subjects.map .str) = subjects := strItems_map_str subjects
  have hst := Value.optText_ofOption st
  have hsi := Value.optText_ofOption si
  have heffect := Value.optText_ofOption effect
  cases aclId <;>
    simp [AccessIndexEntry.fromDict, AccessIndexEntry.toDict, Dict.get, Dict.getD,
      Value.ofInt?, Value.toInt, hsubjects, hst, hsi, heffect]

/-- The counter of one resource. -/
def indexNamespaceKey (tenantId : Int) (resourceType resourceId : String) : String :=
  cacheKey ["idxns", toString tenantId, resourceType, resourceId]

/-- The counter of one tenant. -/
def indexTenantKey (tenantId : Int) : String := cacheKey ["idxns", toString tenantId, "tenant"]

/-- The counter of all tenants. -/
def indexGlobalKey : String := cacheKey ["idxns", "global"]

omit [PyRuntime] in
theorem hasKind_indexNamespaceKey (tenantId : Int) (resourceType resourceId : String) :
    HasKind "idxns" (indexNamespaceKey tenantId resourceType resourceId) := ⟨_, _, rfl⟩

omit [PyRuntime] in
theorem hasKind_indexTenantKey (tenantId : Int) : HasKind "idxns" (indexTenantKey tenantId) :=
  ⟨_, _, rfl⟩

omit [PyRuntime] in
theorem hasKind_indexGlobalKey : HasKind "idxns" indexGlobalKey := ⟨_, _, rfl⟩

/-- The namespace a lookup reads: the counter of its resource, else that of its
tenant, else the global one. A finer counter hides the coarser ones. -/
def indexNamespace (counters : String → Option Nat) (l : Lookup) : Nat :=
  (((counters (indexNamespaceKey l.tenantId l.resourceType l.resourceId)).or
    (counters (indexTenantKey l.tenantId))).or (counters indexGlobalKey)).getD 0

/-- `RedisBackedAccessIndexCache._key`. -/
def indexKey (counters : String → Option Nat) (l : Lookup) : String :=
  l.key "idx" (indexNamespace counters l)

/-- The payload of an index document. -/
def encodeIndex (entries : List AccessIndexEntry) : Value :=
  encodeList AccessIndexEntry.toDict entries

/-- `RedisBackedAccessIndexCache.get`. -/
def indexCacheGet (b : Backend) (l : Lookup) : Except PyError (Option (List AccessIndexEntry)) :=
  decodeList (AccessIndexEntry.fromDict l) (b.get (indexKey b.counters l))

/-- `RedisBackedAccessIndexCache.set`. -/
def indexCacheSet (b : Backend) (l : Lookup) (entries : List AccessIndexEntry) : Backend :=
  b.set (indexKey b.counters l) (encodeIndex entries)

/-- `RedisBackedAccessIndexCache.invalidate`. -/
def indexCacheInvalidate (b : Backend) (tenantId : Int) (resourceType resourceId : String) :
    Backend :=
  b.incr (indexNamespaceKey tenantId resourceType resourceId)

/-- `RedisBackedAccessIndexCache.invalidate_tenant`. -/
def indexCacheInvalidateTenant (b : Backend) (tenantId : Int) : Backend :=
  b.incr (indexTenantKey tenantId)

/-- `RedisBackedAccessIndexCache.invalidate_global`. -/
def indexCacheInvalidateGlobal (b : Backend) : Backend := b.incr indexGlobalKey

theorem indexCacheGet_of_doc {b : Backend} {l : Lookup} {entries : List AccessIndexEntry}
    (h : b.get (indexKey b.counters l) = some (encodeIndex entries)) :
    indexCacheGet b l = .ok (some entries) := by
  rw [indexCacheGet, h]
  exact decodeList_encodeList (AccessIndexEntry.fromDict_toDict l) entries

omit [PyRuntime] in
@[simp] theorem counters_indexCacheSet (b : Backend) (l : Lookup)
    (entries : List AccessIndexEntry) : (indexCacheSet b l entries).counters = b.counters := rfl

omit [PyRuntime] in
theorem get_indexCacheSet_self (b : Backend) (l : Lookup) (entries : List AccessIndexEntry) :
    (indexCacheSet b l entries).get (indexKey b.counters l) = some (encodeIndex entries) :=
  Backend.get_set_self _ _ _

omit [PyRuntime] in
theorem get_indexCacheSet_ne (b : Backend) {l : Lookup} (entries : List AccessIndexEntry)
    {key : String} (h : key ≠ indexKey b.counters l) :
    (indexCacheSet b l entries).get key = b.get key :=
  Backend.get_set_ne _ _ h

theorem indexCacheGet_of_none {b : Backend} {l : Lookup}
    (h : b.get (indexKey b.counters l) = none) : indexCacheGet b l = .ok none := by
  rw [indexCacheGet, h, decodeList_none]

omit [PyRuntime] in
theorem hasKind_aclKey (counters : String → Option Nat) (l : Lookup) :
    HasKind "acl" (aclKey counters l) := ⟨_, _, rfl⟩

omit [PyRuntime] in
theorem hasKind_indexKey (counters : String → Option Nat) (l : Lookup) :
    HasKind "idx" (indexKey counters l) := ⟨_, _, rfl⟩

omit [PyRuntime] in
/-- The two caches of the indexer never share a document. -/
theorem aclKey_ne_indexKey (counters counters' : String → Option Nat) (l r : Lookup) :
    aclKey counters l ≠ indexKey counters' r :=
  (hasKind_aclKey counters l).ne (hasKind_indexKey counters' r) (by decide)

/-! ## The relationship cache -/

/-- A relationship edge. -/
structure RelationshipRecord where
  subjectType : String
  subjectId : String
  relation : String
  objectType : String
  objectId : String
deriving DecidableEq, Repr

/-- `RelationshipRecord.to_dict`. -/
def RelationshipRecord.toDict (r : RelationshipRecord) : Dict :=
  [("subject_type", .str r.subjectType), ("subject_id", .str r.subjectId),
    ("relation", .str r.relation), ("object_type", .str r.objectType),
    ("object_id", .str r.objectId)]

/-- The record a cached item is read as. -/
def RelationshipRecord.fromDict (item : Dict) : Except PyError RelationshipRecord :=
  .ok
    { subjectType := (Dict.getD item "subject_type" (.str "")).text
      subjectId := (Dict.getD item "subject_id" (.str "")).text
      relation := (Dict.getD item "relation" (.str "")).text
      objectType := (Dict.getD item "object_type" (.str "")).text
      objectId := (Dict.getD item "object_id" (.str "")).text }

theorem RelationshipRecord.fromDict_toDict (r : RelationshipRecord) :
    RelationshipRecord.fromDict r.toDict = .ok r := rfl

/-- `RedisBackedRelationshipCache._key`. -/
def relationshipKey (tenantId : Int) (subjectType subjectId : String) : String :=
  cacheKey ["rel", toString tenantId, subjectType, subjectId]

/-- The payload of a relationship document. -/
def encodeRelationships (records : List RelationshipRecord) : Value :=
  encodeList RelationshipRecord.toDict records

/-- `RedisBackedRelationshipCache.get`. -/
def relationshipCacheGet (b : Backend) (tenantId : Int) (subjectType subjectId : String) :
    Except PyError (Option (List RelationshipRecord)) :=
  decodeList RelationshipRecord.fromDict (b.get (relationshipKey tenantId subjectType subjectId))

/-- `RedisBackedRelationshipCache.set`. -/
def relationshipCacheSet (b : Backend) (tenantId : Int) (subjectType subjectId : String)
    (records : List RelationshipRecord) : Backend :=
  b.set (relationshipKey tenantId subjectType subjectId) (encodeRelationships records)

/-- `RedisBackedRelationshipCache.invalidate`. -/
def relationshipCacheInvalidate (b : Backend) (tenantId : Int) (subjectType subjectId : String) :
    Backend :=
  b.delete (relationshipKey tenantId subjectType subjectId)

theorem relationshipCacheGet_of_doc {b : Backend} {tenantId : Int} {subjectType subjectId : String}
    {records : List RelationshipRecord}
    (h : b.get (relationshipKey tenantId subjectType subjectId) =
      some (encodeRelationships records)) :
    relationshipCacheGet b tenantId subjectType subjectId = .ok (some records) := by
  rw [relationshipCacheGet, h]
  exact decodeList_encodeList RelationshipRecord.fromDict_toDict records

theorem relationshipCacheGet_of_none {b : Backend} {tenantId : Int} {subjectType subjectId : String}
    (h : b.get (relationshipKey tenantId subjectType subjectId) = none) :
    relationshipCacheGet b tenantId subjectType subjectId = .ok none := by
  rw [relationshipCacheGet, h, decodeList_none]

omit [PyRuntime] in
theorem hasKind_relationshipKey (tenantId : Int) (subjectType subjectId : String) :
    HasKind "rel" (relationshipKey tenantId subjectType subjectId) := ⟨_, _, rfl⟩

omit [PyRuntime] in
/-- The keys of the user subjects tell tenant and id. -/
theorem relationshipKey_user_inj {t t' : Int} {s s' : String} :
    relationshipKey t "user" s = relationshipKey t' "user" s' ↔ t = t' ∧ s = s' := by
  unfold relationshipKey
  rw [cacheKey_cons_inj (by decide) (by decide),
    cacheKey_cons_inj (Lib.colon_notMem_intRepr _) (Lib.colon_notMem_intRepr _),
    cacheKey_cons_inj (by decide) (by decide), Lib.toString_int_inj, cacheKey_single,
    cacheKey_single]
  simp

/-! ## The policy cache -/

/-- The object a policy record is cached as. -/
def PolicyRecord.toDict (r : PolicyRecord) : Dict :=
  [("id", .int r.id), ("definition", .dict r.definition.toDict)]

/-- `item[key]`. -/
def Dict.getItem (d : Dict) (key : String) : Except PyError Value :=
  match d.get? key with
  | some value => .ok value
  | none => .error (.keyError key)

/-- The record a cached item is read as. -/
def PolicyRecord.fromDict (item : Dict) : Except PyError PolicyRecord := do
  let id ← (← Dict.getItem item "id").toInt
  let definition ←
    match ← Dict.getItem item "definition" with
    | .dict definition => PolicyDefinition.fromDict definition
    | _ => .error (.typeError "definition is not a dictionary")
  .ok ⟨id, definition⟩

theorem PolicyRecord.fromDict_toDict (r : PolicyRecord) :
    PolicyRecord.fromDict r.toDict = .ok r := by
  show (do
    let definition ← PolicyDefinition.fromDict r.definition.toDict
    .ok (⟨r.id, definition⟩ : PolicyRecord)) = .ok r
  rw [PolicyDefinition.fromDict_toDict]
  rfl

/-- The counter of a tenant's policies. -/
def policyNamespaceKey (tenantKey : String) : String := cacheKey ["polns", tenantKey]

omit [PyRuntime] in
theorem hasKind_policyNamespaceKey (tenantKey : String) :
    HasKind "polns" (policyNamespaceKey tenantKey) := ⟨_, _, rfl⟩

/-- The namespace of a tenant's policies. -/
def policyNamespace (counters : String → Option Nat) (tenantKey : String) : Nat :=
  (counters (policyNamespaceKey tenantKey)).getD 0

/-- A policy key under a namespace. -/
def policyKeyAt (tenantKey : String) (ns : Nat) (policyVersion : Int) : String :=
  cacheKey ["pol", tenantKey, toString ns, toString policyVersion]

omit [PyRuntime] in
/-- The keys of one tenant tell namespace and version. -/
theorem policyKeyAt_inj {tenantKey : String} {m n : Nat} {v v' : Int} :
    policyKeyAt tenantKey m v = policyKeyAt tenantKey n v' ↔ m = n ∧ v = v' := by
  unfold policyKeyAt
  rw [cacheKey_cons_left, cacheKey_cons_left,
    cacheKey_cons_inj (Lib.colon_notMem_natRepr _) (Lib.colon_notMem_natRepr _),
    cacheKey_single, cacheKey_single, Lib.toString_nat_inj, Lib.toString_int_inj]

/-- `RedisBackedPolicyCache._cache_key`. -/
def policyCacheKey (counters : String → Option Nat) (tenantKey : String) (policyVersion : Int) :
    String :=
  policyKeyAt tenantKey (policyNamespace counters tenantKey) policyVersion

/-- The payload of a policy document. -/
def encodePolicies (records : List PolicyRecord) : Value := encodeList PolicyRecord.toDict records

/-- `RedisBackedPolicyCache.get`. -/
def policyCacheGet (b : Backend) (tenantKey : String) (policyVersion : Int) :
    Except PyError (Option (List PolicyRecord)) :=
  decodeList PolicyRecord.fromDict (b.get (policyCacheKey b.counters tenantKey policyVersion))

/-- `RedisBackedPolicyCache.set`. -/
def policyCacheSet (b : Backend) (tenantKey : String) (policyVersion : Int)
    (records : List PolicyRecord) : Backend :=
  b.set (policyCacheKey b.counters tenantKey policyVersion) (encodePolicies records)

/-- `RedisBackedPolicyCache.invalidate`. -/
def policyCacheInvalidate (b : Backend) (tenantKey : String) : Backend :=
  b.incr (policyNamespaceKey tenantKey)

theorem policyCacheGet_of_doc {b : Backend} {tenantKey : String} {policyVersion : Int}
    {records : List PolicyRecord}
    (h : b.get (policyCacheKey b.counters tenantKey policyVersion) =
      some (encodePolicies records)) :
    policyCacheGet b tenantKey policyVersion = .ok (some records) := by
  rw [policyCacheGet, h]
  exact decodeList_encodeList PolicyRecord.fromDict_toDict records

theorem policyCacheGet_of_none {b : Backend} {tenantKey : String} {policyVersion : Int}
    (h : b.get (policyCacheKey b.counters tenantKey policyVersion) = none) :
    policyCacheGet b tenantKey policyVersion = .ok none := by
  rw [policyCacheGet, h, decodeList_none]

omit [PyRuntime] in
theorem hasKind_policyCacheKey (counters : String → Option Nat) (tenantKey : String)
    (policyVersion : Int) : HasKind "pol" (policyCacheKey counters tenantKey policyVersion) :=
  ⟨_, _, rfl⟩

/-! ## The decision cache -/

/-- A cached decision. -/
structure CachedDecision where
  allowed : Bool
  decision : String
  reason : Option String
  policyId : Option String
  matchedPolicies : List String := []
  explainTrace : List Dict := []
  failedConditions : List String := []

/-- `ExplainTraceStep.to_dict`. -/
def ExplainTraceStep.toDict (s : ExplainTraceStep) : Dict :=
  [("step", .str s.step), ("outcome", .str s.outcome), ("detail", .str s.detail),
    ("policy_id", .ofOption s.policyId)]

/-- `CachedDecision.from_decision`. -/
def CachedDecision.fromDecision (d : AuthorizationDecision) : CachedDecision where
  allowed := d.allowed
  decision := d.decision.text
  reason := d.reason
  policyId := d.policyId
  matchedPolicies := d.matchedPolicies
  explainTrace := d.explainTrace.map ExplainTraceStep.toDict
  failedConditions := d.failedConditions

/-- The payload of a decision document. -/
def CachedDecision.toDict (c : CachedDecision) : Dict :=
  [("allowed", .bool c.allowed), ("decision", .str c.decision), ("reason", .ofOption c.reason),
    ("policy_id", .ofOption c.policyId),
    ("matched_policies", .list (c.matchedPolicies.map .str)),
    ("explain_trace", .list (c.explainTrace.map .dict)),
    ("failed_conditions", .list (c.failedConditions.map .str))]

/-- The items a `for` loop visits: a text gives its characters, an object its keys. -/
def Value.iterate : Value → Except PyError (List Value)
  | .list items => .ok items
  | .str s => .ok (s.toList.map fun c => .str (String.singleton c))
  | .dict items => .ok (items.map fun item => .str item.1)
  | _ => .error (.typeError "object is not iterable")

/-- The decision a cached payload is read as. -/
def CachedDecision.fromDict (payload : Dict) : Except PyError CachedDecision := do
  let matchedPolicies ← (Dict.getD payload "matched_policies" (.list [])).iterate
  let explainTrace ← (Dict.getD payload "explain_trace" (.list [])).iterate
  let failedConditions ← (Dict.getD payload "failed_conditions" (.list [])).iterate
  .ok
    { allowed := (Dict.get payload "allowed").truthy
      decision := (Dict.getD payload "decision" (.str "deny")).text
      reason := (Dict.get payload "reason").optText
      policyId := (Dict.get payload "policy_id").optText
      matchedPolicies := strItems matchedPolicies
      explainTrace := dictItems explainTrace
      failedConditions := strItems failedConditions }

omit [PyRuntime] in
theorem dictItems_map_dict (items : List Dict) : dictItems (items.map .dict) = items := by
  induction items with
  | nil => rfl
  | cons item items ih => rw [List.map_cons, dictItems, ih]

theorem CachedDecision.fromDict_toDict (c : CachedDecision) :
    CachedDecision.fromDict c.toDict = .ok c := by
  obtain ⟨allowed, decision, reason, policyId, matched, trace, failed⟩ := c
  have hreason := Value.optText_ofOption reason
  have hpolicy := Value.optText_ofOption policyId
  simp [CachedDecision.fromDict, CachedDecision.toDict, Dict.get, Dict.getD, Value.iterate,
    Value.truthy, dictItems_map_dict, hreason, hpolicy]

/-- The counter of a tenant's decisions. -/
def decisionNamespaceKey (tenantKey : String) : String := cacheKey ["decns", tenantKey]

omit [PyRuntime] in
theorem hasKind_decisionNamespaceKey (tenantKey : String) :
    HasKind "decns" (decisionNamespaceKey tenantKey) := ⟨_, _, rfl⟩

/-- The namespace of a tenant's decisions. -/
def decisionNamespace (counters : String → Option Nat) (tenantKey : String) : Nat :=
  (counters (decisionNamespaceKey tenantKey)).getD 0

/-- A decision key under a namespace. -/
def decisionKeyAt (tenantKey : String) (ns : Nat) (policyVersion : Int) (digest : String) :
    String :=
  cacheKey ["dec", tenantKey, toString ns, toString policyVersion, digest]

omit [PyRuntime] in
/-- The keys of one tenant tell namespace, version and digest. -/
theorem decisionKeyAt_inj {tenantKey : String} {m n : Nat} {v v' : Int} {d d' : String} :
    decisionKeyAt tenantKey m v d = decisionKeyAt tenantKey n v' d' ↔ m = n ∧ v = v' ∧ d = d' := by
  unfold decisionKeyAt
  rw [cacheKey_cons_left, cacheKey_cons_left,
    cacheKey_cons_inj (Lib.colon_notMem_natRepr _) (Lib.colon_notMem_natRepr _),
    cacheKey_cons_inj (Lib.colon_notMem_intRepr _) (Lib.colon_notMem_intRepr _),
    cacheKey_single, cacheKey_single, Lib.toString_nat_inj, Lib.toString_int_inj]

/-- The payload a decision key digests. -/
def decisionPayload (tenantKey : String) (policyVersion revision : Int)
    (input : AuthorizationInput) : Value :=
  .dict [("tenant_key", .str tenantKey), ("policy_version", .int policyVersion),
    ("revision", .int revision), ("action", .str input.action), ("user", .dict input.user),
    ("resource", .dict input.resource), ("context", .dict input.context)]

/-- `RedisBackedDecisionCache.make_key`. -/
def decisionCacheKey (counters : String → Option Nat) (tenantKey : String)
    (policyVersion revision : Int) (input : AuthorizationInput) : String :=
  decisionKeyAt tenantKey (decisionNamespace counters tenantKey) policyVersion
    (PyRuntime.digest (decisionPayload tenantKey policyVersion revision input))

theorem hasKind_decisionCacheKey (counters : String → Option Nat) (tenantKey : String)
    (policyVersion revision : Int) (input : AuthorizationInput) :
    HasKind "dec" (decisionCacheKey counters tenantKey policyVersion revision input) :=
  ⟨_, _, rfl⟩

/-- `RedisBackedDecisionCache.get`. -/
def decisionCacheGet (b : Backend) (key : String) : Except PyError (Option CachedDecision) :=
  match b.get key with
  | none => .ok none
  | some (.dict payload) => do .ok (some (← CachedDecision.fromDict payload))
  | some _ => .error (.typeError "payload is not a dictionary")

/-- `RedisBackedDecisionCache.set`. -/
def decisionCacheSet (b : Backend) (key : String) (value : CachedDecision) : Backend :=
  b.set key (.dict value.toDict)

/-- `RedisBackedDecisionCache.bump_namespace`. -/
def decisionBumpNamespace (b : Backend) (tenantKey : String) : Backend :=
  b.incr (decisionNamespaceKey tenantKey)

end Adapters

end KeyNetra
