import KeyNetra.Services.ModelEnforcement
import KeyNetra.Services.Coherence
import KeyNetra.Engine.Subjects

/-!
# KeyNetra.Services.AclStage — the ACL stage, from the table to the engine

The rows of a resource and an action pass through the ACL cache, the access index and its cache,
and a copy with the row's id, before the engine takes the first that matches.

* `directOutcome` — the first matching row of the table, in the order of the ids;
* `evaluateAcl_rows` — what the engine makes of the index entries of rows;
* `acl_stage_direct` — the stage answers as the table does, on the first request and on one served
  from either cache, whatever the relationship rows.
-/

namespace KeyNetra

section AclStage

variable [PyRuntime]

/-! ## Direct evaluation of the table -/

/-- The effect of the row is one of the two, in any letter case. -/
def ACLRecord.Decides (row : ACLRecord) : Prop := pyLower row.effect ∈ ["allow", "deny"]

instance (row : ACLRecord) : Decidable row.Decides := by
  unfold ACLRecord.Decides
  infer_instance

/-- The outcome of a row that decides. -/
def ACLRecord.outcome (row : ACLRecord) : Outcome :=
  if pyLower row.effect = "allow" then .allow else .deny

/-- The row decides for a user with these descriptors. -/
def ACLRecord.decidesFor (subjects : List String) (row : ACLRecord) : Bool :=
  decide row.Decides && aclSubjectMatches row.subjectType row.subjectId subjects

omit [PyRuntime] in
theorem ACLRecord.decidesFor_iff {subjects : List String} {row : ACLRecord} :
    row.decidesFor subjects = true ↔
      (pyLower row.effect = "allow" ∨ pyLower row.effect = "deny") ∧
        aclSubjectMatches row.subjectType row.subjectId subjects = true := by
  simp [ACLRecord.decidesFor, ACLRecord.Decides]

/-- What a row found answers, and the policy id it answers with. -/
def rowOutcome : Option ACLRecord → Outcome × Option String
  | none => (.abstain, none)
  | some row => (row.outcome, some s!"acl:{row.id}")

/-- The answer of the first row that decides. -/
def directOutcome (subjects : List String) (rows : List ACLRecord) : Outcome × Option String :=
  rowOutcome (rows.find? (ACLRecord.decidesFor subjects))

/-- The rows of the table for a lookup, in ascending order of their ids. -/
structure InIdOrder (t : AclTable) (l : Lookup) (rows : List ACLRecord) : Prop where
  ascending : rows.Pairwise fun row row' => row.id < row'.id
  mem : ∀ row, row ∈ rows ↔ row ∈ t.rows ∧ row.Matches l

/-- The outcome of the stage, and its policy id. -/
def aclOutcome (input : AuthorizationInput) : Outcome × Option String :=
  let result := evaluateAcl input (subjectDescriptors input)
  (result.outcome, result.policyId)

omit [PyRuntime] in
/-- The repository lists them in this order. -/
theorem InIdOrder.eq {t : AclTable} {l : Lookup} {rows : List ACLRecord} (h : InIdOrder t l rows) :
    rows = t.findMatchingAcl l := by
  have hnodup : rows.Nodup := by
    apply h.ascending.imp
    intro row row' hless hsame
    rw [hsame] at hless
    exact lt_irrefl _ hless
  have hfound : (t.findMatchingAcl l).Nodup :=
    (Lib.perm_sortOn _ _).nodup_iff.mpr (t.ids.of_map.filter _)
  have hperm : rows.Perm (t.findMatchingAcl l) := by
    apply (List.perm_ext_iff_of_nodup hnodup hfound).mpr
    intro row
    rw [h.mem, AclTable.mem_findMatchingAcl]
  have hascending : rows.Pairwise fun row row' => row.id ≤ row'.id := h.ascending.imp le_of_lt
  refine List.Perm.eq_of_pairwise ?_ hascending (Lib.pairwise_sortOn _ _) hperm
  intro row row' hrow hrow' hle hge
  exact Lib.eq_of_key_eq t.ids ((h.mem row).mp hrow).1
    (AclTable.mem_findMatchingAcl.mp hrow').1 (le_antisymm hle hge)

/-! ## The engine on index entries -/

/-- An index entry of a row matches when the row's subject does. -/
theorem aclMatches_row (l : Lookup) (row : ACLRecord) (subjects : List String) :
    aclMatches (aclEntryDict (aclIndexEntry l row)) l.resourceType l.resourceId l.action subjects =
      aclSubjectMatches row.subjectType row.subjectId subjects := by
  have hresource : ¬ (l.resourceType ≠ l.resourceType ∨ l.resourceId ≠ l.resourceId) := by simp
  have haction : ¬ l.action ≠ l.action := by simp
  show (if l.resourceType ≠ l.resourceType ∨ l.resourceId ≠ l.resourceId then false
    else if l.action ≠ l.action then false
    else aclSubjectMatches row.subjectType row.subjectId subjects) = _
  rw [if_neg hresource, if_neg haction]

/-- The first entry that matches with one of the two effects answers; by induction on the rows. -/
theorem evaluateAclEntries_rows {input : AuthorizationInput} {l : Lookup}
    (haction : input.action = l.action) (subjects : List String) (rows : List ACLRecord)
    (matched : Bool) :
    ((evaluateAclEntries input l.resourceType l.resourceId subjects
        (rows.map fun row => aclEntryDict (aclIndexEntry l row)) matched).outcome,
      (evaluateAclEntries input l.resourceType l.resourceId subjects
        (rows.map fun row => aclEntryDict (aclIndexEntry l row)) matched).policyId) =
      directOutcome subjects rows := by
  induction rows generalizing matched with
  | nil => rfl
  | cons row rows ih =>
      have heffect : entryEffect (aclEntryDict (aclIndexEntry l row)) = pyLower row.effect := rfl
      rw [List.map_cons, evaluateAclEntries, haction, aclMatches_row]
      by_cases hsubject : aclSubjectMatches row.subjectType row.subjectId subjects = true
      · rw [if_pos hsubject, heffect]
        dsimp only
        split
        · rename_i hallow
          have hfound := ACLRecord.decidesFor_iff.mpr ⟨.inl hallow, hsubject⟩
          rw [directOutcome, List.find?_cons_of_pos hfound, rowOutcome, ACLRecord.outcome,
            if_pos hallow]
          rfl
        · rename_i hdeny
          have hnotAllow : pyLower row.effect ≠ "allow" := by
            rw [hdeny]
            decide
          have hfound := ACLRecord.decidesFor_iff.mpr ⟨.inr hdeny, hsubject⟩
          rw [directOutcome, List.find?_cons_of_pos hfound, rowOutcome, ACLRecord.outcome,
            if_neg hnotAllow]
          rfl
        · -- another effect: the entry is noted, and the next one is asked
          rename_i hallow hdeny
          have hnot : ¬ row.decidesFor subjects = true := by
            intro hfound
            exact (ACLRecord.decidesFor_iff.mp hfound).1.elim hallow hdeny
          rw [directOutcome, List.find?_cons_of_neg hnot]
          exact ih true
      · have hnot : ¬ row.decidesFor subjects = true := by
          intro hfound
          exact hsubject (ACLRecord.decidesFor_iff.mp hfound).2
        rw [if_neg hsubject, directOutcome, List.find?_cons_of_neg hnot]
        exact ih matched

/-- The entries the stage reads of an index are those of the rows: where there are none, the
index has none with an ACL source either. -/
theorem aclStageEntries_rows (request : AuthorizeRequest) (user : Dict)
    (graph : Option CompiledPermissionGraph) (l : Lookup) (rows : List ACLRecord)
    (relationshipRows : List RelationshipRecord) :
    aclStageEntries (request.input user graph (indexEntries l rows relationshipRows)) =
      rows.map fun row => aclEntryDict (aclIndexEntry l row) := by
  have hentries : (request.input user graph (indexEntries l rows relationshipRows)).aclEntries =
      rows.map fun row => aclEntryDict (aclIndexEntry l row) := by
    show (aclPart (indexEntries l rows relationshipRows)).map aclEntryDict = _
    rw [aclPart_indexEntries, List.map_map]
    rfl
  unfold aclStageEntries
  rw [hentries]
  split
  · -- no row, so the index has no entry of source `acl` either
    rename_i hempty
    rw [Bool.and_eq_true, List.isEmpty_iff, List.map_eq_nil_iff] at hempty
    rw [hempty.1, List.map_nil, List.filter_eq_nil_iff]
    intro item hitem
    have ⟨entry, hentry, hitem⟩ := List.mem_map.mp hitem
    have hrelationship : entry = relationshipIndexEntry l relationshipRows := by
      unfold indexEntries at hentry
      split at hentry
      · cases hentry
      · exact List.mem_singleton.mp hentry
    rw [← hitem, hrelationship]
    exact Bool.false_ne_true
  · rfl

/-- The stage on the input made of an index of these rows, and of any relationship rows. -/
theorem evaluateAcl_rows {request : AuthorizeRequest} {user : Dict}
    {graph : Option CompiledPermissionGraph} {tenantId : Int} (rows : List ACLRecord)
    (relationshipRows : List RelationshipRecord)
    (hidentified : (request.lookup tenantId).Identified) :
    aclOutcome (request.input user graph
        (indexEntries (request.lookup tenantId) rows relationshipRows)) =
      directOutcome (userDescriptors user) rows := by
  have hidentity : ¬ ((request.lookup tenantId).resourceType = "" ∨
      (request.lookup tenantId).resourceId = "") := not_or.mpr hidentified
  have hdirect := @evaluateAclEntries_rows _
    (request.input user graph (indexEntries (request.lookup tenantId) rows relationshipRows))
    (request.lookup tenantId) rfl (userDescriptors user) rows false
  rw [← aclStageEntries_rows request user graph (request.lookup tenantId) rows relationshipRows]
    at hdirect
  unfold aclOutcome evaluateAcl
  dsimp only
  have hif : ∀ result : StageResult, (if (request.lookup tenantId).resourceType = "" ∨
      (request.lookup tenantId).resourceId = "" then
        abstainStage "acl" "resource identity unavailable" else result) = result :=
    fun result => if_neg hidentity
  exact (congrArg (fun result : StageResult => (result.outcome, result.policyId)) (hif _)).trans
    hdirect

/-! ## Through the caches -/

/-- The world after a request, or that world once the document of its index has gone; the tables
may be others by then. -/
def Served (l : Lookup) (w w' : World) : Prop :=
  w'.backend = w.backend ∨ w'.backend = w.backend.delete (indexKey w.backend.counters l)

/-- The caches have these rows for a lookup: under the key of its index, or of its ACL rows. -/
def Holding (l : Lookup) (rows : List ACLRecord) (b : Backend) : Prop :=
  (∃ relationshipRows, b.get (indexKey b.counters l) =
    some (encodeIndex (indexEntries l rows relationshipRows))) ∨
  (b.get (indexKey b.counters l) = none ∧ b.get (aclKey b.counters l) = some (encodeAcl rows))

/-- The index of a lookup whose rows are in a cache. -/
theorem requestIndex_holding {w : World} {l : Lookup} {rows : List ACLRecord}
    (hidentified : l.Identified) (h : Holding l rows w.backend) :
    ∃ relationshipRows, (requestIndex w l).1 = .ok (indexEntries l rows relationshipRows) := by
  unfold requestIndex
  rw [if_pos hidentified]
  rcases h with ⟨relationshipRows, hindex⟩ | ⟨hindex, hrows⟩
  · rw [build_of_hit hindex]
    exact ⟨relationshipRows, rfl⟩
  · rw [build_of_rebuild hindex rfl (rebuild_of_hit hrows)]
    exact ⟨_, rfl⟩

/-- The index of a lookup from empty caches, which then have its rows. -/
theorem requestIndex_empty {w : World} {l : Lookup} (hidentified : l.Identified)
    (hempty : ∀ key, w.backend.get key = none) :
    (∃ relationshipRows, (requestIndex w l).1 =
      .ok (indexEntries l (w.db.acl.findMatchingAcl l) relationshipRows)) ∧
    ∀ w', Served l (requestIndex w l).2 w' → Holding l (w.db.acl.findMatchingAcl l) w'.backend := by
  -- a rebuild, which stores the rows and the entries
  have hindex : requestIndex w l =
      (.ok (indexEntries l (w.db.acl.findMatchingAcl l) (relationshipRows w.db.relationships l)),
        w.withBackend (indexCacheSet (aclCacheSet w.backend l (w.db.acl.findMatchingAcl l)) l
          (indexEntries l (w.db.acl.findMatchingAcl l)
            (relationshipRows w.db.relationships l)))) := by
    unfold requestIndex
    rw [if_pos hidentified, build_of_rebuild (hempty _) rfl (rebuild_of_miss (hempty _))]
  rw [hindex]
  refine ⟨⟨_, rfl⟩, ?_⟩
  rintro w' (hsame | hgone)
  · rw [hsame]
    refine .inl ⟨relationshipRows w.db.relationships l, ?_⟩
    rw [World.withBackend_backend, counters_indexCacheSet]
    exact get_indexCacheSet_self _ _ _
  · -- the entries have expired: the rows are still there
    rw [hgone]
    right
    rw [World.withBackend_backend, counters_indexCacheSet, Backend.counters_delete,
      counters_indexCacheSet, counters_aclCacheSet]
    refine ⟨Backend.get_delete_self _ _, ?_⟩
    have hkeys : aclKey w.backend.counters l ≠ indexKey w.backend.counters l :=
      aclKey_ne_indexKey _ _ _ _
    have hkept := get_indexCacheSet_ne (aclCacheSet w.backend l (w.db.acl.findMatchingAcl l))
      (indexEntries l (w.db.acl.findMatchingAcl l) (relationshipRows w.db.relationships l)) hkeys
    rw [Backend.get_delete_ne _ hkeys, hkept]
    exact get_aclCacheSet_self _ _ _

/-- The stage's answer where these rows are indexed, in terms of the world that the request leaves:
the input is not built only where the tenant's authorization model does not compile. -/
theorem buildAuthorizationInput_rows {w : World} {tenantId : Int} {request : AuthorizeRequest}
    (user : Dict) {rows : List ACLRecord} (hidentified : (request.lookup tenantId).Identified)
    (hindex : ∀ w', w'.backend = w.backend → w'.db = w.db → ∃ relationshipRows,
      (requestIndex w' (request.lookup tenantId)).1 =
        .ok (indexEntries (request.lookup tenantId) rows relationshipRows)) :
    (∀ e, (buildAuthorizationInput w tenantId user request).1 = .error e →
      permissionGraph w tenantId request.tenantKey = .error e) ∧
    ∀ input, (buildAuthorizationInput w tenantId user request).1 = .ok input →
      aclOutcome input = directOutcome (userDescriptors user) rows ∧
        ∃ w', w'.backend = w.backend ∧ w'.db = w.db ∧
          (buildAuthorizationInput w tenantId user request).2 =
            (requestIndex w' (request.lookup tenantId)).2 := by
  unfold buildAuthorizationInput
  rcases hgraph : permissionGraph w tenantId request.tenantKey with e | ⟨graph, w'⟩
  · constructor
    · rintro e' ⟨⟩
      rfl
    · rintro input ⟨⟩
  · -- the graph is looked up first, and leaves rows and caches alone
    have ⟨hdb, hbackend⟩ := permissionGraph_frame hgraph
    have ⟨relationshipRows, hrows⟩ := hindex w' hbackend hdb
    rcases hrequest : requestIndex w' (request.lookup tenantId) with ⟨result, w''⟩
    have hresult : result = .ok (indexEntries (request.lookup tenantId) rows relationshipRows) := by
      rw [hrequest] at hrows
      exact hrows
    rw [hresult] at hrequest
    dsimp only
    rw [hrequest]
    constructor
    · rintro e ⟨⟩
    · rintro input ⟨⟩
      refine ⟨evaluateAcl_rows rows relationshipRows hidentified, w', hbackend, hdb, ?_⟩
      rw [hrequest]

/-- From empty caches, the ACL stage answers as the rows of the table do; so does it for any later
request on the same resource and action that one of the two caches serves. -/
theorem acl_stage_direct {w : World} {tenantId : Int} {user : Dict} {request : AuthorizeRequest}
    {rows : List ACLRecord} (hempty : ∀ key, w.backend.get key = none)
    (hidentified : (request.lookup tenantId).Identified)
    (hrows : InIdOrder w.db.acl (request.lookup tenantId) rows) :
    (∀ e, (buildAuthorizationInput w tenantId user request).1 = .error e →
      permissionGraph w tenantId request.tenantKey = .error e) ∧
    ∀ input, (buildAuthorizationInput w tenantId user request).1 = .ok input →
      aclOutcome input = directOutcome (userDescriptors user) rows ∧
      ∀ later, Served (request.lookup tenantId)
          (buildAuthorizationInput w tenantId user request).2 later →
        ∀ user' request', request'.lookup tenantId = request.lookup tenantId →
          (∀ e, (buildAuthorizationInput later tenantId user' request').1 = .error e →
            permissionGraph later tenantId request'.tenantKey = .error e) ∧
          ∀ input', (buildAuthorizationInput later tenantId user' request').1 = .ok input' →
            aclOutcome input' = directOutcome (userDescriptors user') rows := by
  -- the first request builds the index from the rows and leaves it in the cache
  have hfirst : ∀ w', w'.backend = w.backend → w'.db = w.db →
      (∃ relationshipRows, (requestIndex w' (request.lookup tenantId)).1 =
        .ok (indexEntries (request.lookup tenantId) rows relationshipRows)) ∧
      ∀ later, Served (request.lookup tenantId)
        (requestIndex w' (request.lookup tenantId)).2 later →
          Holding (request.lookup tenantId) rows later.backend := by
    intro w' hbackend hdb
    have hempty' : ∀ key, w'.backend.get key = none := by
      rw [hbackend]
      exact hempty
    have hindex := requestIndex_empty hidentified hempty'
    rw [hdb, ← hrows.eq] at hindex
    exact hindex
  have ⟨herror, hok⟩ := buildAuthorizationInput_rows user hidentified
    fun w' hbackend hdb => (hfirst w' hbackend hdb).1
  refine ⟨herror, ?_⟩
  intro input hinput
  have ⟨hanswer, w', hbackend, hdb, hleft⟩ := hok input hinput
  refine ⟨hanswer, ?_⟩
  intro later hserved user' request' hlookup
  rw [hleft] at hserved
  have hholding := (hfirst w' hbackend hdb).2 later hserved
  -- @any later request of the resource reads it from there
  have hlater := @buildAuthorizationInput_rows _ later tenantId request' user' rows
    (hlookup ▸ hidentified) (by
      intro w'' hbackend' _
      rw [hlookup]
      exact requestIndex_holding hidentified (hbackend' ▸ hholding))
  exact ⟨hlater.1, fun input' hinput' => (hlater.2 input' hinput').1⟩

end AclStage

section Concrete

attribute [local instance] plainRuntime

attribute [local semireducible] cacheKey

/-- An ACL row for user 7 to read document 1. -/
def readRow (id : Int) (effect : String) : ACLRecord :=
  ⟨id, 1, "user", "7", "doc", "1", "read", effect, none⟩

/-- A world with these rows. -/
def aclWorld (rows : List ACLRecord) (h : (rows.map ACLRecord.id).Nodup) : World :=
  { blankWorld with db := { blankWorld.db with acl := ⟨rows, h⟩ } }

/-- A deny with id 2 is stored before an allow with id 1: the allow answers. -/
theorem lower_id_answers :
    (buildAuthorizationInput (aclWorld [readRow 2 "deny", readRow 1 "allow"] (by decide)) 1
      readDoc.user readDoc).1.map aclOutcome = .ok (.allow, some "acl:1") := by
  have hidentified : (readDoc.lookup 1).Identified := by decide +kernel
  have hrows : InIdOrder (aclWorld [readRow 2 "deny", readRow 1 "allow"] (by decide)).db.acl
      (readDoc.lookup 1) [readRow 1 "allow", readRow 2 "deny"] := by
    constructor
    · decide
    · -- in the order of the ids, the allow row comes first
      intro row
      constructor
      · intro hmem
        have hall : ∀ row ∈ [readRow 1 "allow", readRow 2 "deny"],
            row ∈ [readRow 2 "deny", readRow 1 "allow"] ∧ row.Matches (readDoc.lookup 1) := by
          decide +kernel
        exact hall row hmem
      · intro ⟨hmem, _⟩
        have hall : ∀ row ∈ [readRow 2 "deny", readRow 1 "allow"],
            row ∈ [readRow 1 "allow", readRow 2 "deny"] := by decide
        exact hall row hmem
  have ⟨input, hinput⟩ : ∃ input, (buildAuthorizationInput
      (aclWorld [readRow 2 "deny", readRow 1 "allow"] (by decide)) 1 readDoc.user readDoc).1 =
        .ok input := ⟨_, rfl⟩
  have hanswer := ((acl_stage_direct (fun _ => rfl) hidentified hrows).2 input hinput).1
  rw [hinput, Except.map, hanswer]
  decide +kernel

/-- A row whose effect is `ALLOW` is neither an allow nor a deny as it is written, and allows. -/
theorem upper_case_allows :
    ([readRow 1 "ALLOW"].find? fun row => decide (row.effect ∈ ["allow", "deny"]) &&
      aclSubjectMatches row.subjectType row.subjectId (userDescriptors readDoc.user)) = none ∧
    (buildAuthorizationInput (aclWorld [readRow 1 "ALLOW"] (by decide)) 1 readDoc.user
      readDoc).1.map aclOutcome = .ok (.allow, some "acl:1") := by
  constructor
  · decide +kernel
  · rfl

end Concrete

end KeyNetra
