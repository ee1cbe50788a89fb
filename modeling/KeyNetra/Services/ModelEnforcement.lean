import KeyNetra.Services.Freshness

/-!
# KeyNetra.Services.ModelEnforcement — what the authorization model enforces

A tenant's stored schema defines permissions over relations. For a user without a
direct permission, a role permission or a matching ACL entry, two stages are left
before the policies: the relationship index, which grants every action on a
resource to the subjects of its relationship rows, and the permission graph.

* `rowLinks` — the reading of relation names the stored rows give;
* `IndexLinked` — a stored row of the resource names the user as its subject;
* `model_or_index_decides` — the request is allowed exactly when the user is so
  linked, or the permission's expression is true of the rows;
* `viewer_may_edit` — hence a viewer is allowed an action whose expression is false.

One lemma per stage; `verdict_dataStages` puts them together.
-/

namespace KeyNetra

section Enforcement

variable [PyRuntime]

/-! ## Grants that come before the model -/

/-- The action is among the user's direct permissions. -/
def HoldsDirectly (user : Dict) (action : String) : Prop :=
  ∃ permissions, Dict.getD user "direct_permissions" (Dict.getD user "permissions" (.list [])) =
    .list permissions ∧ (Value.str action).isIn permissions = true

/-- The action is among the permissions of the user's roles. -/
def HoldsByRole (user : Dict) (action : String) : Prop :=
  ∃ permissions, Dict.getD user "role_permissions" (.list []) = .list permissions ∧
    (Value.str action).isIn permissions = true

/-- The descriptors of a user. -/
def userDescriptors (user : Dict) : List String :=
  subjectDescriptors { user := user, resource := [], action := "" }

/-- The user has no direct permission, no role permission and no matching ACL row for
the request's action on its resource. -/
structure Unprivileged (w : World) (request : AuthorizeRequest) : Prop where
  direct : ¬ HoldsDirectly (w.storeUser request.tenantKey request.user) request.action
  role : ¬ HoldsByRole (w.storeUser request.tenantKey request.user) request.action
  acl : ∀ row ∈ w.db.acl.findMatchingAcl (w.lookup request),
    aclSubjectMatches row.subjectType row.subjectId
      (userDescriptors (w.storeUser request.tenantKey request.user)) = false

/-- A relationship row of the resource has one of the user's descriptors as subject. -/
def IndexLinked (w : World) (request : AuthorizeRequest) : Prop :=
  (w.lookup request).Identified ∧
    ∃ row ∈ relationshipRows w.db.relationships (w.lookup request),
      rowDescriptor row ∈ userDescriptors (w.storeUser request.tenantKey request.user)

/-- A relationship row links user `n` to the resource by the relation `name`. -/
def rowLinks (w : World) (tenantKey : String) (n : Int) (resource : Dict) (name : String) : Bool :=
  let (objectType, objectId) := CompiledPermissionGraph.resourceIdentity resource
  w.db.relationships.rows.any fun row =>
    row.tenantId = (w.tenant tenantKey).id ∧
      row.record = ⟨"user", toString n, name, objectType, objectId⟩

/-- The tenant's stored schema is accepted and defines the request's action as `e`. -/
structure Governed (w : World) (request : AuthorizeRequest) (schema : AuthorizationSchema)
    (model : CompiledAuthorizationModel) (e : Expr) : Prop where
  stored : ∃ record, getModel w.db.authModels (w.tenant request.tenantKey).id = some record ∧
    parseAuthorizationSchema record.schemaText = .ok schema
  accepted : compileAuthorizationSchema schema = .ok model
  permission : schema.permissions.get? request.action = some e
  graph : w.modelGraphs request.tenantKey = none ∨
    w.modelGraphs request.tenantKey = some ⟨request.tenantKey, model⟩

/-! ## The stages -/

variable {input : AuthorizationInput} {w : World} {request : AuthorizeRequest} {e : Expr}

omit [PyRuntime] in
theorem evaluateDirectPermissions_abstain (h : ¬ HoldsDirectly input.user input.action) :
    (evaluateDirectPermissions input).outcome = .abstain := by
  unfold evaluateDirectPermissions
  split
  · rename_i permissions hpermissions
    have hnot : ¬ (Value.str input.action).isIn permissions = true := by
      intro hin
      exact h ⟨permissions, hpermissions, hin⟩
    rw [if_neg hnot]
    rfl
  · rfl

omit [PyRuntime] in
theorem evaluateRolePermissions_abstain (h : ¬ HoldsByRole input.user input.action) :
    (evaluateRolePermissions input).outcome = .abstain := by
  unfold evaluateRolePermissions
  split
  · rename_i permissions hpermissions
    have hnot : ¬ (Value.str input.action).isIn permissions = true := by
      intro hin
      exact h ⟨permissions, hpermissions, hin⟩
    rw [if_neg hnot]
    rfl
  · rfl

/-- Entries none of which matches leave the ACL stage undecided. -/
theorem evaluateAclEntries_abstain {resourceType resourceId : String} {subjects : List String}
    {entries : List Dict} (h : ∀ entry ∈ entries,
      aclMatches entry resourceType resourceId input.action subjects = false) (matched : Bool) :
    (evaluateAclEntries input resourceType resourceId subjects entries matched).outcome =
      .abstain := by
  induction entries with
  | nil => rfl
  | cons entry entries ih =>
      have hentry := h entry List.mem_cons_self
      rw [evaluateAclEntries, hentry]
      exact ih fun other hother => h other (List.mem_cons_of_mem _ hother)

/-- An entry whose subject is not the user does not match. -/
theorem aclMatches_of_subject {entry : Dict} {resourceType resourceId action : String}
    {subjects : List String}
    (h : aclSubjectMatches (Dict.getD entry "subject_type" (.str "")).text
      (Dict.getD entry "subject_id" (.str "")).text subjects = false) :
    aclMatches entry resourceType resourceId action subjects = false := by
  unfold aclMatches
  split
  · rfl
  · split
    · rfl
    · exact h

/-- What the ACL stage reads of an index are its ACL-sourced entries. -/
theorem mem_aclStageEntries {user : Dict} {graph : Option CompiledPermissionGraph}
    {entries : List AccessIndexEntry} {item : Dict}
    (h : item ∈ aclStageEntries (request.input user graph entries)) :
    ∃ entry ∈ aclPart entries, item = entry.toDict ∨ item = aclEntryDict entry := by
  unfold aclStageEntries at h
  split at h
  · -- the request has no ACL entries of its own: those of the index are filtered
    rcases List.mem_filter.mp h with ⟨hmem, hsource⟩
    rcases List.mem_map.mp hmem with ⟨entry, hentry, rfl⟩
    have hacl : entry.source = "acl" := eq_of_beq hsource
    refine ⟨entry, ?_, Or.inl rfl⟩
    exact List.mem_filter.mpr ⟨hentry, decide_eq_true hacl⟩
  · rcases List.mem_map.mp h with ⟨entry, hentry, rfl⟩
    exact ⟨entry, hentry, Or.inr rfl⟩

/-- Rows whose subject is not the user leave the ACL stage undecided. -/
theorem evaluateAcl_abstain {user : Dict} {graph : Option CompiledPermissionGraph} {l : Lookup}
    {acls : List ACLRecord} {entries : List AccessIndexEntry} {subjects : List String}
    (hentries : aclPart entries = acls.map (aclIndexEntry l))
    (h : ∀ row ∈ acls, aclSubjectMatches row.subjectType row.subjectId subjects = false) :
    (evaluateAcl (request.input user graph entries) subjects).outcome = .abstain := by
  unfold evaluateAcl
  dsimp only
  split
  · rfl
  · apply evaluateAclEntries_abstain
    intro item hitem
    rcases mem_aclStageEntries hitem with ⟨entry, hentry, hform⟩
    rw [hentries] at hentry
    rcases List.mem_map.mp hentry with ⟨row, hrow, rfl⟩
    apply aclMatches_of_subject
    rcases hform with rfl | rfl
    · exact h row hrow
    · exact h row hrow

/-- The index entry of relationship rows matches a user who is one of their subjects. -/
theorem indexEntryMatches_relationship {l : Lookup} {rows : List RelationshipRecord}
    {subjects : List String} :
    indexEntryMatches (relationshipIndexEntry l rows).toDict l.resourceType l.resourceId l.action
        subjects = true ↔ ∃ row ∈ rows, rowDescriptor row ∈ subjects := by
  have hallowed : Dict.getD (relationshipIndexEntry l rows).toDict "allowed_subjects" (.list []) =
      .list ((sortedSet (rows.map rowDescriptor)).map .str) := rfl
  have hsource : (Dict.get (relationshipIndexEntry l rows).toDict "source").text = "relationship" :=
    rfl
  have htype : (Dict.get (relationshipIndexEntry l rows).toDict "resource_type").text =
      l.resourceType := rfl
  have hid : (Dict.get (relationshipIndexEntry l rows).toDict "resource_id").text =
      l.resourceId := rfl
  have haction : (Dict.get (relationshipIndexEntry l rows).toDict "action").text = l.action := rfl
  unfold indexEntryMatches
  rw [hallowed, hsource, htype, hid, haction]
  simp only [beq_self_eq_true, Bool.true_and, List.contains_cons, Bool.true_or, List.any_map,
    List.any_eq_true, mem_sortedSet, List.mem_map, Function.comp, Value.text_str,
    List.contains_iff_mem]
  constructor
  · rintro ⟨descriptor, ⟨row, hrow, rfl⟩, hsubject⟩
    exact ⟨row, hrow, hsubject⟩
  · rintro ⟨row, hrow, hsubject⟩
    exact ⟨_, ⟨row, hrow, rfl⟩, hsubject⟩

/-- An ACL-sourced entry never matches in the relationship stage. -/
theorem indexEntryMatches_acl (l : Lookup) (row : ACLRecord) (resourceType resourceId action : String)
    (subjects : List String) :
    indexEntryMatches (aclIndexEntry l row).toDict resourceType resourceId action subjects =
      false := by
  have hsource : (Dict.get (aclIndexEntry l row).toDict "source").text = "acl" := rfl
  unfold indexEntryMatches
  rw [hsource]
  rfl

/-- A stored index has a matching entry when a row of the resource has the user as
subject. -/
theorem any_indexEntries (l : Lookup) (acls : List ACLRecord) (rows : List RelationshipRecord)
    (subjects : List String) :
    ((indexEntries l acls rows).map AccessIndexEntry.toDict).any (fun entry =>
        indexEntryMatches entry l.resourceType l.resourceId l.action subjects) = true ↔
      ∃ row ∈ rows, rowDescriptor row ∈ subjects := by
  rw [List.any_map, List.any_eq_true]
  constructor
  · rintro ⟨entry, hentry, hmatch⟩
    rcases List.mem_append.mp hentry with hacl | hrelationship
    · -- an entry of an ACL row is none of a relationship
      rcases List.mem_map.mp hacl with ⟨row, -, rfl⟩
      rw [Function.comp, indexEntryMatches_acl] at hmatch
      cases hmatch
    · split at hrelationship
      · cases hrelationship
      · -- the one entry of the relationships lists the subjects of all rows
        rw [List.mem_singleton.mp hrelationship] at hmatch
        exact indexEntryMatches_relationship.mp hmatch
  · intro hsubject
    have hne : ¬ rows.isEmpty = true := by
      rcases hsubject with ⟨row, hrow, -⟩
      intro hempty
      rw [List.isEmpty_iff.mp hempty] at hrow
      cases hrow
    refine ⟨relationshipIndexEntry l rows, ?_, indexEntryMatches_relationship.mpr hsubject⟩
    apply List.mem_append_right
    rw [if_neg hne]
    exact List.mem_singleton.mpr rfl

/-- The relationship stage never denies. -/
theorem evaluateRelationshipIndex_ne_deny (input : AuthorizationInput) (subjects : List String) :
    (evaluateRelationshipIndex input subjects).outcome ≠ .deny := by
  unfold evaluateRelationshipIndex
  dsimp only
  split
  · intro h
    cases h
  · split
    · intro h
      cases h
    · intro h
      cases h

/-- The relationship stage allows exactly the subjects of the resource's rows. -/
theorem evaluateRelationshipIndex_allow_iff (user : Dict) (graph : Option CompiledPermissionGraph)
    (subjects : List String) :
    (evaluateRelationshipIndex (request.input user graph (w.storeIndex (w.lookup request)))
        subjects).outcome = .allow ↔
      (w.lookup request).Identified ∧
        ∃ row ∈ relationshipRows w.db.relationships (w.lookup request),
          rowDescriptor row ∈ subjects := by
  have hresource : KeyNetraEngine.resourceIdentity request.resource =
      ((w.lookup request).resourceType, (w.lookup request).resourceId) := rfl
  have haction : request.action = (w.lookup request).action := rfl
  unfold evaluateRelationshipIndex World.storeIndex World.storeEntries AuthorizeRequest.input
  dsimp only
  rw [hresource, haction]
  dsimp only
  by_cases hidentified : (w.lookup request).Identified
  · have hne : ¬ ((w.lookup request).resourceType = "" ∨ (w.lookup request).resourceId = "") := by
      rintro (htype | hid)
      · exact hidentified.1 htype
      · exact hidentified.2 hid
    -- only entries of relationships allow, and these are one for each row
    have hindex := any_indexEntries (w.lookup request)
      (w.db.acl.findMatchingAcl (w.lookup request))
      (relationshipRows w.db.relationships (w.lookup request)) subjects
    rw [if_neg hne, if_pos hidentified, ← hindex]
    split
    · rename_i hany
      simp [hidentified, hany]
    · rename_i hany
      simp [hany, abstainStage]
  · have hempty : (w.lookup request).resourceType = "" ∨ (w.lookup request).resourceId = "" := by
      unfold Lookup.Identified at hidentified
      tauto
    rw [if_pos hempty]
    simp [hidentified, abstainStage]

/-! ## The user's rows -/

omit [PyRuntime] in
/-- Hydration keeps the user's id. -/
theorem get_id_withDirectPermissions (user : Dict) :
    Dict.get (withDirectPermissions user) "id" = Dict.get user "id" := by
  unfold withDirectPermissions
  split
  · exact Dict.get_set_ne _ _ (by decide)
  · rfl

/-- The edges of a hydrated user are the stored rows. -/
theorem edges_storeUser {tenantKey : String} {user resource : Dict} {n : Int}
    (hid : Dict.get user "id" = .int n) (name : String) :
    edges (w.storeUser tenantKey user) resource name = rowLinks w tenantKey n resource name := by
  have huserId : (Dict.get (withDirectPermissions user) "id") = .int n :=
    (get_id_withDirectPermissions user).trans hid
  -- a user with an integer id is given its own rows
  have hrelations : Dict.getD (w.storeUser tenantKey user) "relations" (.list []) =
      .list ((w.db.relationships.listForSubject (w.tenant tenantKey).id "user"
        (toString n)).map fun record => .dict record.toDict) := by
    unfold World.storeUser
    dsimp only
    rw [huserId]
    simp [Value.int?, withRelations, Dict.getD]
  rw [Bool.eq_iff_iff, edges_iff]
  unfold HasEdge rowLinks
  simp only [List.any_eq_true, decide_eq_true_eq]
  constructor
  · rintro ⟨relations, edge, hlist, hmem, hname, htype, hobject⟩
    rw [hrelations] at hlist
    cases hlist
    rcases List.mem_map.mp hmem with ⟨record, hrecord, hedge⟩
    cases hedge
    rcases RelationshipTable.mem_listForSubject.mp hrecord with
      ⟨⟨row, hrow, htenant, rfl⟩, hsubject, hsubjectId⟩
    refine ⟨row, hrow, htenant, ?_⟩
    rw [← hsubject, ← hsubjectId, ← hname, ← htype, ← hobject]
    rfl
  · rintro ⟨row, hrow, htenant, hrecord⟩
    refine ⟨_, row.record.toDict, hrelations, ?_, ?_⟩
    · apply List.mem_map.mpr
      refine ⟨row.record, RelationshipTable.mem_listForSubject.mpr ?_, rfl⟩
      rw [hrecord]
      exact ⟨⟨row, hrow, htenant, hrecord⟩, rfl, rfl⟩
    · rw [hrecord]
      exact ⟨rfl, rfl, rfl⟩

/-! ## The decision -/

variable {schema : AuthorizationSchema} {model : CompiledAuthorizationModel}

/-- The request is given the graph of the stored schema. -/
theorem Governed.storeGraph (h : Governed w request schema model e) :
    w.storeGraph request.tenantKey = .ok (some ⟨request.tenantKey, model⟩) := by
  unfold World.storeGraph
  rcases h.graph with hnone | hsome
  · rcases h.stored with ⟨record, hrecord, hparse⟩
    have hcompile : compileSchemaText record.schemaText = .ok model := by
      unfold compileSchemaText
      rw [hparse, Lib.ok_bind, h.accepted]
    simp only [hnone, hrecord, hcompile, Lib.ok_bind]
  · simp only [hsome]

omit [PyRuntime] in
theorem graphStage_outcome (step abstained : String) (outcome : Outcome)
    (reason policyId : Option String) :
    (graphStage step abstained outcome reason policyId).outcome = outcome := by
  unfold graphStage
  split
  · rename_i habstain
    exact habstain.symm
  · rfl

/-- Without the other grants, the relationship index and then the graph decide. -/
theorem verdict_of_unprivileged
    (hdirect : (evaluateDirectPermissions input).outcome = .abstain)
    (hacl : (evaluateAcl input (subjectDescriptors input)).outcome = .abstain)
    (hrole : (evaluateRolePermissions input).outcome = .abstain) :
    verdict (dataStages input) =
      if (evaluateRelationshipIndex input (subjectDescriptors input)).outcome = .allow then .allow
      else (evaluatePermissionGraph input).outcome := by
  unfold dataStages
  dsimp only
  -- the three stages before the index abstain
  rw [verdict_of_abstain _ hdirect, verdict_of_abstain _ hacl, verdict_of_abstain _ hrole]
  have hdeny := evaluateRelationshipIndex_ne_deny input (subjectDescriptors input)
  cases hindex : (evaluateRelationshipIndex input (subjectDescriptors input)).outcome with
  | allow =>
      rw [verdict_of_decisive]
      · exact hindex
      · intro habstain
        rw [hindex] at habstain
        cases habstain
  | deny => exact absurd hindex hdeny
  | abstain =>
      rw [verdict_of_abstain _ hindex, if_neg (by decide)]
      -- the index abstains as well, so the graph is left
      by_cases hgraph : (evaluatePermissionGraph input).outcome = .abstain
      · rw [verdict_of_abstain _ hgraph]
        exact hgraph.symm
      · exact verdict_of_decisive _ hgraph

/-- The two stages that are left decide the request. -/
theorem verdict_dataStages (hprivileges : Unprivileged w request)
    (hgoverned : Governed w request schema model e) {n : Int}
    (hid : Dict.get request.user "id" = .int n)
    (htype : (CompiledPermissionGraph.resourceIdentity request.resource).1 ≠ "")
    (hinput : input = request.input (w.storeUser request.tenantKey request.user)
      (some ⟨request.tenantKey, model⟩) (w.storeIndex (w.lookup request))) :
    verdict (dataStages input) ≠ .abstain ∧
      (verdict (dataStages input) = .allow ↔ IndexLinked w request ∨
        e.toBoolExpr.eval (rowLinks w request.tenantKey n request.resource) = true) := by
  subst hinput
  -- the stages that have nothing to say
  have hentries : aclPart (w.storeIndex (w.lookup request)) =
      (if (w.lookup request).Identified then w.db.acl.findMatchingAcl (w.lookup request)
        else []).map (aclIndexEntry (w.lookup request)) := by
    unfold World.storeIndex
    split
    · exact aclPart_indexEntries _ _ _
    · rfl
  have hrows : ∀ row ∈ (if (w.lookup request).Identified then
      w.db.acl.findMatchingAcl (w.lookup request) else []),
      aclSubjectMatches row.subjectType row.subjectId
        (userDescriptors (w.storeUser request.tenantKey request.user)) = false := by
    intro row hrow
    split at hrow
    · exact hprivileges.acl row hrow
    · cases hrow
  -- the graph evaluates the permission over the user's rows
  have hedges : edges (w.storeUser request.tenantKey request.user) request.resource =
      rowLinks w request.tenantKey n request.resource := funext (edges_storeUser hid)
  have hgraph : (evaluatePermissionGraph (request.input
      (w.storeUser request.tenantKey request.user) (some ⟨request.tenantKey, model⟩)
      (w.storeIndex (w.lookup request)))).outcome =
        if e.toBoolExpr.eval (rowLinks w request.tenantKey n request.resource) then .allow
        else .deny := by
    rw [← hedges]
    exact (graphStage_outcome _ _ _ _ _).trans
      (evaluate_outcome request.tenantKey hgoverned.accepted hgoverned.permission rfl htype)
  have hindex : (evaluateRelationshipIndex (request.input
      (w.storeUser request.tenantKey request.user) (some ⟨request.tenantKey, model⟩)
      (w.storeIndex (w.lookup request))) (userDescriptors
        (w.storeUser request.tenantKey request.user))).outcome = .allow ↔
      IndexLinked w request := evaluateRelationshipIndex_allow_iff _ _ _
  have hsubjects : subjectDescriptors (request.input
      (w.storeUser request.tenantKey request.user) (some ⟨request.tenantKey, model⟩)
      (w.storeIndex (w.lookup request))) =
        userDescriptors (w.storeUser request.tenantKey request.user) := rfl
  rw [verdict_of_unprivileged (evaluateDirectPermissions_abstain hprivileges.direct)
    (evaluateAcl_abstain hentries hrows) (evaluateRolePermissions_abstain hprivileges.role), hgraph,
    hsubjects]
  by_cases hlinked : IndexLinked w request
  · have hallow := hindex.mpr hlinked
    rw [if_pos hallow]
    refine ⟨by decide, ?_⟩
    simp [hlinked]
  · have hnot := mt hindex.mp hlinked
    rw [if_neg hnot]
    cases e.toBoolExpr.eval (rowLinks w request.tenantKey n request.resource) <;> simp [hlinked]

/-- For a tenant with an accepted schema and a permission it defines, a resource with
a type, and a user with an integer id and no other grant: the request is allowed
exactly when a relationship row of the resource has one of the user's descriptors as
its subject, or the permission's expression is true of the rows that link the user to
the resource. -/
theorem model_or_index_decides (settings : Settings)
    (hvalid : request.validate = .ok ())
    (hfresh : Fresh {w.lookup request} request.tenantKey w)
    (hcurrent : DecisionCurrent settings request w)
    (hengine : ∃ engine, currentEngine settings
      (w.storePolicies request.tenantKey (policySetKey request.policySet)) = .ok engine)
    (hgoverned : Governed w request schema model e) {n : Int}
    (hid : Dict.get request.user "id" = .int n)
    (htype : (CompiledPermissionGraph.resourceIdentity request.resource).1 ≠ "")
    (hprivileges : Unprivileged w request) :
    (authorize settings w request).1.decision.allowed = true ↔ IndexLinked w request ∨
      e.toBoolExpr.eval (rowLinks w request.tenantKey n request.resource) = true := by
  -- with truthful caches the answer is what the tables say
  have hanswer := authorize_spec hfresh (distinct_singleton _) (Set.mem_singleton _) hcurrent
  have hinput : w.storeInput request = .ok (request.input
      (w.storeUser request.tenantKey request.user) (some ⟨request.tenantKey, model⟩)
      (w.storeIndex (w.lookup request))) := by
    unfold World.storeInput
    rw [hvalid, hgoverned.storeGraph]
    rfl
  -- and of these only the index and the model decide
  have hverdict := verdict_dataStages hprivileges hgoverned hid htype rfl
  rcases decide_of_decisive hverdict.1 with ⟨decision, hdecide, hallowed⟩
  have hdecision : w.storeDecision settings request = decision := by
    rcases hengine with ⟨engine, hengine⟩
    unfold World.storeDecision World.decideStored World.storeEvaluation
    rw [hinput, hengine]
    simp only [Lib.ok_bind, hdecide]
  rw [hanswer, hdecision, hallowed]
  exact hverdict.2

end Enforcement

/-! ## A concrete schema -/

section Concrete

attribute [local instance] plainRuntime

attribute [local semireducible] cacheKey

/-- Viewers view, editors edit. -/
def documentSchemaText : String :=
  "model schema 1\ntype user\ntype document\nrelations\nviewer: [user]\neditor: [user]\n" ++
    "permissions\nview = viewer\nedit = editor"

/-- The parsed schema. -/
def documentSchema : AuthorizationSchema where
  version := 1
  types := ["user", "document"]
  relations := [("viewer", ["user"]), ("editor", ["user"])]
  permissions := [("view", .identifier "viewer"), ("edit", .identifier "editor")]
  raw := documentSchemaText

theorem documentSchema_parsed :
    parseAuthorizationSchema documentSchemaText = .ok documentSchema := by
  decide +kernel

/-- The model it compiles to. -/
def documentModel : CompiledAuthorizationModel where
  version := 1
  types := documentSchema.types
  relations := documentSchema.relations
  permissions :=
    [("view", ⟨"view", .identifier "viewer"⟩), ("edit", ⟨"edit", .identifier "editor"⟩)]
  raw := documentSchemaText

/-- User 7 is a viewer of document 1, and nothing else is stored. -/
def viewerWorld : World where
  db :=
    { tenants := ⟨[⟨1, "default", 1, 1⟩], List.nodup_singleton _, List.nodup_singleton _⟩
      acl := ⟨[], List.nodup_nil⟩
      relationships :=
        { rows := [⟨1, 1, ⟨"user", "7", "viewer", "document", "1"⟩⟩]
          ids := List.nodup_singleton _
          tuples := List.nodup_singleton _ }
      users := []
      authModels := [⟨1, documentSchemaText⟩]
      policies := .empty }
  backend := .cold fun _ => none
  modelGraphs _ := none

/-- Fail closed, and no policies. -/
def noPolicySettings : Settings := ⟨"fail_closed", "static", .ok []⟩

/-- User 7 edits document 1. -/
def editDocument : AuthorizeRequest where
  tenantKey := "default"
  user := [("id", .int 7)]
  action := "edit"
  resource := [("type", .str "document"), ("id", .str "1")]
  consistency := "fully_consistent"

theorem editDocument_unprivileged : Unprivileged viewerWorld editDocument where
  direct := by
    rintro ⟨permissions, hlist, hin⟩
    have hnil : Value.list [] = .list permissions := hlist
    cases hnil
    cases hin
  role := by
    rintro ⟨permissions, hlist, hin⟩
    have hnil : Value.list [] = .list permissions := hlist
    cases hnil
    cases hin
  acl row hrow := by
    have hnone : viewerWorld.db.acl.findMatchingAcl (viewerWorld.lookup editDocument) = [] := rfl
    rw [hnone] at hrow
    cases hrow

theorem editDocument_governed :
    Governed viewerWorld editDocument documentSchema documentModel (.identifier "editor") where
  stored := ⟨⟨1, documentSchemaText⟩, by decide +kernel, documentSchema_parsed⟩
  accepted := by decide +kernel
  permission := by decide +kernel
  graph := Or.inl rfl

/-- The theorem for the viewer's edit. -/
theorem viewer_edit_decided :
    (authorize noPolicySettings viewerWorld editDocument).1.decision.allowed = true ↔
      IndexLinked viewerWorld editDocument ∨
        (Expr.identifier "editor").toBoolExpr.eval
          (rowLinks viewerWorld "default" 7 editDocument.resource) = true := by
  apply model_or_index_decides noPolicySettings
  · decide +kernel
  · exact fresh_of_empty fun _ => rfl
  · exact decisionCurrent_of_fullyConsistent (by decide +kernel)
  · exact ⟨⟨[], ⟨[]⟩⟩, rfl⟩
  · exact editDocument_governed
  · rfl
  · decide +kernel
  · exact editDocument_unprivileged

/-- A viewer is allowed to edit, though no row makes the user an editor. -/
theorem viewer_may_edit :
    compileSchemaText documentSchemaText = .ok documentModel ∧
      documentSchema.permissions.get? "edit" = some (.identifier "editor") ∧
      documentSchema.relations.contains "editor" = true ∧
      Unprivileged viewerWorld editDocument ∧
      ¬ ((authorize noPolicySettings viewerWorld editDocument).1.decision.allowed = true ↔
        (Expr.identifier "editor").toBoolExpr.eval
          (rowLinks viewerWorld "default" 7 editDocument.resource) = true) := by
  have hallowed :
      (authorize noPolicySettings viewerWorld editDocument).1.decision.allowed = true := by
    decide +kernel
  have heditor : (Expr.identifier "editor").toBoolExpr.eval
      (rowLinks viewerWorld "default" 7 editDocument.resource) = false := by
    decide +kernel
  refine ⟨by decide +kernel, by decide +kernel, by decide +kernel, editDocument_unprivileged, ?_⟩
  rw [hallowed, heditor]
  decide

end Concrete

end KeyNetra
