import KeyNetra.Services.Batch

/-!
# KeyNetra.Services.Isolation — what a request reads of the tables

A request reads the rows of its tenant, and the users, which no tenant owns. Two worlds that
differ in rows of other tenants only therefore answer it alike.

* `OthersDiffer` — the two worlds agree on the tenant's rows; `Agrees` — on what is read;
* `authorize_agrees` / `authorizeBatch_agrees` — the answers are the same.

The worlds start with the same caches; each answer leaves them the same again.
-/

namespace KeyNetra

section Isolation

variable [PyRuntime]

/-! ## Worlds that agree on a tenant -/

/-- The worlds differ in the policies, ACL entries, relationships and models of other
tenants at most. -/
structure OthersDiffer (tenantKey : String) (w w' : World) : Prop where
  tenants : w'.db.tenants = w.db.tenants
  users : w'.db.users = w.db.users
  backend : w'.backend = w.backend
  graph : w'.modelGraphs tenantKey = w.modelGraphs tenantKey
  acl : (w'.db.acl.rows.filter fun row => row.tenantId = (w.tenant tenantKey).id) =
    w.db.acl.rows.filter fun row => row.tenantId = (w.tenant tenantKey).id
  relationships :
    (w'.db.relationships.rows.filter fun row => row.tenantId = (w.tenant tenantKey).id) =
      w.db.relationships.rows.filter fun row => row.tenantId = (w.tenant tenantKey).id
  models : (w'.db.authModels.filter fun record => record.tenantId = (w.tenant tenantKey).id) =
    w.db.authModels.filter fun record => record.tenantId = (w.tenant tenantKey).id
  policies : (w'.db.policies.policies.filter fun p => p.tenantId = (w.tenant tenantKey).id) =
    w.db.policies.policies.filter fun p => p.tenantId = (w.tenant tenantKey).id
  versions : (w'.db.policies.versions.filter fun v => v.tenantId = (w.tenant tenantKey).id) =
    w.db.policies.versions.filter fun v => v.tenantId = (w.tenant tenantKey).id

/-- What a request of the tenant can read is the same in both worlds. -/
structure Agrees (tenantKey : String) (tenantId : Int) (w w' : World) : Prop where
  tenants : w'.db.tenants = w.db.tenants
  users : w'.db.users = w.db.users
  backend : w'.backend = w.backend
  graph : w'.modelGraphs tenantKey = w.modelGraphs tenantKey
  acl : ∀ l : Lookup, l.tenantId = tenantId →
    w'.db.acl.findMatchingAcl l = w.db.acl.findMatchingAcl l
  ofSubject : ∀ subjectType subjectId,
    w'.db.relationships.listForSubject tenantId subjectType subjectId =
      w.db.relationships.listForSubject tenantId subjectType subjectId
  ofObject : ∀ objectType objectId,
    w'.db.relationships.listForObject tenantId objectType objectId =
      w.db.relationships.listForObject tenantId objectType objectId
  model : getModel w'.db.authModels tenantId = getModel w.db.authModels tenantId
  policies : ∀ policySet, w'.db.policies.listCurrentPolicies tenantId policySet =
    w.db.policies.listCurrentPolicies tenantId policySet

variable {tenantKey : String} {tenantId : Int} {w w' : World}

/-! ## From rows to what is read -/

omit [PyRuntime] in
/-- A filter that keeps rows of one kind only reads the rows of that kind. -/
theorem filter_of_filter {α : Type} {p q : α → Bool} (h : ∀ a, p a = true → q a = true)
    {l l' : List α} (hl : l'.filter q = l.filter q) : l'.filter p = l.filter p := by
  have hread : ∀ m : List α, m.filter p = (m.filter q).filter p := by
    intro m
    rw [List.filter_filter]
    apply List.filter_congr
    intro a _
    rcases hp : p a with _ | _
    · rfl
    · rw [h a hp]
      rfl
  rw [hread l', hl, ← hread l]

omit [PyRuntime] in
/-- The current rows of a tenant are made of its policies and versions. -/
theorem currentPolicyRows_of_tenant {s s' : PolicyStore}
    (hpolicies : (s'.policies.filter fun p => p.tenantId = tenantId) =
      s.policies.filter fun p => p.tenantId = tenantId)
    (hversions : (s'.versions.filter fun v => v.tenantId = tenantId) =
      s.versions.filter fun v => v.tenantId = tenantId) (policySet : String) :
    s'.currentPolicyRows tenantId policySet = s.currentPolicyRows tenantId policySet := by
  -- only policies of the tenant are joined to a version
  have hrows : ∀ (state : String) (v : PolicyVersion),
      versionRows s'.policies tenantId state v = versionRows s.policies tenantId state v := by
    intro state v
    unfold versionRows
    congr 1
    apply filter_of_filter _ hpolicies
    intro p hp
    exact decide_eq_true (of_decide_eq_true hp).2.1
  -- and to none of another tenant
  have hnone : ∀ (state : String) (v : PolicyVersion), decide (v.tenantId = tenantId) = false →
      versionRows s.policies tenantId state v = [] := by
    intro state v hv
    unfold versionRows
    rw [List.map_eq_nil_iff, List.filter_eq_nil_iff]
    intro p _ hp
    exact of_decide_eq_false hv (of_decide_eq_true hp).2.2.1
  unfold PolicyStore.currentPolicyRows
  rw [filter_joined, filter_joined, funext (hrows (normalizedPolicySet policySet)),
    ← Lib.flatMap_filter_of_nil fun v _ => hnone (normalizedPolicySet policySet) v, hversions,
    Lib.flatMap_filter_of_nil fun v _ => hnone (normalizedPolicySet policySet) v]

omit [PyRuntime] in
/-- Worlds that agree on the tenant's rows agree on what is read. -/
theorem OthersDiffer.agrees (h : OthersDiffer tenantKey w w') :
    Agrees tenantKey (w.tenant tenantKey).id w w' where
  tenants := h.tenants
  users := h.users
  backend := h.backend
  graph := h.graph
  acl l hl := by
    unfold AclTable.findMatchingAcl
    rw [filter_of_filter _ h.acl]
    intro row hrow
    exact decide_eq_true ((of_decide_eq_true hrow).1.trans hl)
  ofSubject subjectType subjectId := by
    unfold RelationshipTable.listForSubject
    rw [filter_of_filter _ h.relationships]
    intro row hrow
    exact decide_eq_true (of_decide_eq_true hrow).1
  ofObject objectType objectId := by
    unfold RelationshipTable.listForObject
    rw [filter_of_filter _ h.relationships]
    intro row hrow
    exact decide_eq_true (of_decide_eq_true hrow).1
  model := by
    -- a model is found among the tenant's own
    have hfound : ∀ models : List AuthModelRecord, getModel models (w.tenant tenantKey).id =
        (models.filter fun record => record.tenantId = (w.tenant tenantKey).id).head? := by
      intro models
      unfold getModel
      rw [List.head?_filter]
    rw [hfound, hfound, h.models]
  policies policySet := by
    unfold PolicyStore.listCurrentPolicies
    rw [currentPolicyRows_of_tenant h.policies h.versions]

/-! ## The steps of a request -/

omit [PyRuntime] in
theorem Agrees.withBackend (h : Agrees tenantKey tenantId w w') (b : Backend) :
    Agrees tenantKey tenantId (w.withBackend b) (w'.withBackend b) :=
  { h with backend := rfl }

omit [PyRuntime] in
theorem Agrees.tenant (h : Agrees tenantKey tenantId w w') : w'.tenant tenantKey = w.tenant tenantKey := by
  unfold World.tenant
  rw [h.tenants]

omit [PyRuntime] in
theorem Agrees.ensureTenant (h : Agrees tenantKey tenantId w w') :
    Agrees tenantKey tenantId (w.ensureTenant tenantKey) (w'.ensureTenant tenantKey) :=
  { h with
    tenants := by
      show (w'.db.tenants.getOrCreate tenantKey).2 = (w.db.tenants.getOrCreate tenantKey).2
      rw [h.tenants] }

/-- Two results with the same answer, in worlds that agree. -/
def Alike {α : Type} (tenantKey : String) (tenantId : Int) (x x' : α × World) : Prop :=
  x'.1 = x.1 ∧ Agrees tenantKey tenantId x.2 x'.2

theorem hydrateUser_agrees (h : Agrees tenantKey tenantId w w') (user : Dict) :
    Alike tenantKey tenantId (hydrateUser w tenantId user) (hydrateUser w' tenantId user) := by
  unfold hydrateUser
  dsimp only
  split
  · exact ⟨rfl, h⟩
  · unfold userRelationships
    rw [h.users, h.backend]
    split
    · exact ⟨rfl, h⟩
    · dsimp only
      rw [h.ofSubject]
      exact ⟨rfl, h.withBackend _⟩

theorem permissionGraph_agrees (h : Agrees tenantKey tenantId w w') :
    match permissionGraph w tenantId tenantKey, permissionGraph w' tenantId tenantKey with
    | .error e, .error e' => e' = e
    | .ok x, .ok x' => Alike tenantKey tenantId x x'
    | _, _ => False := by
  unfold permissionGraph
  rw [h.graph, h.model]
  rcases w.modelGraphs tenantKey with _ | graph
  · dsimp only
    rcases getModel w.db.authModels tenantId with _ | record
    · exact ⟨rfl, h⟩
    · dsimp only
      rcases compileSchemaText record.schemaText with e | compiled
      · rfl
      · refine ⟨rfl, { h with graph := ?_ }⟩
        show (if tenantKey = tenantKey then _ else _) = if tenantKey = tenantKey then _ else _
        rw [if_pos rfl, if_pos rfl]
  · exact ⟨rfl, h⟩

/-- The index of a lookup is read off its ACL rows and relationship rows. -/
theorem buildResourceIndex_congr {acl acl' : AclTable} {relationships relationships' : RelationshipTable}
    {l : Lookup} (hacl : acl'.findMatchingAcl l = acl.findMatchingAcl l)
    (hrows : relationshipRows relationships' l = relationshipRows relationships l) (b : Backend)
    (memo : Memo) :
    buildResourceIndex acl' relationships' b memo l = buildResourceIndex acl relationships b memo l := by
  unfold buildResourceIndex rebuildResourceIndex
  rw [hacl, hrows]

theorem memoIndex_agrees (h : Agrees tenantKey tenantId w w') {l : Lookup} (hl : l.tenantId = tenantId)
    (memo : Memo) :
    (memoIndex w' memo l).1 = (memoIndex w memo l).1 ∧
      (memoIndex w' memo l).2.2 = (memoIndex w memo l).2.2 ∧
      Agrees tenantKey tenantId (memoIndex w memo l).2.1 (memoIndex w' memo l).2.1 := by
  have hrows : relationshipRows w'.db.relationships l = relationshipRows w.db.relationships l := by
    unfold relationshipRows
    rw [hl]
    exact h.ofObject _ _
  unfold memoIndex
  split
  · rw [buildResourceIndex_congr (h.acl l hl) hrows, h.backend]
    rcases buildResourceIndex w.db.acl w.db.relationships w.backend memo l with ⟨entries, b, memo'⟩
    exact ⟨rfl, rfl, h.withBackend b⟩
  · exact ⟨rfl, rfl, h⟩

/-- A fresh indexer and one with an empty memo read the same. -/
theorem requestIndex_eq (w : World) (l : Lookup) :
    requestIndex w l = ((memoIndex w (fun _ => none) l).1, (memoIndex w (fun _ => none) l).2.1) := by
  unfold requestIndex memoIndex
  split
  · rfl
  · rfl

theorem buildAuthorizationInput_agrees {request : AuthorizeRequest}
    (h : Agrees request.tenantKey tenantId w w') (user : Dict) :
    Alike request.tenantKey tenantId (buildAuthorizationInput w tenantId user request)
      (buildAuthorizationInput w' tenantId user request) := by
  have hgraph := permissionGraph_agrees h
  unfold buildAuthorizationInput
  rcases hg : permissionGraph w tenantId request.tenantKey with e | ⟨graph, v⟩
  · -- the graphs raise on both sides or on none
    rcases hg' : permissionGraph w' tenantId request.tenantKey with e' | ⟨graph', v'⟩
    · rw [hg, hg'] at hgraph
      exact ⟨congrArg Except.error hgraph, h⟩
    · rw [hg, hg'] at hgraph
      exact hgraph.elim
  · rcases hg' : permissionGraph w' tenantId request.tenantKey with e' | ⟨graph', v'⟩
    · rw [hg, hg'] at hgraph
      exact hgraph.elim
    · rw [hg, hg'] at hgraph
      rcases hgraph with ⟨hsame, hv⟩
      dsimp only at hsame hv ⊢
      -- the index is that of the tenant's rows
      have hindex := memoIndex_agrees hv (show (request.lookup tenantId).tenantId = tenantId from rfl)
        fun _ => none
      rw [hsame, requestIndex_eq, requestIndex_eq, hindex.1]
      rcases (memoIndex v (fun _ => none) (request.lookup tenantId)).1 with e | entries
      · exact ⟨rfl, hindex.2.2⟩
      · exact ⟨rfl, hindex.2.2⟩

theorem buildInput_agrees {request : AuthorizeRequest}
    (h : Agrees request.tenantKey (w.tenant request.tenantKey).id w w') :
    Alike request.tenantKey (w.tenant request.tenantKey).id (buildInput w request)
      (buildInput w' request) := by
  unfold buildInput
  rcases request.validate with e | ⟨⟩
  · exact ⟨rfl, h⟩
  · dsimp only
    rw [h.tenant]
    have huser := hydrateUser_agrees h.ensureTenant request.user
    rcases hw : hydrateUser (w.ensureTenant request.tenantKey) (w.tenant request.tenantKey).id
      request.user with ⟨user, v⟩
    rcases hw' : hydrateUser (w'.ensureTenant request.tenantKey) (w.tenant request.tenantKey).id
      request.user with ⟨user', v'⟩
    rw [hw, hw'] at huser
    rcases huser with ⟨hsame, hv⟩
    dsimp only at hsame hv ⊢
    rw [hsame]
    -- the user is the same, so the rest of the input is built alike
    have hinput := buildAuthorizationInput_agrees hv user
    rcases hr : buildAuthorizationInput v (w.tenant request.tenantKey).id user request with
      ⟨result, u⟩
    rcases hr' : buildAuthorizationInput v' (w.tenant request.tenantKey).id user request with
      ⟨result', u'⟩
    rw [hr, hr'] at hinput
    rcases hinput with ⟨hresult, hu⟩
    dsimp only at hresult hu ⊢
    rw [hresult]
    rcases result with e | input
    · exact ⟨rfl, hu⟩
    · exact ⟨rfl, hu⟩

theorem buildEngine_agrees (settings : Settings) {tenant : TenantRecord}
    (h : Agrees tenantKey tenant.id w w') (policySet : String) :
    Alike tenantKey tenant.id (buildEngine settings w tenant policySet)
      (buildEngine settings w' tenant policySet) := by
  unfold buildEngine cachedPolicies
  dsimp only
  rw [h.backend, h.policies]
  split
  · exact ⟨rfl, h⟩
  · refine ⟨rfl, ?_⟩
    dsimp only
    split
    · exact h.withBackend _
    · exact h

theorem decideInput_agrees (settings : Settings) {request : AuthorizeRequest} {tenant : TenantRecord}
    (h : Agrees request.tenantKey tenant.id w w') (input : AuthorizationInput) (key : Option String) :
    Alike request.tenantKey tenant.id (decideInput settings w request input tenant key)
      (decideInput settings w' request input tenant key) := by
  unfold decideInput
  have hengine := buildEngine_agrees settings h (policySetKey request.policySet)
  rcases hw : buildEngine settings w tenant (policySetKey request.policySet) with ⟨engine, v⟩
  rcases hw' : buildEngine settings w' tenant (policySetKey request.policySet) with ⟨engine', v'⟩
  rw [hw, hw'] at hengine
  rcases hengine with ⟨hsame, hv⟩
  dsimp only at hsame hv ⊢
  rw [hsame]
  generalize (engine >>= fun engine => engine.decide input) = decided
  rcases decided with e | decision
  · exact ⟨rfl, hv⟩
  · refine ⟨rfl, ?_⟩
    rcases key with _ | key
    · exact hv
    · dsimp only
      rw [hv.backend]
      exact hv.withBackend _

/-- A request is answered alike in worlds that agree on its tenant. -/
theorem authorize_agrees (settings : Settings) {request : AuthorizeRequest}
    (h : Agrees request.tenantKey (w.tenant request.tenantKey).id w w') :
    Alike request.tenantKey (w.tenant request.tenantKey).id (authorize settings w request)
      (authorize settings w' request) := by
  have hbuilt := buildInput_agrees h
  unfold authorize
  rcases hw : buildInput w request with ⟨result, v⟩
  rcases hw' : buildInput w' request with ⟨result', v'⟩
  rw [hw, hw'] at hbuilt
  rcases hbuilt with ⟨hsame, hv⟩
  dsimp only at hsame hv
  rw [hsame]
  rcases result with e | ⟨input, tenant⟩
  · exact ⟨rfl, hv⟩
  · -- the tenant of the built input is the one the worlds agree on
    have htenant : tenant = w.tenant request.tenantKey := by
      apply buildInput_tenant
      rw [hw]
    dsimp only
    rw [hv.backend]
    split
    · exact ⟨rfl, hv⟩
    · rw [← htenant] at hv ⊢
      exact decideInput_agrees settings hv input _

/-! ## The items of a batch -/

theorem buildItemInput_agrees (request : AuthorizeRequest)
    (h : Agrees request.tenantKey tenantId w w') (memo : Memo) (user : Dict) :
    (buildItemInput w' memo tenantId user request).1 =
        (buildItemInput w memo tenantId user request).1 ∧
      (buildItemInput w' memo tenantId user request).2.2 =
        (buildItemInput w memo tenantId user request).2.2 ∧
      Agrees request.tenantKey tenantId (buildItemInput w memo tenantId user request).2.1
        (buildItemInput w' memo tenantId user request).2.1 := by
  have hgraph := permissionGraph_agrees h
  unfold buildItemInput
  rcases hg : permissionGraph w tenantId request.tenantKey with e | ⟨graph, v⟩
  · rcases hg' : permissionGraph w' tenantId request.tenantKey with e' | ⟨graph', v'⟩
    · rw [hg, hg'] at hgraph
      exact ⟨congrArg Except.error hgraph, rfl, h⟩
    · rw [hg, hg'] at hgraph
      exact hgraph.elim
  · rcases hg' : permissionGraph w' tenantId request.tenantKey with e' | ⟨graph', v'⟩
    · rw [hg, hg'] at hgraph
      exact hgraph.elim
    · rw [hg, hg'] at hgraph
      rcases hgraph with ⟨hsame, hv⟩
      dsimp only at hsame hv ⊢
      -- the memo is the same in both, and learns the same
      have htenant : (request.lookup tenantId).tenantId = tenantId := rfl
      have hindex := memoIndex_agrees hv htenant memo
      rcases hm : memoIndex v memo (request.lookup tenantId) with ⟨result, u, read⟩
      rcases hm' : memoIndex v' memo (request.lookup tenantId) with ⟨result', u', read'⟩
      rw [hm, hm'] at hindex
      rcases hindex with ⟨hresult, hread, hu⟩
      dsimp only at hresult hread hu ⊢
      rw [hresult, hread, hsame]
      rcases result with e | entries
      · exact ⟨rfl, rfl, hu⟩
      · exact ⟨rfl, rfl, hu⟩

theorem decideItem_agrees {request : AuthorizeRequest} {tenant : TenantRecord}
    (h : Agrees request.tenantKey tenant.id w w') (engine : KeyNetraEngine)
    (input : AuthorizationInput) :
    Alike request.tenantKey tenant.id (decideItem engine tenant w request input)
      (decideItem engine tenant w' request input) := by
  unfold decideItem
  rw [h.backend]
  dsimp only
  split
  · exact ⟨rfl, h⟩
  · rcases engine.decide input with e | decision
    · exact ⟨rfl, h⟩
    · refine ⟨rfl, ?_⟩
      unfold World.storeDecisionAt
      rcases request.decisionKey? w.backend.counters tenant input with _ | key
      · exact h
      · dsimp only
        rw [h.backend]
        exact h.withBackend _

/-- Two states of a batch's loop that agree. -/
def BatchState.Agree (tenantKey : String) (tenantId : Int) (s s' : BatchState) : Prop :=
  Agrees tenantKey tenantId s.world s'.world ∧ s'.indexed = s.indexed ∧ s'.answered = s.answered

theorem answerItem_agrees (engine : KeyNetraEngine) {tenant : TenantRecord} (user : Dict)
    (batch : BatchRequest) {s s' : BatchState} (h : s.Agree batch.tenantKey tenant.id s')
    (item : BatchItem) :
    (answerItem engine tenant user batch s' item).1 = (answerItem engine tenant user batch s item).1 ∧
      (answerItem engine tenant user batch s item).2.Agree batch.tenantKey tenant.id
        (answerItem engine tenant user batch s' item).2 := by
  rcases h with ⟨hworld, hindexed, hanswered⟩
  unfold answerItem
  rcases validateResource item.resource with e | ⟨⟩
  · exact ⟨rfl, hworld, hindexed, hanswered⟩
  · unfold BatchState.answered?
    dsimp only
    rw [hindexed, hanswered]
    split
    · exact ⟨rfl, hworld, hindexed, hanswered⟩
    · -- not answered before: the calls of the item, one after the other
      have hinput := buildItemInput_agrees (batch.single item) hworld s.indexed user
      rcases hb : buildItemInput s.world s.indexed tenant.id user (batch.single item) with
        ⟨result, v, memo⟩
      rcases hb' : buildItemInput s'.world s.indexed tenant.id user (batch.single item) with
        ⟨result', v', memo'⟩
      rw [hb, hb'] at hinput
      rcases hinput with ⟨hresult, hmemo, hv⟩
      dsimp only at hresult hmemo hv ⊢
      rw [hresult, hmemo]
      rcases result with e | input
      · exact ⟨rfl, hv, rfl, rfl⟩
      · have hdecided := decideItem_agrees hv engine input
        rcases hd : decideItem engine tenant v (batch.single item) input with ⟨decided, u⟩
        rcases hd' : decideItem engine tenant v' (batch.single item) input with ⟨decided', u'⟩
        rw [hd, hd'] at hdecided
        rcases hdecided with ⟨hsame, hu⟩
        dsimp only at hsame hu ⊢
        rw [hd, hd', hsame]
        rcases decided with e | ⟨decision, cached⟩
        · exact ⟨rfl, hu, rfl, rfl⟩
        · exact ⟨rfl, hu, rfl, rfl⟩

/-- A batch is answered alike in worlds that agree on its tenant. -/
theorem authorizeBatch_agrees (settings : Settings) {batch : BatchRequest}
    (h : Agrees batch.tenantKey (w.tenant batch.tenantKey).id w w') :
    Alike batch.tenantKey (w.tenant batch.tenantKey).id (authorizeBatch settings w batch)
      (authorizeBatch settings w' batch) := by
  unfold authorizeBatch
  rcases validateUser batch.user with e | ⟨⟩
  · exact ⟨rfl, h⟩
  · dsimp only
    rw [h.tenant]
    -- user, engine, items: each stage leaves what is read of the worlds the same
    have huser := hydrateUser_agrees h.ensureTenant batch.user
    rcases hu : hydrateUser (w.ensureTenant batch.tenantKey) (w.tenant batch.tenantKey).id
      batch.user with ⟨user, v⟩
    rcases hu' : hydrateUser (w'.ensureTenant batch.tenantKey) (w.tenant batch.tenantKey).id
      batch.user with ⟨user', v'⟩
    rw [hu, hu'] at huser
    rcases huser with ⟨hsame, hv⟩
    dsimp only at hsame hv ⊢
    rw [hsame]
    have hengine := buildEngine_agrees settings hv (policySetKey batch.policySet)
    rcases he : buildEngine settings v (w.tenant batch.tenantKey) (policySetKey batch.policySet) with
      ⟨result, u⟩
    rcases he' : buildEngine settings v' (w.tenant batch.tenantKey) (policySetKey batch.policySet) with
      ⟨result', u'⟩
    rw [he, he'] at hengine
    rcases hengine with ⟨hresult, hu⟩
    dsimp only at hresult hu ⊢
    rw [hresult]
    rcases result with e | engine
    · dsimp only
      split
      · exact ⟨rfl, hu⟩
      · exact ⟨rfl, hu⟩
    · have hstart : (BatchState.mk u (fun _ => none) []).Agree batch.tenantKey
          (w.tenant batch.tenantKey).id ⟨u', fun _ => none, []⟩ := ⟨hu, rfl, rfl⟩
      have hstep : ∀ s s' item,
          BatchState.Agree batch.tenantKey (w.tenant batch.tenantKey).id s s' →
            (answerItem engine (w.tenant batch.tenantKey) user batch s' item).1 =
              (answerItem engine (w.tenant batch.tenantKey) user batch s item).1 ∧
            BatchState.Agree batch.tenantKey (w.tenant batch.tenantKey).id
              (answerItem engine (w.tenant batch.tenantKey) user batch s item).2
              (answerItem engine (w.tenant batch.tenantKey) user batch s' item).2 := by
        intro s s' item hs
        exact answerItem_agrees engine user batch hs item
      have hloop := Lib.thread_alike hstep hstart batch.items
      exact ⟨hloop.1, hloop.2.1⟩

end Isolation

end KeyNetra
