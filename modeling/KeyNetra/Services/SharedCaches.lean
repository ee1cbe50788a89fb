import KeyNetra.Cache.Keys
import KeyNetra.Services.Truthful

/-!
# KeyNetra.Services.SharedCaches — requests of all tenants over the same caches

The caches are shared by all tenants. Over fixed tables, requests fill them with what the
tables say of any tenant; the decisions they store are those of the tables too, and are
found again by the requests with the same key.

* `SpelledAlike` — requests whose payloads have one canonical text are one request;
* `keyedOf` — the requests that are looked up under a decision key at all;
* `Serves` — the caches are truthful for all tenants and for all requests asked;
* `Serves.answer` / `Serves.authorize` — a request is answered as the tables say, and
  keeps the caches so;
* `warm_eq_cold` — after any earlier requests a request is answered as with empty caches;
* `Lossless` — each cache reads back what was stored.

A decision key tells the input up to the order of the members of its objects, and the
decision may depend on that order: `member_order_confused`.
-/

namespace KeyNetra

section SharedCaches

variable [PyRuntime]

/-! ## Filling the caches of all tenants -/

/-- The tables are the same, and the caches of every tenant are filled with what they say. -/
structure FilledAll (live : Set Lookup) (w w' : World) : Prop where
  db : w'.db = w.db
  filled : ∀ tenantKey, Filled live tenantKey w w'

variable {live : Set Lookup} {w w' w'' : World} {settings : Settings}
  {request : AuthorizeRequest}

theorem FilledAll.refl (h : ∀ tenantKey, Fresh live tenantKey w) : FilledAll live w w :=
  ⟨rfl, fun tenantKey => (h tenantKey).filled⟩

theorem FilledAll.trans (h : FilledAll live w w') (h' : FilledAll live w' w'') :
    FilledAll live w w'' :=
  ⟨h'.db.trans h.db, fun tenantKey => (h.filled tenantKey).trans (h'.filled tenantKey)⟩

theorem FilledAll.fresh (h : FilledAll live w w') (tenantKey : String) :
    Fresh live tenantKey w' := (h.filled tenantKey).fresh

theorem FilledAll.registered (h : FilledAll live w w') {tenantKey : String}
    (hregistered : w.Registered tenantKey) : w'.Registered tenantKey := by
  have htenant := (h.filled tenantKey).tables.tenant
  unfold World.Registered
  rw [htenant, h.db]
  exact hregistered

/-- Whatever subject and tenant they are of, stored relationships are those of the rows. -/
theorem userRelationships_filled (h : ∀ tenantKey, Fresh live tenantKey w) (tenantId : Int)
    (subjectId : String) : FilledAll live w (userRelationships w tenantId subjectId).2 := by
  unfold userRelationships
  split
  · exact .refl h
  · refine ⟨rfl, ?_⟩
    intro tenantKey
    have hkind := hasKind_relationshipKey tenantId "user" subjectId
    apply Fresh.filled_set hkind (by decide)
    apply (h tenantKey).set
    · intro l _ hkey
      exact absurd hkey ((hasKind_aclKey _ l).ne hkind (by decide))
    · intro l _ hkey
      exact absurd hkey ((hasKind_indexKey _ l).ne hkind (by decide))
    · intro s hkey
      rcases relationshipKey_user_inj.mp hkey with ⟨htenant, hsubject⟩
      rw [htenant, hsubject]
    · intro hkey
      exact absurd hkey ((hasKind_policyCacheKey _ _ _).ne hkind (by decide))

theorem hydrateUser_filled (h : ∀ tenantKey, Fresh live tenantKey w) (tenantId : Int)
    (user : Dict) : FilledAll live w (hydrateUser w tenantId user).2 := by
  unfold hydrateUser
  dsimp only
  split
  · exact .refl h
  · exact userRelationships_filled h _ _

/-- The graph that is stored for a tenant is the one its model compiles to. -/
theorem permissionGraph_filled (h : ∀ tenantKey, Fresh live tenantKey w) {tenantKey : String}
    {graph : Option CompiledPermissionGraph}
    (hgraph : permissionGraph w (w.tenant tenantKey).id tenantKey = .ok (graph, w')) :
    FilledAll live w w' := by
  unfold permissionGraph at hgraph
  cases hstored : w.modelGraphs tenantKey with
  | some stored =>
      rw [hstored] at hgraph
      cases hgraph
      exact .refl h
  | none =>
      cases hmodel : getModel w.db.authModels (w.tenant tenantKey).id with
      | none =>
          simp only [hstored, hmodel] at hgraph
          cases hgraph
          exact .refl h
      | some record =>
          simp only [hstored, hmodel] at hgraph
          rcases Lib.bind_eq_ok.mp hgraph with ⟨compiled, hcompiled, hworld⟩
          cases hworld
          refine ⟨rfl, ?_⟩
          intro other
          refine ⟨⟨⟨rfl, rfl, rfl, rfl, rfl, ?_⟩, rfl,
            ⟨(h other).acl, (h other).index, (h other).relationships, (h other).policies⟩⟩,
            fun _ _ => rfl⟩
          -- the graph stored is the one the model would be compiled to
          have hcold : w.storeGraph tenantKey = .ok (some ⟨tenantKey, compiled⟩) := by
            unfold World.storeGraph
            simp only [hstored, hmodel, hcompiled]
            rfl
          by_cases hother : other = tenantKey
          · rw [hother, hcold]
            unfold World.storeGraph
            dsimp only
            rw [if_pos rfl]
          · unfold World.storeGraph
            dsimp only
            rw [if_neg hother]
            rfl

theorem requestIndex_filled (h : ∀ tenantKey, Fresh live tenantKey w) (hdistinct : Distinct live)
    {l : Lookup} (hl : l ∈ live) : FilledAll live w (requestIndex w l).2 where
  db := (requestIndex_touches w l).db
  filled tenantKey := (requestIndex_spec (h tenantKey) hdistinct hl).2

theorem buildAuthorizationInput_filled (h : ∀ tenantKey, Fresh live tenantKey w)
    (hdistinct : Distinct live) (hl : w.lookup request ∈ live) (user : Dict) :
    FilledAll live w
      (buildAuthorizationInput w (w.tenant request.tenantKey).id user request).2 := by
  unfold buildAuthorizationInput
  cases hgraph : permissionGraph w (w.tenant request.tenantKey).id request.tenantKey with
  | error e => exact .refl h
  | ok result =>
      have hpermissions := permissionGraph_filled h hgraph
      have hindex := requestIndex_filled hpermissions.fresh hdistinct hl
      have hboth := hpermissions.trans hindex
      have hlookup : request.lookup (w.tenant request.tenantKey).id = w.lookup request := rfl
      dsimp only
      rw [hlookup]
      split
      · rename_i hresult
        rw [hresult] at hboth
        exact hboth
      · rename_i hresult
        rw [hresult] at hboth
        exact hboth

theorem buildInput_filled (h : ∀ tenantKey, Fresh live tenantKey w) (hdistinct : Distinct live)
    (hregistered : w.Registered request.tenantKey) (hl : w.lookup request ∈ live) :
    FilledAll live w (buildInput w request).2 := by
  unfold buildInput
  split
  · exact .refl h
  · rw [ensureTenant_of_registered hregistered]
    -- the user first, then graph and index
    have huser := hydrateUser_filled h (w.tenant request.tenantKey).id request.user
    have htables := (huser.filled request.tenantKey).tables
    have hlookup : (hydrateUser w (w.tenant request.tenantKey).id request.user).2.lookup request ∈
        live := by
      rw [htables.lookup]
      exact hl
    have hinput := buildAuthorizationInput_filled huser.fresh hdistinct hlookup
      (hydrateUser w (w.tenant request.tenantKey).id request.user).1
    rw [htables.tenant] at hinput
    have hboth := huser.trans hinput
    dsimp only
    split
    · rename_i hresult
      rw [hresult] at hboth
      exact hboth
    · rename_i hresult
      rw [hresult] at hboth
      exact hboth

/-- The policies that are stored are the current ones of the tenant they are stored for. -/
theorem buildEngine_filled (settings : Settings) (h : ∀ tenantKey, Fresh live tenantKey w)
    (tenantKey policySet : String) :
    FilledAll live w (buildEngine settings w (w.tenant tenantKey) policySet).2 := by
  refine ⟨(buildEngine_touches settings w (w.tenant tenantKey) policySet).db, ?_⟩
  intro other
  unfold buildEngine
  dsimp only
  split
  · exact (h other).filled
  · split
    · -- the policies are stored under a key of their own kind
      rename_i hstored
      rcases Bool.and_eq_true_iff.mp hstored with ⟨hrows, hactive⟩
      have hkind := hasKind_policyCacheKey w.backend.counters (w.tenant tenantKey).tenantKey
        (w.tenant tenantKey).policyVersion
      apply Fresh.filled_set hkind (by decide)
      apply (h other).set
      · intro l _ hkey
        exact absurd hkey ((hasKind_aclKey _ l).ne hkind (by decide))
      · intro l _ hkey
        exact absurd hkey ((hasKind_indexKey _ l).ne hkind (by decide))
      · intro s hkey
        exact absurd hkey ((hasKind_relationshipKey _ _ s).ne hkind (by decide))
      · intro hkey
        -- a policy key is of one tenant only
        have hsame : other = (w.tenant tenantKey).tenantKey := policyCacheKey_tenant hkey
        rw [tenant_tenantKey] at hsame
        have hlisted : w.storePolicies other "active" =
            w.db.policies.listCurrentPolicies (w.tenant tenantKey).id (policySetKey policySet) := by
          unfold World.storePolicies
          rw [hsame, of_decide_eq_true hactive, policySetKey_active]
        rw [hlisted]
        refine ⟨?_, rfl⟩
        intro hempty
        rw [hempty] at hrows
        cases hrows
    · exact (h other).filled

/-! ## Requests with one decision key -/

/-- What the requests look up. -/
def World.lookupsOf (w : World) (asked : Set AuthorizeRequest) : Set Lookup :=
  {l | ∃ request ∈ asked, l = w.lookup request}

/-- What the decision key of a request digests. -/
def World.payload (w : World) (request : AuthorizeRequest) (input : AuthorizationInput) : Value :=
  decisionPayload request.namespace (w.tenant request.tenantKey).policyVersion
    (request.revision.getD (w.tenant request.tenantKey).revision) input

/-- Requests whose payloads are equal up to the order of the members of their objects are
of one tenant, and their resolved user, resource and context are equal. -/
def SpelledAlike (w : World) (asked : Set AuthorizeRequest) : Prop :=
  ∀ r ∈ asked, ∀ r' ∈ asked, ∀ input input',
    w.storeInput r = .ok input → w.storeInput r' = .ok input' →
    SameJson (w.payload r input) (w.payload r' input') →
    r.tenantKey = r'.tenantKey ∧ input.user = input'.user ∧ input.resource = input'.resource ∧
      input.context = input'.context

/-- The requests that do not bypass the decision cache. -/
def keyedOf (asked : Set AuthorizeRequest) : Set AuthorizeRequest :=
  {r ∈ asked | ¬ r.FullyConsistent}

/-- The digest, a hexadecimal text, is that of no two payloads of the requests. -/
structure CollisionFree (w : World) (asked : Set AuthorizeRequest) : Prop where
  hexadecimal : ∀ v, ':' ∉ (PyRuntime.digest v).toList
  injective : ∀ r ∈ asked, ∀ r' ∈ asked, ∀ input input',
    w.storeInput r = .ok input → w.storeInput r' = .ok input' →
    PyRuntime.digest (w.payload r input) = PyRuntime.digest (w.payload r' input') →
    SameJson (w.payload r input) (w.payload r' input')

/-- A request with a decision key does not bypass the cache. -/
theorem mem_keyedOf {asked : Set AuthorizeRequest} (hr : request ∈ asked)
    {counters : String → Option Nat} {tenant : TenantRecord} {input : AuthorizationInput}
    {key : String} (hkey : request.decisionKey? counters tenant input = some key) :
    request ∈ keyedOf asked := by
  refine ⟨hr, ?_⟩
  intro hconsistent
  unfold AuthorizeRequest.decisionKey? at hkey
  rw [if_pos hconsistent] at hkey
  cases hkey

/-- A decision key, with its payload. -/
theorem decisionKey?_payload {counters : String → Option Nat} {input : AuthorizationInput}
    {key : String}
    (h : request.decisionKey? counters (w.tenant request.tenantKey) input = some key) :
    ∃ ns, key = decisionKeyAt request.namespace ns (w.tenant request.tenantKey).policyVersion
      (PyRuntime.digest (w.payload request input)) := by
  unfold AuthorizeRequest.decisionKey? cacheNamespace at h
  rw [tenant_tenantKey] at h
  split at h
  · cases h
  · exact ⟨_, (Option.some.inj h).symm⟩

omit [PyRuntime] in
/-- A name with a policy set behind it is longer. -/
theorem name_ne_qualified (name set : String) : name ≠ s!"{name}:{set}" := by
  intro heq
  have hlength := congrArg String.length heq
  simp only [String.length_append, toString] at hlength
  have hcolon : ":".length = 1 := rfl
  omega

omit [PyRuntime] in
theorem qualified_inj {name set other : String} (h : s!"{name}:{set}" = s!"{name}:{other}") :
    set = other := by
  have hlists := congrArg String.toList h
  have htails : (toString set).toList = (toString other).toList := by
    simpa [String.toList_append] using hlists
  exact String.toList_inj.mp htails

omit [PyRuntime] in
/-- The cache name of a tenant tells the policy set. -/
theorem policySet_of_namespace {r r' : AuthorizeRequest} (htenant : r.tenantKey = r'.tenantKey)
    (hname : r.namespace = r'.namespace) :
    policySetKey r.policySet = policySetKey r'.policySet := by
  unfold AuthorizeRequest.namespace at hname
  rw [htenant] at hname
  by_cases hactive : policySetKey r.policySet = "active"
  · rw [if_pos hactive] at hname
    by_cases hactive' : policySetKey r'.policySet = "active"
    · rw [hactive, hactive']
    · rw [if_neg hactive'] at hname
      exact absurd hname (name_ne_qualified _ _)
  · rw [if_neg hactive] at hname
    by_cases hactive' : policySetKey r'.policySet = "active"
    · rw [if_pos hactive'] at hname
      exact absurd hname.symm (name_ne_qualified _ _)
    · rw [if_neg hactive'] at hname
      exact qualified_inj hname

/-- The parts of a resolved input. -/
theorem storeInput_parts {input : AuthorizationInput} (h : w.storeInput request = .ok input) :
    ∃ graph, w.storeGraph request.tenantKey = .ok graph ∧
      input = request.input (w.storeUser request.tenantKey request.user) graph
        (w.storeIndex (w.lookup request)) := by
  rcases Lib.bind_eq_ok.mp h with ⟨⟨⟩, -, hrest⟩
  rcases Lib.bind_eq_ok.mp hrest with ⟨graph, hgraph, hinput⟩
  exact ⟨graph, hgraph, (Except.ok.inj hinput).symm⟩

/-- A payload is told by the request and the stored user. -/
theorem payload_of_storeInput {input : AuthorizationInput} (h : w.storeInput request = .ok input) :
    w.payload request input =
      w.payload request (request.input (w.storeUser request.tenantKey request.user) none []) := by
  rcases storeInput_parts h with ⟨graph, -, hparts⟩
  rw [hparts]
  rfl

/-- Requests whose payloads have one canonical text are evaluated alike. -/
theorem storeEvaluation_of_payload {asked : Set AuthorizeRequest}
    (hspelled : SpelledAlike w asked) {r r' : AuthorizeRequest} (hr : r ∈ asked) (hr' : r' ∈ asked)
    {input input' : AuthorizationInput} (hinput : w.storeInput r = .ok input)
    (hinput' : w.storeInput r' = .ok input')
    (hpayload : SameJson (w.payload r input) (w.payload r' input')) :
    w.storeEvaluation settings r input = w.storeEvaluation settings r' input' := by
  rcases hspelled r hr r' hr' input input' hinput hinput' hpayload with
    ⟨htenant, huser, hresource, hcontext⟩
  have htold := sameInput_of_payload hpayload
  have hsame := htold.2
  have hset := policySet_of_namespace htenant htold.1
  -- member by member, for the payload names them all
  have hall : input = input' := by
    rcases storeInput_parts hinput with ⟨graph, hgraph, hparts⟩
    rcases storeInput_parts hinput' with ⟨graph', hgraph', hparts'⟩
    have hgraphs : graph = graph' := by
      rw [htenant] at hgraph
      exact Except.ok.inj (hgraph.symm.trans hgraph')
    have haction : r.action = r'.action := by
      have hactions := hsame.action
      rw [hparts, hparts'] at hactions
      exact hactions
    have hresources : r.resource = r'.resource := by
      rw [hparts, hparts'] at hresource
      exact hresource
    have hcontexts : r.context = r'.context := by
      rw [hparts, hparts'] at hcontext
      exact hcontext
    have husers : w.storeUser r.tenantKey r.user = w.storeUser r'.tenantKey r'.user := by
      rw [hparts, hparts'] at huser
      exact huser
    have hlookup : w.lookup r = w.lookup r' := by
      unfold World.lookup AuthorizeRequest.lookup
      rw [htenant, hresources, haction]
    rw [hparts, hparts']
    unfold AuthorizeRequest.input
    rw [husers, hresources, haction, hcontexts, hgraphs, hlookup, htenant]
  unfold World.storeEvaluation
  rw [hall, htenant, hset]

/-- Requests with one decision key are evaluated alike. -/
theorem storeEvaluation_of_key {asked : Set AuthorizeRequest} (hdigest : CollisionFree w asked)
    (hspelled : SpelledAlike w (keyedOf asked)) {r r' : AuthorizeRequest} (hr : r ∈ asked)
    (hr' : r' ∈ asked) {input input' : AuthorizationInput} (hinput : w.storeInput r = .ok input)
    (hinput' : w.storeInput r' = .ok input') {counters : String → Option Nat} {key : String}
    (hkey : r.decisionKey? counters (w.tenant r.tenantKey) input = some key)
    (hkey' : r'.decisionKey? counters (w.tenant r'.tenantKey) input' = some key) :
    w.storeEvaluation settings r input = w.storeEvaluation settings r' input' := by
  rcases decisionKey?_payload hkey with ⟨ns, heq⟩
  rcases decisionKey?_payload hkey' with ⟨ns', heq'⟩
  have htold := decisionKeyAt_eq (hdigest.hexadecimal _) (hdigest.hexadecimal _)
    (heq.symm.trans heq')
  have hpayload := hdigest.injective r hr r' hr' input input' hinput hinput' htold.2.2
  exact storeEvaluation_of_payload hspelled (mem_keyedOf hr hkey) (mem_keyedOf hr' hkey') hinput
    hinput' hpayload

/-! ## Serving requests -/

/-- Over the tables of `w₀`, the caches are truthful for all tenants, and a decision found
by a request that is asked is what the policies evaluate to. -/
structure Serves (settings : Settings) (asked : Set AuthorizeRequest) (w₀ w : World) : Prop where
  db : w.db = w₀.db
  tables : ∀ tenantKey, SameTables tenantKey w₀ w
  counters : w.backend.counters = w₀.backend.counters
  fresh : ∀ tenantKey, Fresh (w₀.lookupsOf asked) tenantKey w
  decisions : ∀ r ∈ asked, ∀ input key, w₀.storeInput r = .ok input →
    r.decisionKey? w₀.backend.counters (w₀.tenant r.tenantKey) input = some key →
      ∀ cached, safeDecisionGet w.backend key = some cached →
        w₀.storeEvaluation settings r input = .ok (decisionFromCache cached)

/-- The world with empty caches. -/
def World.cold (w : World) : World := w.withBackend (.cold w.backend.counters)

variable {asked : Set AuthorizeRequest} {w₀ : World}

theorem serves_cold (settings : Settings) (asked : Set AuthorizeRequest) (w : World) :
    Serves settings asked w w.cold where
  db := rfl
  tables _ := .withBackend w _
  counters := rfl
  fresh _ := fresh_of_empty fun _ => rfl
  decisions _ _ _ _ _ _ cached hcached := by
    rw [safeDecisionGet_of_none rfl] at hcached
    cases hcached

/-- The decision of an evaluation. -/
theorem storeDecision_of_evaluation {input : AuthorizationInput} {decision : AuthorizationDecision}
    (hinput : w.storeInput request = .ok input)
    (hdecide : w.storeEvaluation settings request input = .ok decision) :
    w.storeDecision settings request = decision := by
  unfold World.storeDecision World.decideStored
  rw [hinput]
  dsimp only
  rw [hdecide]

/-- What the requests find is current. -/
theorem Serves.current (h : Serves settings asked w₀ w) (hr : request ∈ asked) :
    DecisionCurrent settings request w := by
  have htables := h.tables request.tenantKey
  intro input key hinput hkey cached hcached
  rw [htables.storeInput] at hinput
  rw [h.counters, htables.tenant] at hkey
  have hdecide := h.decisions request hr input key hinput hkey cached hcached
  rw [htables.storeDecision, storeDecision_of_evaluation hinput hdecide]

theorem Serves.registered (h : Serves settings asked w₀ w) {tenantKey : String}
    (hregistered : w₀.Registered tenantKey) : w.Registered tenantKey := by
  unfold World.Registered
  rw [(h.tables tenantKey).tenant, h.db]
  exact hregistered

theorem Serves.lookup (h : Serves settings asked w₀ w) (hr : request ∈ asked) :
    w.lookup request ∈ w₀.lookupsOf asked :=
  ⟨request, hr, (h.tables request.tenantKey).lookup⟩

/-- Filling other caches than that of the decisions. -/
theorem Serves.filled (h : Serves settings asked w₀ w)
    (hfilled : FilledAll (w₀.lookupsOf asked) w w') : Serves settings asked w₀ w' where
  db := hfilled.db.trans h.db
  tables tenantKey := (h.tables tenantKey).trans (hfilled.filled tenantKey).tables
  counters := (hfilled.filled "").counters.trans h.counters
  fresh := hfilled.fresh
  decisions r hr input key hinput hkey cached hcached := by
    apply h.decisions r hr input key hinput hkey cached
    unfold safeDecisionGet decisionCacheGet at hcached ⊢
    rwa [(hfilled.filled "").decisions key (hasKind_decisionKey? hkey)] at hcached

/-- Storing the decision that a request evaluates to. -/
theorem Serves.storeDecisionAt (h : Serves settings asked w₀ w)
    (hdigest : CollisionFree w₀ asked) (hspelled : SpelledAlike w₀ (keyedOf asked))
    (hr : request ∈ asked) {input : AuthorizationInput} (hinput : w₀.storeInput request = .ok input)
    {decision : AuthorizationDecision}
    (hdecide : w₀.storeEvaluation settings request input = .ok decision)
    (hconsistent : decision.Consistent) :
    Serves settings asked w₀ (w.storeDecisionAt (request.decisionKey? w₀.backend.counters
      (w₀.tenant request.tenantKey) input) decision) := by
  have hget := storeDecisionAt_get w (request.decisionKey? w₀.backend.counters
    (w₀.tenant request.tenantKey) input) decision
  cases hkey : request.decisionKey? w₀.backend.counters (w₀.tenant request.tenantKey) input with
  | none => exact h
  | some stored =>
      rw [hkey] at hget
      have hset : w.storeDecisionAt (some stored) decision =
          w.withBackend (decisionCacheSet w.backend stored (.fromDecision decision)) := rfl
      have hwarmed := fun tenantKey =>
        (h.fresh tenantKey).setDecision (hasKind_decisionKey? hkey) (.fromDecision decision)
      rw [hset] at hget ⊢
      constructor
      · -- the tables and the other caches are as they were
        exact h.db
      · intro tenantKey
        exact (h.tables tenantKey).trans (hwarmed tenantKey).tables
      · exact h.counters
      · intro tenantKey
        exact (hwarmed tenantKey).fresh
      · intro r hrasked input' key hinput' hkey' cached hcached
        rcases hget key with hkept | ⟨hsame, hdoc⟩
        · -- a document that was there before
          apply h.decisions r hrasked input' key hinput' hkey' cached
          unfold safeDecisionGet decisionCacheGet at hcached ⊢
          rwa [hkept] at hcached
        · -- the document just stored, found by a request with the same key
          rw [← Option.some.inj hsame] at hkey'
          rw [safeDecisionGet_of_doc hdoc] at hcached
          rw [← Option.some.inj hcached, decisionFromCache_fromDecision hconsistent, ← hdecide]
          exact storeEvaluation_of_key hdigest hspelled hrasked hr hinput' hinput hkey' hkey

/-- A request that is asked is answered as the tables say. -/
theorem Serves.answer (h : Serves settings asked w₀ w) (hdistinct : Distinct (w₀.lookupsOf asked))
    (hr : request ∈ asked) :
    (authorize settings w request).1.decision = w₀.storeDecision settings request := by
  rw [authorize_spec (h.fresh request.tenantKey) hdistinct (h.lookup hr) (h.current hr)]
  exact (h.tables request.tenantKey).storeDecision

/-- The engine of a request evaluates it as the tables say. -/
theorem Serves.engine (h : Serves settings asked w₀ w) (tenantKey policySet : String) :
    (buildEngine settings w (w.tenant tenantKey) policySet).1 =
      currentEngine settings (w₀.storePolicies tenantKey policySet) := by
  have htables := h.tables tenantKey
  rw [(buildEngine_spec settings (h.fresh tenantKey) policySet).1]
  unfold World.storePolicies
  rw [htables.policies, htables.tenant]

/-- A request that is asked leaves the caches truthful. -/
theorem Serves.authorize (h : Serves settings asked w₀ w)
    (hdistinct : Distinct (w₀.lookupsOf asked)) (hdigest : CollisionFree w₀ asked)
    (hspelled : SpelledAlike w₀ (keyedOf asked)) (hr : request ∈ asked)
    (hregistered : w₀.Registered request.tenantKey) :
    Serves settings asked w₀ (authorize settings w request).2 := by
  have htables := h.tables request.tenantKey
  have hregistered' := h.registered hregistered
  have hinput := h.filled (buildInput_filled h.fresh hdistinct hregistered' (h.lookup hr))
  -- only an evaluation stores anything, and it stores what the tables say
  rcases authorize_cases settings hregistered' with
    ⟨e, -, heq⟩ | ⟨input, hbuilt, ⟨key, cached, -, -, heq⟩ | ⟨-, heq⟩⟩
  · rw [heq]
    exact hinput
  · rw [heq]
    exact hinput
  · have hstored := storeInput_of_built (h.fresh request.tenantKey) hdistinct (h.lookup hr) hbuilt
    rw [htables.storeInput] at hstored
    have htenant : (buildInput w request).2.tenant request.tenantKey =
        w.tenant request.tenantKey :=
      (hinput.tables request.tenantKey).tenant.trans htables.tenant.symm
    have hevaluation := hinput.engine request.tenantKey (policySetKey request.policySet)
    have hengine := hinput.filled (buildEngine_filled settings hinput.fresh request.tenantKey
      (policySetKey request.policySet))
    rw [htenant] at hengine hevaluation
    rcases decideInput_cases settings (buildInput w request).2 request input
      (w.tenant request.tenantKey)
      (request.decisionKey? w.backend.counters (w.tenant request.tenantKey) input) with
      ⟨e, -, hdecided⟩ | ⟨decision, hdecide, hdecided⟩
    · rw [heq, hdecided]
      dsimp only
      exact hengine
    · have hstoreEvaluation : w₀.storeEvaluation settings request input = .ok decision := by
        rw [hevaluation] at hdecide
        exact hdecide
      rcases Lib.bind_eq_ok.mp hdecide with ⟨engine, -, hengineDecide⟩
      rw [heq, hdecided]
      dsimp only
      rw [h.counters, htables.tenant]
      rw [htables.tenant] at hengine
      exact hengine.storeDecisionAt hdigest hspelled hr hstored hstoreEvaluation
        (decide_consistent hengineDecide)

/-! ## Codecs -/

/-- Each cache reads back what was stored in it. -/
structure Lossless (b : Backend) : Prop where
  acl : ∀ l records, aclCacheGet (aclCacheSet b l records) l = .ok (some records)
  index : ∀ l entries, indexCacheGet (indexCacheSet b l entries) l = .ok (some entries)
  relationships : ∀ tenantId subjectType subjectId records,
    relationshipCacheGet (relationshipCacheSet b tenantId subjectType subjectId records) tenantId
      subjectType subjectId = .ok (some records)
  policies : ∀ tenantKey version records,
    policyCacheGet (policyCacheSet b tenantKey version records) tenantKey version =
      .ok (some records)
  decisions : ∀ key (decision : AuthorizationDecision), decision.Consistent →
    (safeDecisionGet (decisionCacheSet b key (.fromDecision decision)) key).map decisionFromCache =
      some decision

theorem lossless (b : Backend) : Lossless b where
  acl _ _ := aclCacheGet_of_doc (Backend.get_set_self _ _ _)
  index _ _ := indexCacheGet_of_doc (Backend.get_set_self _ _ _)
  relationships _ _ _ _ := relationshipCacheGet_of_doc (Backend.get_set_self _ _ _)
  policies _ _ _ := policyCacheGet_of_doc (Backend.get_set_self _ _ _)
  decisions key decision hconsistent := by
    have hdoc : (decisionCacheSet b key (.fromDecision decision)).get key =
        some (.dict (CachedDecision.fromDecision decision).toDict) := Backend.get_set_self _ _ _
    rw [safeDecisionGet_of_doc hdoc]
    exact congrArg some (decisionFromCache_fromDecision hconsistent)

/-- The requests of a run and the one behind it. -/
def askedIn (earlier : List AuthorizeRequest) (request : AuthorizeRequest) :
    Set AuthorizeRequest := {r | r ∈ request :: earlier}

/-- After any earlier requests of any tenants over the same tables, a request is decided as
with empty caches, and each cache reads back what was stored. No two lookups of the requests
share their cache keys, no two payloads share their digest, and of the requests that use the
decision cache, those with payloads equal up to the order of members are equal. -/
theorem warm_eq_cold (settings : Settings) (w : World) (earlier : List AuthorizeRequest)
    (request : AuthorizeRequest)
    (hregistered : ∀ r ∈ askedIn earlier request, w.Registered r.tenantKey)
    (hdistinct : Distinct (w.lookupsOf (askedIn earlier request)))
    (hdigest : CollisionFree w (askedIn earlier request))
    (hspelled : SpelledAlike w (keyedOf (askedIn earlier request))) :
    (authorize settings (Lib.run (fun v r => (authorize settings v r).2) w.cold earlier)
        request).1.decision = (authorize settings w.cold request).1.decision ∧
      ∀ b, Lossless b := by
  have hcold := serves_cold settings (askedIn earlier request) w
  have hasked : request ∈ askedIn earlier request := List.mem_cons_self
  have hearlier : ∀ r ∈ earlier, r ∈ askedIn earlier request :=
    fun r hr => List.mem_cons_of_mem _ hr
  have hwarm : Serves settings (askedIn earlier request) w
      (Lib.run (fun v r => (authorize settings v r).2) w.cold earlier) := by
    apply Lib.run_invariant _ hcold (Lib.along_of_forall hearlier)
    intro v r hv hr
    exact hv.authorize hdistinct hdigest hspelled hr (hregistered r hr)
  refine ⟨?_, lossless⟩
  rw [hwarm.answer hdistinct hasked, hcold.answer hdistinct hasked]

end SharedCaches

/-! ## Two spellings of a user -/

section Concrete

mutual

/-- `repr` of texts and containers. -/
def Value.written : Value → String
  | .str s => "\x27" ++ s ++ "\x27"
  | .list xs => "[" ++ ", ".intercalate (Value.writtenList xs) ++ "]"
  | .dict items => "\x7b" ++ ", ".intercalate (Value.writtenItems items) ++ "\x7d"
  | .int n => toString n
  | .bool b => if b then "True" else "False"
  | .null => "None"
  | .float _ => "0.0"

def Value.writtenList : List Value → List String
  | [] => []
  | x :: xs => x.written :: Value.writtenList xs

def Value.writtenItems : List (String × Value) → List String
  | [] => []
  | (k, x) :: xs => ("\x27" ++ k ++ "\x27: " ++ x.written) :: Value.writtenItems xs

end

mutual

/-- The bytes of the texts in a value. -/
def Value.textBytes : Value → Nat
  | .str s => s.utf8ByteSize
  | .list xs => Value.textBytesList xs
  | .dict items => Value.textBytesItems items
  | _ => 0

def Value.textBytesList : List Value → Nat
  | [] => 0
  | x :: xs => x.textBytes + Value.textBytesList xs

def Value.textBytesItems : List (String × Value) → Nat
  | [] => 0
  | (k, x) :: xs => k.utf8ByteSize + x.textBytes + Value.textBytesItems xs

end

/-- A runtime that writes containers out, with a digest that counts bytes: it does not
read the order of members, and tells the payloads below apart. -/
@[reducible] def writingRuntime : PyRuntime where
  repr := Value.written
  floatOfStr _ := none
  intOfStr := String.toInt?
  decimal c := if c.isDigit then some (c.toNat - '0'.toNat) else none
  digest v := toString v.textBytes

attribute [local instance] writingRuntime

attribute [local semireducible] cacheKey

/-- A user whose id is an object. -/
def objectUser (first second : String × Value) : Dict := [("id", .dict [first, second])]

/-- The user reads document 1. -/
def readAs (user : Dict) : AuthorizeRequest where
  tenantKey := "default"
  user := user
  action := "read"
  resource := [("type", .str "doc"), ("id", .str "1")]

/-- The request with the members of the id in one order, and in the other. -/
def readAB : AuthorizeRequest := readAs (objectUser ("a", .int 1) ("b", .int 2))

def readBA : AuthorizeRequest := readAs (objectUser ("b", .int 2) ("a", .int 1))

/-- Document 1 is shared with the user whose id is written in the first order. -/
def sharedWorld : World :=
  (createAclEntry blankWorld "default" ⟨"user", (Value.dict [("a", .int 1), ("b", .int 2)]).text,
    "doc", "1", "read", "allow", none⟩).2

/-- The request for the drafts. -/
def readDraftAB : AuthorizeRequest := { readAB with policySet := "draft" }

theorem writingRuntime_hexadecimal (v : Value) : ':' ∉ (PyRuntime.digest v).toList :=
  Lib.colon_notMem_natRepr _

/-- The payload of a request of the user, before it is resolved. -/
def sharedPayload (r : AuthorizeRequest) : Value :=
  sharedWorld.payload r (r.input (sharedWorld.storeUser r.tenantKey r.user) none [])

/-- A read, the same read of the drafts, and the read again. -/
theorem read_after_draft :
    (authorize plainSettings (Lib.run (fun v r => (authorize plainSettings v r).2)
        sharedWorld.cold [readAB, readDraftAB]) readAB).1.decision =
      (authorize plainSettings sharedWorld.cold readAB).1.decision ∧ ∀ b, Lossless b := by
  have hasked : ∀ r ∈ askedIn [readAB, readDraftAB] readAB, r = readAB ∨ r = readDraftAB := by
    intro r hr
    have hmem : r = readAB ∨ r = readAB ∨ r = readDraftAB := by simpa [askedIn] using hr
    tauto
  have hdigests : PyRuntime.digest (sharedPayload readAB) ≠
      PyRuntime.digest (sharedPayload readDraftAB) := by decide +kernel
  have hnames : readAB.namespace ≠ readDraftAB.namespace := by decide +kernel
  -- the two requests share the lookup, and their namespaces and digests differ
  apply warm_eq_cold
  · intro r hr
    rcases hasked r hr with rfl | rfl
    · exact registered_bumpRevision _ _
    · exact registered_bumpRevision _ _
  · rintro l ⟨r, hr, rfl⟩ l' ⟨r', hr', rfl⟩ _ _
    rcases hasked r hr with rfl | rfl
    · rcases hasked r' hr' with rfl | rfl
      · rfl
      · rfl
    · rcases hasked r' hr' with rfl | rfl
      · rfl
      · rfl
  · refine ⟨writingRuntime_hexadecimal, ?_⟩
    intro r hr r' hr' input input' hinput hinput' hdigest
    rw [payload_of_storeInput hinput, payload_of_storeInput hinput'] at hdigest ⊢
    rcases hasked r hr with rfl | rfl
    · rcases hasked r' hr' with rfl | rfl
      · exact .refl _
      · exact absurd hdigest hdigests
    · rcases hasked r' hr' with rfl | rfl
      · exact absurd hdigest.symm hdigests
      · exact .refl _
  · intro r hr r' hr' input input' hinput hinput' hpayload
    have hname := (sameInput_of_payload hpayload).1
    rcases storeInput_parts hinput with ⟨graph, -, rfl⟩
    rcases storeInput_parts hinput' with ⟨graph', -, rfl⟩
    rcases hasked r hr.1 with rfl | rfl
    · rcases hasked r' hr'.1 with rfl | rfl
      · exact ⟨rfl, rfl, rfl, rfl⟩
      · exact absurd hname hnames
    · rcases hasked r' hr'.1 with rfl | rfl
      · exact absurd hname.symm hnames
      · exact ⟨rfl, rfl, rfl, rfl⟩

/-- The id with its members in the other order is another user, with the same decision
key: the decision of the first is served. -/
theorem member_order_confused :
    (∀ r ∈ askedIn [readAB] readBA, sharedWorld.Registered r.tenantKey) ∧
      Distinct (sharedWorld.lookupsOf (askedIn [readAB] readBA)) ∧
      CollisionFree sharedWorld (askedIn [readAB] readBA) ∧
      (authorize plainSettings (Lib.run (fun v r => (authorize plainSettings v r).2)
        sharedWorld.cold [readAB]) readBA).1.decision.allowed = true ∧
      (authorize plainSettings sharedWorld.cold readBA).1.decision.allowed = false := by
  have hasked : ∀ r ∈ askedIn [readAB] readBA, r = readAB ∨ r = readBA := by
    intro r hr
    have hmem : r = readBA ∨ r = readAB := by simpa [askedIn] using hr
    exact hmem.symm
  -- the digest sorts the members, so the two requests share a key
  have hpayloads : SameJson (sharedPayload readAB) (sharedPayload readBA) :=
    Value.eq_of_same (by decide +kernel)
  have hdecisions : (authorize plainSettings (Lib.run (fun v r => (authorize plainSettings v r).2)
        sharedWorld.cold [readAB]) readBA).1.decision.allowed = true ∧
      (authorize plainSettings sharedWorld.cold readBA).1.decision.allowed = false := by
    decide +kernel
  refine ⟨?_, ?_, ⟨writingRuntime_hexadecimal, ?_⟩, hdecisions⟩
  · intro r hr
    rcases hasked r hr with rfl | rfl
    · exact registered_bumpRevision _ _
    · exact registered_bumpRevision _ _
  · rintro l ⟨r, hr, rfl⟩ l' ⟨r', hr', rfl⟩ _ _
    rcases hasked r hr with rfl | rfl
    · rcases hasked r' hr' with rfl | rfl
      · rfl
      · rfl
    · rcases hasked r' hr' with rfl | rfl
      · rfl
      · rfl
  · intro r hr r' hr' input input' hinput hinput' _
    rw [payload_of_storeInput hinput, payload_of_storeInput hinput']
    rcases hasked r hr with rfl | rfl
    · rcases hasked r' hr' with rfl | rfl
      · exact .refl _
      · exact hpayloads
    · rcases hasked r' hr' with rfl | rfl
      · exact hpayloads.symm
      · exact .refl _

end Concrete

end KeyNetra
