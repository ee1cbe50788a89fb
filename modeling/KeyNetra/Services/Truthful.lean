import KeyNetra.Services.StoppedWrites

/-!
# KeyNetra.Services.Truthful — one request, before and after a policy write

Caches are truthful for a request when what it can hit in them is what the tables say,
and nothing is stored for later policy versions. Empty caches are; the request itself and
every completed policy write keep them so. The answers before and after a write are then
both told by the rows.

* `decisionFromCache_fromDecision` — a stored decision is read back as it was;
* `Truthful` — `truthful_rested`, `Truthful.answered`, `Truthful.run`;
* `World.decisionOver` — the decision of a request over given rows;
* `authorize_around_write` — the answers before and after a write, over the rows before
  and after it.
-/

namespace KeyNetra

section Codec

variable [PyRuntime]

/-! ## The decision codec -/

/-- A decision of the engine allows exactly when it says so. -/
def AuthorizationDecision.Consistent (decision : AuthorizationDecision) : Prop :=
  decision.allowed = true → decision.decision = .allow

omit [PyRuntime] in
theorem runStages_consistent {stages : List Stage} {trace : List ExplainTraceStep}
    {decision : AuthorizationDecision} (h : runStages stages trace = .inl decision) :
    decision.Consistent := by
  induction stages generalizing trace with
  | nil => cases h
  | cons stage stages ih =>
      rw [runStages] at h
      split at h
      · intro hallowed
        rw [← Sum.inl.inj h] at hallowed ⊢
        have houtcome : stage.result.outcome = .allow := of_decide_eq_true hallowed
        exact if_pos houtcome
      · exact ih h

theorem decide_consistent {engine : KeyNetraEngine} {input : AuthorizationInput}
    {decision : AuthorizationDecision} (h : engine.decide input = .ok decision) :
    decision.Consistent := by
  unfold KeyNetraEngine.decide at h
  split at h
  · rename_i first hfirst
    rw [← Except.ok.inj h]
    exact runStages_consistent hfirst
  · rcases Lib.bind_eq_ok.mp h with ⟨result, -, hrest⟩
    split at hrest
    · rename_i last hlast
      rw [← Except.ok.inj hrest]
      exact runStages_consistent hlast
    · rw [← Except.ok.inj hrest]
      intro hallowed
      cases hallowed

/-- A trace step is read back as it was stored. -/
theorem cachedStep_toDict (step : ExplainTraceStep) : cachedStep step.toDict = step := by
  rcases step with ⟨name, outcome, detail, policyId⟩
  have hid := Value.optText_ofOption policyId
  simp [cachedStep, ExplainTraceStep.toDict, Dict.get, Dict.getD, hid]

/-- A stored decision is read back as it was. -/
theorem decisionFromCache_fromDecision {decision : AuthorizationDecision}
    (h : decision.Consistent) : decisionFromCache (.fromDecision decision) = decision := by
  have htrace : (decision.explainTrace.map ExplainTraceStep.toDict).map cachedStep =
      decision.explainTrace := by
    rw [List.map_map]
    apply (List.map_congr_left _).trans (List.map_id _)
    intro step _
    exact cachedStep_toDict step
  have heffect : (if decision.allowed then Effect.allow else .ofText decision.decision.text) =
      decision.decision := by
    split
    · rename_i hallowed
      exact (h hallowed).symm
    · exact Effect.ofText_text _
  unfold decisionFromCache CachedDecision.fromDecision
  dsimp only
  rw [htrace, heffect]

/-- A document of a stored decision is served as that decision. -/
theorem safeDecisionGet_of_doc {b : Backend} {key : String} {cached : CachedDecision}
    (h : b.get key = some (.dict cached.toDict)) : safeDecisionGet b key = some cached := by
  unfold safeDecisionGet decisionCacheGet
  rw [h]
  dsimp only
  rw [CachedDecision.fromDict_toDict]
  rfl

theorem safeDecisionGet_of_none {b : Backend} {key : String} (h : b.get key = none) :
    safeDecisionGet b key = none := by
  unfold safeDecisionGet decisionCacheGet
  rw [h]

end Codec

section Counters

/-! ## Counters of other caches -/

variable {b : Backend} {kind key : String}

/-- The key of a lookup moves with the counters of its own cache only. -/
theorem aclKey_incr (hkey : HasKind kind key)
    (hkind : kind ∈ documentKinds ++ counterKinds ∧ "aclns" ≠ kind) (l : Lookup) :
    aclKey (b.incr key).counters l = aclKey b.counters l := by
  have hresource := (hasKind_aclNamespaceKey l.tenantId l.resourceType l.resourceId).ne hkey
    ⟨by decide, hkind⟩
  have hglobal : aclGlobalKey ≠ key :=
    HasKind.ne ⟨_, _, rfl⟩ hkey ⟨by decide, hkind⟩
  unfold aclKey aclNamespace
  rw [Backend.counters_incr_ne _ hresource, Backend.counters_incr_ne _ hglobal]

theorem indexKey_incr (hkey : HasKind kind key)
    (hkind : kind ∈ documentKinds ++ counterKinds ∧ "idxns" ≠ kind) (l : Lookup) :
    indexKey (b.incr key).counters l = indexKey b.counters l := by
  have hresource := (hasKind_indexNamespaceKey l.tenantId l.resourceType l.resourceId).ne hkey
    ⟨by decide, hkind⟩
  have htenant := (hasKind_indexTenantKey l.tenantId).ne hkey ⟨by decide, hkind⟩
  have hglobal := hasKind_indexGlobalKey.ne hkey ⟨by decide, hkind⟩
  unfold indexKey indexNamespace
  rw [Backend.counters_incr_ne _ hresource, Backend.counters_incr_ne _ htenant,
    Backend.counters_incr_ne _ hglobal]

end Counters

section Truthful

variable [PyRuntime]

/-! ## Truthful caches -/

/-- The names the decisions of a request are cached under. -/
def AuthorizeRequest.namespace (request : AuthorizeRequest) : String :=
  if policySetKey request.policySet = "active" then request.tenantKey
  else s!"{request.tenantKey}:{policySetKey request.policySet}"

/-- What a request can hit in the caches is what the tables say, and nothing is stored
for later policy versions. -/
structure Truthful (settings : Settings) (request : AuthorizeRequest) (w : World) : Prop where
  registered : w.Registered request.tenantKey
  fresh : Fresh {w.lookup request} request.tenantKey w
  decisions : DecisionCurrent settings request w
  policiesAhead : ∀ ns v, (w.tenant request.tenantKey).policyVersion < v →
    w.backend.get (policyKeyAt request.tenantKey ns v) = none
  decisionsAhead : ∀ ns v digest, (w.tenant request.tenantKey).policyVersion < v →
    w.backend.get (decisionKeyAt request.namespace ns v digest) = none

variable {settings : Settings} {request : AuthorizeRequest} {w : World}

/-- Empty caches are truthful for every request of the tenant. -/
theorem truthful_rested (settings : Settings) (request : AuthorizeRequest) (w : World) :
    Truthful settings request (w.rested request.tenantKey) where
  registered := registered_ensureTenant _ _
  fresh := fresh_of_empty fun _ => rfl
  decisions input key _ _ cached hcached := by
    rw [safeDecisionGet_of_none rfl] at hcached
    cases hcached
  policiesAhead _ _ _ := rfl
  decisionsAhead _ _ _ _ := rfl

/-- A request is answered as the tables say. -/
theorem Truthful.answer (h : Truthful settings request w) :
    (authorize settings w request).1.decision = w.storeDecision settings request :=
  authorize_spec h.fresh (distinct_singleton _) (Set.mem_singleton _) h.decisions

/-- The decision key of a request. -/
theorem decisionKey?_eq {counters : String → Option Nat} {input : AuthorizationInput} {key : String}
    (h : request.decisionKey? counters (w.tenant request.tenantKey) input = some key) :
    ∃ ns digest, key = decisionKeyAt request.namespace ns
      (w.tenant request.tenantKey).policyVersion digest := by
  unfold AuthorizeRequest.decisionKey? cacheNamespace at h
  rw [tenant_tenantKey] at h
  split at h
  · cases h
  · exact ⟨_, _, (Option.some.inj h).symm⟩

/-- The input a request is resolved to is that of the tables. -/
theorem storeInput_of_built {live : Set Lookup} (h : Fresh live request.tenantKey w)
    (hdistinct : Distinct live) (hl : w.lookup request ∈ live) {input : AuthorizationInput}
    {tenant : TenantRecord} (hbuilt : (buildInput w request).1 = .ok (input, tenant)) :
    w.storeInput request = .ok input := by
  have hspec := (buildInput_spec h hdistinct hl).1
  rw [hbuilt] at hspec
  cases hstore : w.storeInput request with
  | error e =>
      rw [hstore] at hspec
      cases hspec
  | ok stored =>
      rw [hstore] at hspec
      have hpair := Except.ok.inj hspec
      rw [(Prod.mk.inj hpair).1]

/-- Answering a request keeps the caches truthful for it. -/
theorem Truthful.answered (h : Truthful settings request w) :
    Truthful settings request (authorize settings w request).2 := by
  have hdistinct := distinct_singleton (w.lookup request)
  have hmem : w.lookup request ∈ ({w.lookup request} : Set Lookup) := Set.mem_singleton _
  have hwarmed := authorize_warmed settings h.fresh hdistinct hmem
  have htenant := hwarmed.tables.tenant
  have htouches := authorize_touches settings h.registered
  constructor
  · exact htouches.registered h.registered
  · rw [hwarmed.tables.lookup]
    exact hwarmed.fresh
  · -- the decision of its key is the one it had, or the one just given
    intro input key hinput hkey cached hcached
    rw [hwarmed.tables.storeInput] at hinput
    rw [hwarmed.counters, htenant] at hkey
    rw [hwarmed.tables.storeDecision]
    rcases authorize_decisions settings h.registered (hasKind_decisionKey? hkey) with
      hsame | ⟨input', -, -, hdecide, hdoc⟩
    · have hbefore : safeDecisionGet w.backend key = some cached := by
        unfold safeDecisionGet decisionCacheGet at hcached ⊢
        rwa [hsame] at hcached
      exact h.decisions input key hinput hkey cached hbefore
    · rw [safeDecisionGet_of_doc hdoc] at hcached
      rcases Lib.bind_eq_ok.mp hdecide with ⟨engine, -, hengine⟩
      rw [← Option.some.inj hcached, decisionFromCache_fromDecision (decide_consistent hengine)]
      exact h.answer
  · intro ns v hv
    rw [htenant] at hv
    have hkind : HasKind "pol" (policyKeyAt request.tenantKey ns v) := ⟨_, _, rfl⟩
    rcases authorize_policies settings h.registered hkind with hsame | ⟨hkey, -⟩
    · exact hsame.trans (h.policiesAhead ns v hv)
    · have hversion : v = (w.tenant request.tenantKey).policyVersion := (policyKeyAt_inj.mp hkey).2
      omega
  · intro ns v digest hv
    rw [htenant] at hv
    have hkind : HasKind "dec" (decisionKeyAt request.namespace ns v digest) := ⟨_, _, rfl⟩
    rcases authorize_decisions settings h.registered hkind with hsame | ⟨input, -, hkey, -⟩
    · exact hsame.trans (h.decisionsAhead ns v digest hv)
    · rcases decisionKey?_eq hkey with ⟨ns', digest', heq⟩
      have hversion : v = (w.tenant request.tenantKey).policyVersion :=
        (decisionKeyAt_inj.mp heq).2.1
      omega

/-- Resolving a request keeps the caches truthful for it. -/
theorem Truthful.built (h : Truthful settings request w) :
    Truthful settings request (buildInput w request).2 := by
  have hfilled := (buildInput_spec h.fresh (distinct_singleton _) (Set.mem_singleton _)).2
  have htouches : Touches inputKinds w (buildInput w request).2 := buildInput_touches h.registered
  constructor
  · exact htouches.registered h.registered
  · rw [hfilled.tables.lookup]
    exact hfilled.fresh
  · -- decisions: building the input stores none
    intro input key hinput hkey cached hcached
    rw [hfilled.tables.storeInput] at hinput
    rw [hfilled.counters, hfilled.tables.tenant] at hkey
    rw [hfilled.tables.storeDecision]
    have hsame := hfilled.decisions key (hasKind_decisionKey? hkey)
    have hbefore : safeDecisionGet w.backend key = some cached := by
      unfold safeDecisionGet decisionCacheGet at hcached ⊢
      rwa [hsame] at hcached
    exact h.decisions input key hinput hkey cached hbefore
  · -- policies ahead: nor any policies
    intro ns v hv
    rw [hfilled.tables.tenant] at hv
    have hkind : HasKind "pol" (policyKeyAt request.tenantKey ns v) := ⟨_, _, rfl⟩
    rw [htouches.documents "pol" _ hkind (by decide) (by decide)]
    exact h.policiesAhead ns v hv
  · -- decisions ahead
    intro ns v digest hv
    rw [hfilled.tables.tenant] at hv
    have hkind : HasKind "dec" (decisionKeyAt request.namespace ns v digest) := ⟨_, _, rfl⟩
    rw [htouches.documents "dec" _ hkind (by decide) (by decide)]
    exact h.decisionsAhead ns v digest hv

/-! ## A policy write -/

variable {write : PolicyWrite} {policies : PolicyStore} {tenantKey : String}

omit [PyRuntime] in
/-- No document is written or dropped. -/
theorem get_run (h : w.Registered tenantKey)
    (hcommit : write.commit w.db.policies (w.tenant tenantKey).id = .ok policies) (key : String) :
    (write.run tenantKey w).backend.get key = w.backend.get key := by
  rw [run_of_commit h hcommit]
  rfl

omit [PyRuntime] in
/-- The counters of the policies and of the decisions are bumped. -/
theorem backend_run (h : w.Registered tenantKey)
    (hcommit : write.commit w.db.policies (w.tenant tenantKey).id = .ok policies) :
    (write.run tenantKey w).backend =
      (w.backend.incr (policyNamespaceKey tenantKey)).incr (decisionNamespaceKey tenantKey) := by
  rw [run_of_commit h hcommit]
  rfl

omit [PyRuntime] in
/-- Of the tables, the policies and the tenant change. -/
theorem db_run (h : w.Registered tenantKey)
    (hcommit : write.commit w.db.policies (w.tenant tenantKey).id = .ok policies) :
    ∃ tenants, (write.run tenantKey w).db = { w.db with tenants := tenants, policies := policies } := by
  rw [run_of_commit h hcommit]
  exact ⟨_, rfl⟩

omit [PyRuntime] in
theorem modelGraphs_run (h : w.Registered tenantKey)
    (hcommit : write.commit w.db.policies (w.tenant tenantKey).id = .ok policies) :
    (write.run tenantKey w).modelGraphs = w.modelGraphs := by
  rw [run_of_commit h hcommit]
  rfl

omit [PyRuntime] in
theorem registered_run (h : w.Registered tenantKey)
    (hcommit : write.commit w.db.policies (w.tenant tenantKey).id = .ok policies) :
    (write.run tenantKey w).Registered tenantKey := by
  rw [run_of_commit h hcommit]
  exact registered_bumpRevision _ _

/-- What a request looks up is the same. -/
theorem lookup_run (h : w.Registered request.tenantKey)
    (hcommit : write.commit w.db.policies (w.tenant request.tenantKey).id = .ok policies) :
    (write.run request.tenantKey w).lookup request = w.lookup request := by
  unfold World.lookup
  rw [tenant_run h hcommit]

/-- A policy write leaves the input of a request as it was. -/
theorem storeInput_run (h : w.Registered request.tenantKey)
    (hcommit : write.commit w.db.policies (w.tenant request.tenantKey).id = .ok policies) :
    (write.run request.tenantKey w).storeInput request = w.storeInput request := by
  have htenant := tenant_run h hcommit
  rcases db_run h hcommit with ⟨tenants, hdb⟩
  have hgraph : (write.run request.tenantKey w).storeGraph request.tenantKey =
      w.storeGraph request.tenantKey := by
    unfold World.storeGraph
    rw [htenant, hdb, modelGraphs_run h hcommit]
  have huser : (write.run request.tenantKey w).storeUser request.tenantKey request.user =
      w.storeUser request.tenantKey request.user := by
    unfold World.storeUser
    rw [htenant, hdb]
  have hindex : (write.run request.tenantKey w).storeIndex (w.lookup request) =
      w.storeIndex (w.lookup request) := by
    unfold World.storeIndex World.storeEntries
    rw [hdb]
  unfold World.storeInput
  rw [hgraph, huser, lookup_run h hcommit, hindex]

omit [PyRuntime] in
/-- The namespaces of the entries are none that a policy write moves. -/
theorem entryKeys_run (h : w.Registered request.tenantKey)
    (hcommit : write.commit w.db.policies (w.tenant request.tenantKey).id = .ok policies)
    (l : Lookup) :
    aclKey (write.run request.tenantKey w).backend.counters l = aclKey w.backend.counters l ∧
      indexKey (write.run request.tenantKey w).backend.counters l =
        indexKey w.backend.counters l := by
  rw [backend_run h hcommit]
  constructor
  · rw [aclKey_incr (hasKind_decisionNamespaceKey _) (by decide),
      aclKey_incr (hasKind_policyNamespaceKey _) (by decide)]
  · rw [indexKey_incr (hasKind_decisionNamespaceKey _) (by decide),
      indexKey_incr (hasKind_policyNamespaceKey _) (by decide)]

/-- The caches of the tables stay fresh through a policy write: the entries are those of
untouched rows, and under the new version there are no policies yet. -/
theorem Truthful.freshAfter (h : Truthful settings request w)
    (hcommit : write.commit w.db.policies (w.tenant request.tenantKey).id = .ok policies) :
    Fresh {w.lookup request} request.tenantKey (write.run request.tenantKey w) := by
  have hget := get_run h.registered hcommit
  have htenant := tenant_run h.registered hcommit
  rcases db_run h.registered hcommit with ⟨tenants, hdb⟩
  constructor
  · apply h.fresh.acl.frame
    · intro l _
      rw [hget, (entryKeys_run h.registered hcommit l).1]
    · intro l _
      rw [hdb]
  · apply h.fresh.index.frame
    · intro l _
      rw [hget, (entryKeys_run h.registered hcommit l).2]
    · intro l _
      unfold World.storeEntries
      rw [hdb]
  · rw [htenant]
    apply h.fresh.relationships.frame
    · intro subjectId _
      exact hget _
    · intro subjectId _
      rw [hdb]
  · -- nothing was stored under the new version
    intro doc hdoc
    have hnone : w.backend.get (policyCacheKey
        (write.run request.tenantKey w).backend.counters request.tenantKey
        ((write.run request.tenantKey w).tenant request.tenantKey).policyVersion) = none := by
      apply h.policiesAhead
      rw [htenant]
      dsimp only
      omega
    rw [hget, hnone] at hdoc
    cases hdoc

/-- A completed policy write keeps the caches truthful. -/
theorem Truthful.run (h : Truthful settings request w)
    (hcommit : write.commit w.db.policies (w.tenant request.tenantKey).id = .ok policies) :
    Truthful settings request (write.run request.tenantKey w) := by
  have hget := get_run h.registered hcommit
  have hversion : ((write.run request.tenantKey w).tenant request.tenantKey).policyVersion =
      (w.tenant request.tenantKey).policyVersion + 1 := by rw [tenant_run h.registered hcommit]
  constructor
  · exact registered_run h.registered hcommit
  · rw [lookup_run h.registered hcommit]
    exact h.freshAfter hcommit
  · -- decisions: the key is of the new version, under which nothing was stored
    intro input key _ hkey cached hcached
    have hnone : (write.run request.tenantKey w).backend.get key = none := by
      rcases decisionKey?_eq hkey with ⟨ns, digest, rfl⟩
      rw [hget]
      apply h.decisionsAhead
      rw [hversion]
      omega
    rw [safeDecisionGet_of_none hnone] at hcached
    cases hcached
  · -- ahead of the new version is ahead of the old one
    intro ns v hv
    rw [hget]
    apply h.policiesAhead
    omega
  · intro ns v digest hv
    rw [hget]
    apply h.decisionsAhead
    omega

/-! ## Before and after -/

/-- The decision of a request over given rows. -/
def World.decisionOver (settings : Settings) (w : World) (request : AuthorizeRequest)
    (records : List PolicyRecord) : AuthorizationDecision :=
  match w.storeInput request with
  | .ok input =>
      match (do (← currentEngine settings records).decide input) with
      | .ok decision => decision
      | .error _ => fallbackDecision settings input "authorization backend unavailable"
  | .error e => fallbackDecision settings request.fallbackInput
      s!"authorization input unavailable: {e.message}"

/-- The rows a request evaluates over the tables. -/
def World.requestRows (w : World) (policies : PolicyStore) (request : AuthorizeRequest) :
    List PolicyRecord :=
  policies.listCurrentPolicies (w.tenant request.tenantKey).id
    (policySetKey (policySetKey request.policySet))

theorem storeDecision_eq (settings : Settings) (w : World) (request : AuthorizeRequest) :
    w.storeDecision settings request =
      w.decisionOver settings request (w.requestRows w.db.policies request) := by
  unfold World.storeDecision World.decisionOver World.decideStored World.storeEvaluation
    World.storePolicies World.requestRows
  rfl

/-- The answer to a request after a completed policy write is that over the rows after it. -/
theorem authorize_after_write (h : Truthful settings request w)
    (hcommit : write.commit w.db.policies (w.tenant request.tenantKey).id = .ok policies) :
    (authorize settings (write.run request.tenantKey w) request).1.decision =
      w.decisionOver settings request (w.requestRows policies request) := by
  rcases db_run h.registered hcommit with ⟨tenants, hdb⟩
  have hrows : (write.run request.tenantKey w).requestRows
      (write.run request.tenantKey w).db.policies request = w.requestRows policies request := by
    unfold World.requestRows
    rw [tenant_run h.registered hcommit, hdb]
  rw [(h.run hcommit).answer, storeDecision_eq, hrows]
  unfold World.decisionOver
  rw [storeInput_run h.registered hcommit]

/-- The same tables decide a request alike. -/
theorem SameTables.decisionOver {w' : World} (h : SameTables request.tenantKey w w')
    (records : List PolicyRecord) :
    w'.decisionOver settings request records = w.decisionOver settings request records := by
  unfold World.decisionOver
  rw [h.storeInput]

/-- The answers to a request before and after a completed policy write are those over the
rows before and after it. -/
theorem authorize_around_write (h : Truthful settings request w)
    (hcommit : write.commit w.db.policies (w.tenant request.tenantKey).id = .ok policies) :
    (authorize settings w request).1.decision =
        w.decisionOver settings request (w.requestRows w.db.policies request) ∧
      (authorize settings (write.run request.tenantKey (authorize settings w request).2)
          request).1.decision =
        w.decisionOver settings request (w.requestRows policies request) := by
  have htables := (authorize_warmed settings h.fresh (distinct_singleton _)
    (Set.mem_singleton _)).tables
  have hcommitted : write.commit (authorize settings w request).2.db.policies
      ((authorize settings w request).2.tenant request.tenantKey).id = .ok policies := by
    rw [htables.policies, htables.tenant]
    exact hcommit
  have hrows : (authorize settings w request).2.requestRows policies request =
      w.requestRows policies request := by
    unfold World.requestRows
    rw [htables.tenant]
  constructor
  · rw [h.answer, storeDecision_eq]
  · rw [authorize_after_write h.answered hcommitted, htables.decisionOver, hrows]

end Truthful

end KeyNetra
