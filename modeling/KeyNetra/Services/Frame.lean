import KeyNetra.Services.PolicyWrites

/-!
# KeyNetra.Services.Frame — what a request leaves alone

A request writes no table but the tenant's row, no counter, and only documents of
the caches it goes through, whatever they hold.

* `Touches` — the same tables and counters, and the same documents but of some kinds;
* `buildInput_touches` — resolving a request writes relationships, ACL rows and index
  entries;
* `buildEngine_touches` / `buildEngine_policies` — an engine writes the current rows
  under the current key, or nothing;
* `authorize_cases` / `decideInput_cases` — the ways a request can be answered;
* `authorize_touches` / `authorize_policies` — the same frames for the service;
* `authorize_decisions` — the one decision a request stores is the one it returns.
-/

namespace KeyNetra

section Frame

variable [PyRuntime]

/-- The same tables and counters, and the same documents but of the given kinds. -/
structure Touches (kinds : List String) (w w' : World) : Prop where
  db : w'.db = w.db
  counters : w'.backend.counters = w.backend.counters
  documents : ∀ kind key, HasKind kind key → kind ∈ documentKinds → kind ∉ kinds →
    w'.backend.get key = w.backend.get key

variable {kinds kinds' : List String} {w w' w'' : World} {settings : Settings}
  {request : AuthorizeRequest}

omit [PyRuntime] in
theorem Touches.refl (kinds : List String) (w : World) : Touches kinds w w :=
  ⟨rfl, rfl, fun _ _ _ _ _ => rfl⟩

omit [PyRuntime] in
theorem Touches.trans (h : Touches kinds w w') (h' : Touches kinds w' w'') :
    Touches kinds w w'' where
  db := h'.db.trans h.db
  counters := h'.counters.trans h.counters
  documents kind key hkey hkind hne :=
    (h'.documents kind key hkey hkind hne).trans (h.documents kind key hkey hkind hne)

omit [PyRuntime] in
theorem Touches.mono (h : Touches kinds w w') (hkinds : kinds ⊆ kinds') : Touches kinds' w w' where
  db := h.db
  counters := h.counters
  documents kind key hkey hkind hne := h.documents kind key hkey hkind fun hmem => hne (hkinds hmem)

omit [PyRuntime] in
/-- Writing one document touches its kind. -/
theorem touches_set {kind key : String} (hkey : HasKind kind key)
    (hkind : kind ∈ documentKinds ∧ kind ∈ kinds) (value : Value) :
    Touches kinds w (w.withBackend (w.backend.set key value)) where
  db := rfl
  counters := rfl
  documents kind' key' hkey' hkind' hne := by
    apply Backend.get_set_ne
    apply hkey'.ne hkey
    refine ⟨List.mem_append_left _ hkind', List.mem_append_left _ hkind.1, ?_⟩
    rintro rfl
    exact hne hkind.2

omit [PyRuntime] in
/-- The tables the tenant is read from are the same. -/
theorem Touches.tenant (h : Touches kinds w w') (tenantKey : String) :
    w'.tenant tenantKey = w.tenant tenantKey := by
  unfold World.tenant
  rw [h.db]

omit [PyRuntime] in
theorem Touches.registered {tenantKey : String} (h : Touches kinds w w')
    (hregistered : w.Registered tenantKey) : w'.Registered tenantKey := by
  unfold World.Registered
  rw [h.tenant, h.db]
  exact hregistered

/-! ## The input -/

/-- What resolving a request fills. -/
def inputKinds : List String := ["rel", "acl", "idx"]

theorem userRelationships_touches (w : World) (tenantId : Int) (subjectId : String) :
    Touches inputKinds w (userRelationships w tenantId subjectId).2 := by
  unfold userRelationships
  split
  · exact .refl _ _
  · exact touches_set (hasKind_relationshipKey _ _ _) (by decide) _

theorem hydrateUser_touches (w : World) (tenantId : Int) (user : Dict) :
    Touches inputKinds w (hydrateUser w tenantId user).2 := by
  unfold hydrateUser
  dsimp only
  split
  · exact .refl _ _
  · exact userRelationships_touches _ _ _

theorem permissionGraph_touches {tenantId : Int} {tenantKey : String}
    {graph : Option CompiledPermissionGraph}
    (h : permissionGraph w tenantId tenantKey = .ok (graph, w')) : Touches inputKinds w w' := by
  unfold permissionGraph at h
  split at h
  · cases h
    exact .refl _ _
  · split at h
    · cases h
      exact .refl _ _
    · rcases Lib.bind_eq_ok.mp h with ⟨compiled, -, hworld⟩
      cases hworld
      exact ⟨rfl, rfl, fun _ _ _ _ _ => rfl⟩

/-- A rebuild writes the two documents of its lookup. -/
theorem rebuildResourceIndex_touches (w : World) (l : Lookup) :
    Touches inputKinds w
      (w.withBackend (rebuildResourceIndex w.db.acl w.db.relationships w.backend l).2) := by
  unfold rebuildResourceIndex
  split
  · exact .refl _ _
  · exact touches_set (hasKind_indexKey _ _) (by decide) _
  · have hacl : Touches inputKinds w
        (w.withBackend (aclCacheSet w.backend l (w.db.acl.findMatchingAcl l))) :=
      touches_set (hasKind_aclKey _ _) (by decide) _
    apply hacl.trans
    exact touches_set (hasKind_indexKey _ _) (by decide) _

theorem buildResourceIndex_touches (w : World) (memo : Memo) (l : Lookup) :
    Touches inputKinds w
      (w.withBackend (buildResourceIndex w.db.acl w.db.relationships w.backend memo l).2.1) := by
  have hrebuild := rebuildResourceIndex_touches w l
  unfold buildResourceIndex
  split
  · exact .refl _ _
  · exact .refl _ _
  · split
    · exact .refl _ _
    · -- a rebuild leaves the same backend whether or not it has entries
      split
      · rename_i hresult
        rw [hresult] at hrebuild
        exact hrebuild
      · rename_i hresult
        rw [hresult] at hrebuild
        exact hrebuild

theorem requestIndex_touches (w : World) (l : Lookup) :
    Touches inputKinds w (requestIndex w l).2 := by
  unfold requestIndex
  split
  · exact buildResourceIndex_touches w _ l
  · exact .refl _ _

theorem buildAuthorizationInput_touches (w : World) (tenantId : Int) (user : Dict)
    (request : AuthorizeRequest) :
    Touches inputKinds w (buildAuthorizationInput w tenantId user request).2 := by
  unfold buildAuthorizationInput
  cases hgraph : permissionGraph w tenantId request.tenantKey with
  | error e => exact .refl _ _
  | ok result =>
      have hpermissions := permissionGraph_touches hgraph
      have hindex := requestIndex_touches result.2 (request.lookup tenantId)
      have htouches := hpermissions.trans hindex
      dsimp only
      split
      · rename_i hresult
        rw [hresult] at htouches
        exact htouches
      · rename_i hresult
        rw [hresult] at htouches
        exact htouches

/-- Resolving a request of a registered tenant. -/
theorem buildInput_touches (h : w.Registered request.tenantKey) :
    Touches inputKinds w (buildInput w request).2 := by
  unfold buildInput
  split
  · exact .refl _ _
  · rw [ensureTenant_of_registered h]
    have huser := hydrateUser_touches w (w.tenant request.tenantKey).id request.user
    have hinput := buildAuthorizationInput_touches
      (hydrateUser w (w.tenant request.tenantKey).id request.user).2
      (w.tenant request.tenantKey).id
      (hydrateUser w (w.tenant request.tenantKey).id request.user).1 request
    have htouches := huser.trans hinput
    dsimp only
    split
    · rename_i hresult
      rw [hresult] at htouches
      exact htouches
    · rename_i hresult
      rw [hresult] at htouches
      exact htouches

/-- The tenant of a resolved request is that of its key. -/
theorem buildInput_tenant {input : AuthorizationInput} {tenant : TenantRecord}
    (h : (buildInput w request).1 = .ok (input, tenant)) :
    tenant = w.tenant request.tenantKey := by
  unfold buildInput at h
  split at h
  · cases h
  · dsimp only at h
    split at h
    · cases h
    · cases h
      rfl

/-! ## The engine -/

/-- An engine writes a policy document at most. -/
theorem buildEngine_touches (settings : Settings) (w : World) (tenant : TenantRecord)
    (policySet : String) : Touches ["pol"] w (buildEngine settings w tenant policySet).2 := by
  unfold buildEngine
  dsimp only
  split
  · exact .refl _ _
  · split
    · exact touches_set (hasKind_policyCacheKey _ _ _) (by decide) _
    · exact .refl _ _

/-- The document an engine writes holds the current rows, under the current key. -/
theorem buildEngine_policies (settings : Settings) (w : World) (tenant : TenantRecord)
    (policySet key : String) :
    (buildEngine settings w tenant policySet).2.backend.get key = w.backend.get key ∨
      (key = policyCacheKey w.backend.counters tenant.tenantKey tenant.policyVersion ∧
        w.db.policies.listCurrentPolicies tenant.id "active" ≠ [] ∧
        (buildEngine settings w tenant policySet).2.backend.get key =
          some (encodePolicies (w.db.policies.listCurrentPolicies tenant.id "active"))) := by
  unfold buildEngine
  dsimp only
  split
  · left
    rfl
  · split
    · -- rows of the active set that are not empty are stored under one key
      rename_i hstored
      rcases Bool.and_eq_true_iff.mp hstored with ⟨hrows, hactive⟩
      rw [of_decide_eq_true hactive] at hrows ⊢
      by_cases hkey : key = policyCacheKey w.backend.counters tenant.tenantKey tenant.policyVersion
      · right
        have hne : w.db.policies.listCurrentPolicies tenant.id "active" ≠ [] := by
          intro hempty
          rw [hempty] at hrows
          cases hrows
        refine ⟨hkey, hne, ?_⟩
        rw [hkey]
        exact Backend.get_set_self _ _ _
      · left
        exact Backend.get_set_ne _ _ hkey
    · left
      rfl

/-! ## The service -/

/-- The world a decision leaves: it is stored when the request has a key. -/
def World.storeDecisionAt (w : World) (key : Option String) (decision : AuthorizationDecision) :
    World :=
  match key with
  | none => w
  | some key => w.withBackend (decisionCacheSet w.backend key (.fromDecision decision))

/-- Deciding an input: the evaluation raises, or its decision is stored. -/
theorem decideInput_cases (settings : Settings) (w : World) (request : AuthorizeRequest)
    (input : AuthorizationInput) (tenant : TenantRecord) (key : Option String) :
    let built := buildEngine settings w tenant (policySetKey request.policySet)
    (∃ e, (do (← built.1).decide input) = .error e ∧
      decideInput settings w request input tenant key =
        (⟨fallbackDecision settings input "authorization backend unavailable", false,
          tenant.revision⟩, built.2)) ∨
    (∃ decision, (do (← built.1).decide input) = .ok decision ∧
      decideInput settings w request input tenant key =
        (⟨decision, false, tenant.revision⟩, built.2.storeDecisionAt key decision)) := by
  intro built
  rcases hbuilt : built with ⟨engine, w'⟩
  have heq : buildEngine settings w tenant (policySetKey request.policySet) = (engine, w') := hbuilt
  unfold decideInput World.storeDecisionAt
  rw [heq]
  dsimp only
  cases hdecide : (do (← engine).decide input) with
  | error e => exact Or.inl ⟨e, rfl, rfl⟩
  | ok decision => exact Or.inr ⟨decision, rfl, rfl⟩

/-- A request of a registered tenant: it cannot be resolved, it is answered by the
decision cache, or it is decided. -/
theorem authorize_cases (settings : Settings) (h : w.Registered request.tenantKey) :
    let tenant := w.tenant request.tenantKey
    let w' := (buildInput w request).2
    (∃ e, (buildInput w request).1 = .error e ∧
      authorize settings w request =
        (⟨fallbackDecision settings request.fallbackInput
          s!"authorization input unavailable: {e.message}", false, 1⟩, w')) ∨
    (∃ input, (buildInput w request).1 = .ok (input, tenant) ∧
      ((∃ key cached, request.decisionKey? w.backend.counters tenant input = some key ∧
          safeDecisionGet w.backend key = some cached ∧
          authorize settings w request = (⟨decisionFromCache cached, true, tenant.revision⟩, w')) ∨
        ((request.decisionKey? w.backend.counters tenant input).bind (safeDecisionGet w.backend) =
            none ∧
          authorize settings w request = decideInput settings w' request input tenant
            (request.decisionKey? w.backend.counters tenant input)))) := by
  intro tenant w'
  have hinput : Touches inputKinds w w' := buildInput_touches h
  have hbuilt : buildInput w request = ((buildInput w request).1, w') := rfl
  unfold authorize
  rw [hbuilt]
  cases hresult : (buildInput w request).1 with
  | error e => exact Or.inl ⟨e, rfl, rfl⟩
  | ok resolved =>
      right
      rcases resolved with ⟨input, tenant'⟩
      have htenant : tenant' = tenant := buildInput_tenant hresult
      refine ⟨input, by rw [htenant], ?_⟩
      dsimp only
      rw [htenant, hinput.counters]
      -- the input's documents are not decisions
      have hsame : (request.decisionKey? w.backend.counters tenant input).bind
          (safeDecisionGet w'.backend) =
          (request.decisionKey? w.backend.counters tenant input).bind
            (safeDecisionGet w.backend) := by
        cases hkey : request.decisionKey? w.backend.counters tenant input with
        | none => rfl
        | some key =>
            have hdoc := hinput.documents "dec" key (hasKind_decisionKey? hkey) (by decide)
              (by decide)
            show safeDecisionGet w'.backend key = safeDecisionGet w.backend key
            unfold safeDecisionGet decisionCacheGet
            rw [hdoc]
      rw [hsame]
      cases hhit : (request.decisionKey? w.backend.counters tenant input).bind
          (safeDecisionGet w.backend) with
      | some cached =>
          left
          rcases Option.bind_eq_some_iff.mp hhit with ⟨key, hkey, hget⟩
          exact ⟨key, cached, hkey, hget, rfl⟩
      | none => exact Or.inr ⟨rfl, rfl⟩

omit [PyRuntime] in
theorem storeDecisionAt_touches (w : World) {key : Option String}
    (hkey : ∀ k, key = some k → HasKind "dec" k) (decision : AuthorizationDecision) :
    Touches ["dec"] w (w.storeDecisionAt key decision) := by
  unfold World.storeDecisionAt
  cases key with
  | none => exact .refl _ _
  | some k => exact touches_set (hkey k rfl) (by decide) _

omit [PyRuntime] in
/-- A decision is stored under its key, and the other documents are kept. -/
theorem storeDecisionAt_get (w : World) (stored : Option String) (decision : AuthorizationDecision)
    (key : String) :
    (w.storeDecisionAt stored decision).backend.get key = w.backend.get key ∨
      (stored = some key ∧ (w.storeDecisionAt stored decision).backend.get key =
        some (.dict (CachedDecision.fromDecision decision).toDict)) := by
  unfold World.storeDecisionAt
  cases stored with
  | none => exact Or.inl rfl
  | some other =>
      by_cases hsame : key = other
      · right
        rw [hsame]
        exact ⟨rfl, Backend.get_set_self _ _ _⟩
      · left
        exact Backend.get_set_ne _ _ hsame

/-- Deciding an input writes the documents of its engine, and its decision. -/
theorem decideInput_touches (settings : Settings) (w : World) (request : AuthorizeRequest)
    (input : AuthorizationInput) (tenant : TenantRecord) {key : Option String}
    (hkey : ∀ k, key = some k → HasKind "dec" k) :
    Touches ["dec"] (buildEngine settings w tenant (policySetKey request.policySet)).2
      (decideInput settings w request input tenant key).2 := by
  rcases decideInput_cases settings w request input tenant key with
    ⟨e, -, heq⟩ | ⟨decision, -, heq⟩
  · rw [heq]
    dsimp only
    exact Touches.refl _ _
  · rw [heq]
    exact storeDecisionAt_touches _ hkey decision

theorem authorize_touches (settings : Settings) (h : w.Registered request.tenantKey) :
    Touches documentKinds w (authorize settings w request).2 := by
  have hinput := (buildInput_touches h).mono (show inputKinds ⊆ documentKinds by decide)
  rcases authorize_cases settings h with
    ⟨e, -, heq⟩ | ⟨input, -, ⟨key, cached, -, -, heq⟩ | ⟨-, heq⟩⟩
  · rw [heq]
    exact hinput
  · rw [heq]
    exact hinput
  · have hengine := buildEngine_touches settings (buildInput w request).2
      (w.tenant request.tenantKey) (policySetKey request.policySet)
    have hkey : ∀ key, request.decisionKey? w.backend.counters (w.tenant request.tenantKey) input =
        some key → HasKind "dec" key := fun _ hk => hasKind_decisionKey? hk
    have hdecide := decideInput_touches settings (buildInput w request).2 request input
      (w.tenant request.tenantKey) hkey
    rw [heq]
    exact (hinput.trans (hengine.mono (by decide))).trans (hdecide.mono (by decide))

/-- The policy document a request writes holds the current rows, under the current key. -/
theorem authorize_policies (settings : Settings) (h : w.Registered request.tenantKey)
    {key : String} (hkey : HasKind "pol" key) :
    (authorize settings w request).2.backend.get key = w.backend.get key ∨
      (key = policyCacheKey w.backend.counters request.tenantKey
          (w.tenant request.tenantKey).policyVersion ∧
        w.db.policies.listCurrentPolicies (w.tenant request.tenantKey).id "active" ≠ [] ∧
        (authorize settings w request).2.backend.get key = some (encodePolicies
          (w.db.policies.listCurrentPolicies (w.tenant request.tenantKey).id "active"))) := by
  have hinput := buildInput_touches h
  have hsame : (buildInput w request).2.backend.get key = w.backend.get key :=
    hinput.documents "pol" key hkey (by decide) (by decide)
  -- only an evaluation stores policies, and those of the tenant under its key
  rcases authorize_cases settings h with
    ⟨e, -, heq⟩ | ⟨input, -, ⟨key', cached, -, -, heq⟩ | ⟨-, heq⟩⟩
  · rw [heq]
    exact Or.inl hsame
  · rw [heq]
    exact Or.inl hsame
  · have hengine := buildEngine_policies settings (buildInput w request).2
      (w.tenant request.tenantKey) (policySetKey request.policySet) key
    have hdecision : ∀ k, request.decisionKey? w.backend.counters (w.tenant request.tenantKey)
        input = some k → HasKind "dec" k := fun _ hk => hasKind_decisionKey? hk
    have hdecide := (decideInput_touches settings (buildInput w request).2 request input
      (w.tenant request.tenantKey) hdecision).documents "pol" key hkey (by decide) (by decide)
    rw [tenant_tenantKey, hinput.counters, hinput.db] at hengine
    rw [heq, hdecide]
    rw [hsame] at hengine
    exact hengine

/-- The decision a request stores is the one it returns, under the request's key. -/
theorem authorize_decisions (settings : Settings) (h : w.Registered request.tenantKey)
    {key : String} (hkey : HasKind "dec" key) :
    (authorize settings w request).2.backend.get key = w.backend.get key ∨
      ∃ input, (buildInput w request).1 = .ok (input, w.tenant request.tenantKey) ∧
        request.decisionKey? w.backend.counters (w.tenant request.tenantKey) input = some key ∧
        (do (← (buildEngine settings (buildInput w request).2 (w.tenant request.tenantKey)
          (policySetKey request.policySet)).1).decide input) =
            .ok (authorize settings w request).1.decision ∧
        (authorize settings w request).2.backend.get key = some
          (.dict (CachedDecision.fromDecision (authorize settings w request).1.decision).toDict) := by
  have hinput := buildInput_touches h
  have hsame : (buildInput w request).2.backend.get key = w.backend.get key :=
    hinput.documents "dec" key hkey (by decide) (by decide)
  -- only a decision that was just evaluated is stored
  rcases authorize_cases settings h with
    ⟨e, -, heq⟩ | ⟨input, hbuilt, ⟨key', cached, -, -, heq⟩ | ⟨-, heq⟩⟩
  · rw [heq]
    exact Or.inl hsame
  · rw [heq]
    exact Or.inl hsame
  · have hengine := (buildEngine_touches settings (buildInput w request).2
      (w.tenant request.tenantKey) (policySetKey request.policySet)).documents "dec" key hkey
        (by decide) (by decide)
    have hbefore := hengine.trans hsame
    rw [heq]
    rcases decideInput_cases settings (buildInput w request).2 request input
      (w.tenant request.tenantKey)
      (request.decisionKey? w.backend.counters (w.tenant request.tenantKey) input) with
      ⟨e, -, hdecided⟩ | ⟨decision, hdecide, hdecided⟩
    · rw [hdecided]
      dsimp only
      exact Or.inl hbefore
    · rw [hdecided]
      dsimp only
      rcases storeDecisionAt_get (buildEngine settings (buildInput w request).2
        (w.tenant request.tenantKey) (policySetKey request.policySet)).2
        (request.decisionKey? w.backend.counters (w.tenant request.tenantKey) input) decision key
        with hkept | ⟨hstored, hdoc⟩
      · exact Or.inl (hkept.trans hbefore)
      · exact Or.inr ⟨input, hbuilt, hstored, hdecide, hdoc⟩

end Frame

end KeyNetra
