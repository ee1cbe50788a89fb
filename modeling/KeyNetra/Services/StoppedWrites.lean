import KeyNetra.Services.Frame

/-!
# KeyNetra.Services.StoppedWrites — policy writes that stop on the way

A policy write commits its rows and then takes the steps of `afterCommit`, nothing of
which is undone when one of them raises. Requests go on from there.

* `World.evaluatedPolicies` — the rows a request evaluates: those of the policy cache,
  or the stored ones;
* `TenantEvent.step` — a request, or a write that stops after any number of its steps;
* `NoSplit` — every later request evaluates the rows it would with empty caches;
* `PoliciesSettled` — the document of the current version, if any, holds the current rows,
  and no later version has one;
* `no_split_iff` — along any run, no write leaves a split exactly when none stops
  right behind its commit while the document of the old rows is current.

From the version bump on, the key is one that nothing has been stored under.
-/

namespace KeyNetra

section StoppedWrites

variable [PyRuntime]

/-! ## Evaluated rows -/

/-- The rows a request evaluates. -/
def World.evaluatedPolicies (w : World) (tenantKey policySet : String) : List PolicyRecord :=
  (cachedPolicies w (w.tenant tenantKey) (policySetKey policySet)).getD
    (w.storePolicies tenantKey policySet)

/-- An engine is built of the evaluated rows. -/
theorem buildEngine_evaluated (settings : Settings) (w : World) (tenantKey policySet : String) :
    (buildEngine settings w (w.tenant tenantKey) policySet).1 =
      if (cachedPolicies w (w.tenant tenantKey) (policySetKey policySet)).isSome then
        engineOf (w.evaluatedPolicies tenantKey policySet)
      else currentEngine settings (w.evaluatedPolicies tenantKey policySet) := by
  unfold buildEngine World.evaluatedPolicies
  dsimp only
  cases cachedPolicies w (w.tenant tenantKey) (policySetKey policySet) with
  | some rows => rfl
  | none => rfl

/-- The rows are those of empty caches. -/
def World.Agree (tenantKey : String) (w : World) (request : AuthorizeRequest) : Prop :=
  w.evaluatedPolicies tenantKey request.policySet =
    (w.withBackend (.cold w.backend.counters)).evaluatedPolicies tenantKey request.policySet

/-! ## Runs -/

/-- The request, for a tenant. -/
def AuthorizeRequest.ofTenant (tenantKey : String) (request : AuthorizeRequest) :
    AuthorizeRequest :=
  { request with tenantKey := tenantKey }

/-- A request, or a write that stops after some of its steps. -/
inductive TenantEvent where
  | authorize (request : AuthorizeRequest)
  | write (change : PolicyWrite) (stop : Nat)

variable (settings : Settings) (tenantKey : String)

/-- A request of the tenant. -/
def World.request (w : World) (request : AuthorizeRequest) : World :=
  (KeyNetra.authorize settings w (request.ofTenant tenantKey)).2

/-- One operation of the tenant. -/
def TenantEvent.step (w : World) : TenantEvent → World
  | .authorize request => w.request settings tenantKey request
  | .write change stop => change.stopped tenantKey w stop

/-- Every later request evaluates the rows it would with empty caches. -/
def NoSplit (w : World) : Prop :=
  ∀ later, Lib.Along (World.request settings tenantKey) (World.Agree tenantKey) w later

/-- The write stops right behind a commit that changes the rows, while their document
is current. -/
def TenantEvent.LeavesOld (tenantKey : String) (w : World) : TenantEvent → Prop
  | .authorize _ => False
  | .write change stop =>
      stop = 1 ∧ ∃ policies, change.commit w.db.policies (w.tenant tenantKey).id = .ok policies ∧
        policies.listCurrentPolicies (w.tenant tenantKey).id "active" ≠
          w.db.policies.listCurrentPolicies (w.tenant tenantKey).id "active" ∧
        (w.backend.get (policyCacheKey w.backend.counters tenantKey
          (w.tenant tenantKey).policyVersion)).isSome

/-- Any tables and counters, and empty caches. -/
def World.rested (tenantKey : String) (w : World) : World :=
  (w.withBackend (.cold w.backend.counters)).ensureTenant tenantKey

/-! ## PoliciesSettled policy caches -/

/-- No document from the current version on. -/
structure Unfilled (tenantKey : String) (w : World) : Prop where
  registered : w.Registered tenantKey
  ahead : ∀ ns v, (w.tenant tenantKey).policyVersion ≤ v →
    w.backend.get (policyKeyAt tenantKey ns v) = none

/-- The document of the current version holds the current rows, and there is none of a
later version. -/
structure PoliciesSettled (tenantKey : String) (w : World) : Prop where
  registered : w.Registered tenantKey
  current : ∀ doc, w.backend.get (policyCacheKey w.backend.counters tenantKey
      (w.tenant tenantKey).policyVersion) = some doc →
    doc = encodePolicies (w.db.policies.listCurrentPolicies (w.tenant tenantKey).id "active")
  ahead : ∀ ns v, (w.tenant tenantKey).policyVersion < v →
    w.backend.get (policyKeyAt tenantKey ns v) = none

variable {settings tenantKey} {w : World}

omit [PyRuntime] in
theorem Unfilled.settled (h : Unfilled tenantKey w) : PoliciesSettled tenantKey w where
  registered := h.registered
  current doc hdoc := by
    have hnone : w.backend.get (policyCacheKey w.backend.counters tenantKey
        (w.tenant tenantKey).policyVersion) = none := h.ahead _ _ (Int.le_refl _)
    rw [hnone] at hdoc
    cases hdoc
  ahead ns v hv := h.ahead ns v (Int.le_of_lt hv)

omit [PyRuntime] in
theorem policiesSettled_rested (w : World) (tenantKey : String) :
    PoliciesSettled tenantKey (w.rested tenantKey) where
  registered := registered_ensureTenant _ _
  current _ hdoc := by cases hdoc
  ahead _ _ _ := rfl

/-- With empty caches the stored rows are evaluated. -/
theorem evaluatedPolicies_cold (w : World) (tenantKey policySet : String) :
    (w.withBackend (.cold w.backend.counters)).evaluatedPolicies tenantKey policySet =
      w.storePolicies tenantKey policySet := by
  unfold World.evaluatedPolicies cachedPolicies
  split
  · rw [policyCacheGet_of_none rfl]
    rfl
  · rfl

/-- With a current document its rows are evaluated. -/
theorem evaluatedPolicies_of_doc {policySet : String} (hactive : policySetKey policySet = "active")
    {rows : List PolicyRecord}
    (hdoc : w.backend.get (policyCacheKey w.backend.counters tenantKey
      (w.tenant tenantKey).policyVersion) = some (encodePolicies rows)) :
    w.evaluatedPolicies tenantKey policySet = rows := by
  unfold World.evaluatedPolicies cachedPolicies
  rw [if_pos hactive, tenant_tenantKey, policyCacheGet_of_doc hdoc]
  rfl

/-- In settled caches a request evaluates the stored rows. -/
theorem PoliciesSettled.agree (h : PoliciesSettled tenantKey w) (request : AuthorizeRequest) :
    w.Agree tenantKey request := by
  unfold World.Agree
  rw [evaluatedPolicies_cold]
  by_cases hactive : policySetKey request.policySet = "active"
  · cases hdoc : w.backend.get (policyCacheKey w.backend.counters tenantKey
        (w.tenant tenantKey).policyVersion) with
    | none =>
        unfold World.evaluatedPolicies cachedPolicies
        rw [if_pos hactive, tenant_tenantKey, policyCacheGet_of_none hdoc]
        rfl
    | some doc =>
        have hrows := h.current doc hdoc
        rw [evaluatedPolicies_of_doc hactive (hdoc.trans (congrArg some hrows))]
        unfold World.storePolicies
        rw [hactive]
  · unfold World.evaluatedPolicies cachedPolicies
    rw [if_neg hactive]
    rfl

/-- A request keeps the caches settled. -/
theorem PoliciesSettled.request (h : PoliciesSettled tenantKey w) (request : AuthorizeRequest) :
    PoliciesSettled tenantKey (w.request settings tenantKey request) := by
  have hregistered : w.Registered (request.ofTenant tenantKey).tenantKey := h.registered
  have htouches := authorize_touches settings hregistered
  have htenant := htouches.tenant tenantKey
  have hdocs : ∀ key, HasKind "pol" key →
      (w.request settings tenantKey request).backend.get key = w.backend.get key ∨
        (key = policyCacheKey w.backend.counters tenantKey (w.tenant tenantKey).policyVersion ∧
          w.db.policies.listCurrentPolicies (w.tenant tenantKey).id "active" ≠ [] ∧
          (w.request settings tenantKey request).backend.get key = some (encodePolicies
            (w.db.policies.listCurrentPolicies (w.tenant tenantKey).id "active"))) :=
    fun key hkey => authorize_policies settings hregistered hkey
  constructor
  · exact htouches.registered h.registered
  · intro doc hdoc
    unfold World.request at hdoc ⊢
    rw [htouches.counters, htenant] at hdoc
    rw [htouches.db, htenant]
    rcases hdocs _ (hasKind_policyCacheKey _ _ _) with hsame | ⟨-, -, hstored⟩
    · exact h.current doc (hsame.symm.trans hdoc)
    · exact Option.some.inj (hdoc.symm.trans hstored)
  · intro ns v hv
    unfold World.request at hv
    rw [htenant] at hv
    rcases hdocs (policyKeyAt tenantKey ns v) ⟨_, _, rfl⟩ with hsame | ⟨hkey, -⟩
    · exact hsame.trans (h.ahead ns v hv)
    · -- the key a request writes is that of the current version
      have hversion : v = (w.tenant tenantKey).policyVersion := (policyKeyAt_inj.mp hkey).2
      omega

/-- From settled caches nothing splits. -/
theorem PoliciesSettled.noSplit (h : PoliciesSettled tenantKey w) : NoSplit settings tenantKey w := by
  intro later
  have hok : Lib.Along (World.request settings tenantKey) (fun _ _ => True) w later := by
    have hall := h
    clear h
    induction later generalizing w with
    | nil => trivial
    | cons request later ih => exact ⟨trivial, ih (hall.request request)⟩
  exact Lib.along_of_invariant (fun _ request hv _ => hv.request request)
    (fun _ request hv _ => hv.agree request) h hok

/-! ## Stopped writes -/

omit [PyRuntime] in
/-- Once the version is bumped, nothing is stored under it. -/
theorem PoliciesSettled.bumpPolicyVersion (h : PoliciesSettled tenantKey w) (policies : PolicyStore) :
    Unfilled tenantKey ((w.withPolicies policies).bumpPolicyVersion tenantKey) := by
  have hregistered : (w.withPolicies policies).Registered tenantKey := h.registered
  have hbumped := tenant_bumpPolicyVersion hregistered
  constructor
  · exact hbumped.1
  · intro ns v hv
    rw [hbumped.2] at hv
    have hversion : (w.tenant tenantKey).policyVersion + 1 ≤ v := hv
    exact h.ahead ns v (by omega)

omit [PyRuntime] in
/-- The steps behind the version bump store nothing. -/
theorem Unfilled.step (h : Unfilled tenantKey w) {step : World → World}
    (hstep : step ∈ (afterCommit tenantKey).drop 1) : Unfilled tenantKey (step w) := by
  have hcases : step = World.invalidatePolicies tenantKey ∨ step = World.bumpDecisions tenantKey ∨
      step = fun w => w.bumpRevision tenantKey := by
    simpa [afterCommit] using hstep
  rcases hcases with rfl | rfl | rfl
  · exact ⟨h.registered, h.ahead⟩
  · exact ⟨h.registered, h.ahead⟩
  · constructor
    · exact registered_bumpRevision w tenantKey
    · rw [tenant_bumpRevision]
      exact h.ahead

omit [PyRuntime] in
theorem Unfilled.through {steps : List (World → World)}
    (hsteps : ∀ step ∈ steps, step ∈ (afterCommit tenantKey).drop 1) (h : Unfilled tenantKey w) :
    Unfilled tenantKey (w.through steps) := by
  induction steps generalizing w with
  | nil => exact h
  | cons step steps ih =>
      have hstep := h.step (hsteps step List.mem_cons_self)
      exact ih (fun later hlater => hsteps later (List.mem_cons_of_mem _ hlater)) hstep

omit [PyRuntime] in
/-- The world right behind a commit. -/
theorem stopped_one (h : w.Registered tenantKey) (change : PolicyWrite) {policies : PolicyStore}
    (hcommit : change.commit w.db.policies (w.tenant tenantKey).id = .ok policies) :
    change.stopped tenantKey w 1 = w.withPolicies policies := by
  unfold PolicyWrite.stopped
  rw [ensureTenant_of_registered h]
  dsimp only
  rw [hcommit]
  rfl

omit [PyRuntime] in
/-- A write that leaves no old document current keeps the caches settled. -/
theorem PoliciesSettled.stopped (h : PoliciesSettled tenantKey w) (change : PolicyWrite) (stop : Nat)
    (hold : ¬ TenantEvent.LeavesOld tenantKey w (.write change stop)) :
    PoliciesSettled tenantKey (change.stopped tenantKey w stop) := by
  cases stop with
  | zero =>
      show PoliciesSettled tenantKey (w.ensureTenant tenantKey)
      rw [ensureTenant_of_registered h.registered]
      exact h
  | succ k =>
      cases hcommit : change.commit w.db.policies (w.tenant tenantKey).id with
      | error e =>
          unfold PolicyWrite.stopped
          rw [ensureTenant_of_registered h.registered]
          dsimp only
          rw [hcommit]
          exact h
      | ok policies =>
          cases k with
          | zero =>
              rw [stopped_one h.registered change hcommit]
              refine ⟨h.registered, ?_, h.ahead⟩
              intro doc hdoc
              by_contra hne
              apply hold
              refine ⟨rfl, policies, hcommit, ?_, Option.isSome_iff_exists.mpr ⟨doc, hdoc⟩⟩
              -- were the rows unchanged, the document would hold them
              intro hrows
              apply hne
              exact (h.current doc hdoc).trans (congrArg encodePolicies hrows.symm)
          | succ k =>
              have hbumped := h.bumpPolicyVersion policies
              have hthrough : Unfilled tenantKey
                  (((w.withPolicies policies).bumpPolicyVersion tenantKey).through
                    (((afterCommit tenantKey).drop 1).take k)) :=
                hbumped.through fun step hstep => List.mem_of_mem_take hstep
              unfold PolicyWrite.stopped
              rw [ensureTenant_of_registered h.registered]
              dsimp only
              rw [hcommit]
              exact hthrough.settled

/-- The split: the old document is current, and the rows are new. -/
theorem PoliciesSettled.split (h : PoliciesSettled tenantKey w) {event : TenantEvent}
    (hold : event.LeavesOld tenantKey w) :
    ¬ NoSplit settings tenantKey (event.step settings tenantKey w) := by
  cases event with
  | authorize request => exact absurd hold id
  | write change stop =>
      rcases hold with ⟨rfl, policies, hcommit, hchanged, hcached⟩
      rcases Option.isSome_iff_exists.mp hcached with ⟨doc, hdoc⟩
      intro hsplit
      -- one request of the active policies tells the two apart
      let request : AuthorizeRequest := { tenantKey, user := [], action := "", resource := [] }
      have hworld : (TenantEvent.write change 1).step settings tenantKey w =
          w.withPolicies policies := stopped_one h.registered change hcommit
      rw [hworld] at hsplit
      have hagree : (w.withPolicies policies).evaluatedPolicies tenantKey "active" =
          ((w.withPolicies policies).withBackend (.cold w.backend.counters)).evaluatedPolicies
            tenantKey "active" := (hsplit [request]).1
      have hrows := h.current doc hdoc
      have hwarm : (w.withPolicies policies).evaluatedPolicies tenantKey "active" =
          w.db.policies.listCurrentPolicies (w.tenant tenantKey).id "active" :=
        evaluatedPolicies_of_doc policySetKey_active (hdoc.trans (congrArg some hrows))
      have hcold : ((w.withPolicies policies).withBackend
          (.cold w.backend.counters)).evaluatedPolicies tenantKey "active" =
          policies.listCurrentPolicies (w.tenant tenantKey).id "active" := by
        have hstored := evaluatedPolicies_cold (w.withPolicies policies) tenantKey "active"
        unfold World.storePolicies at hstored
        rw [policySetKey_active] at hstored
        exact hstored
      apply hchanged
      rw [← hcold, ← hagree, hwarm]

/-- In every run of requests and of writes that stop anywhere, from any tables and
counters and empty caches: no operation leaves later requests to evaluate other rows
than with empty caches, if and only if no write stops right behind a commit that changes
the rows while their document is current. -/
theorem no_split_iff (settings : Settings) (tenantKey : String) (w : World)
    (events : List TenantEvent) :
    Lib.Along (TenantEvent.step settings tenantKey)
        (fun v event => NoSplit settings tenantKey (event.step settings tenantKey v))
        (w.rested tenantKey) events ↔
      Lib.Along (TenantEvent.step settings tenantKey)
        (fun v event => ¬ event.LeavesOld tenantKey v) (w.rested tenantKey) events := by
  have hstep : ∀ v event, PoliciesSettled tenantKey v → ¬ TenantEvent.LeavesOld tenantKey v event →
      PoliciesSettled tenantKey (event.step settings tenantKey v) := by
    intro v event hv hold
    cases event with
    | authorize request => exact hv.request request
    | write change stop => exact hv.stopped change stop hold
  apply Lib.along_iff hstep _ (policiesSettled_rested w tenantKey)
  intro v event hv
  constructor
  · intro hsplit hold
    exact hv.split hold hsplit
  · intro hold
    exact (hstep v event hv hold).noSplit

end StoppedWrites

section Concrete

attribute [local instance] plainRuntime

attribute [local semireducible] cacheKey

/-- Anyone may read. -/
def readersPolicy : PolicyChange where
  policyKey := "readers"
  action := "read"
  effect := "allow"
  priority := 10
  conditions := []
  createdBy := none

/-- A policy is created and used, and its deletion stops right behind the commit. -/
def stoppedDelete : List TenantEvent :=
  [.write (.create readersPolicy) 5, .authorize readDoc, .write (.delete "readers") 1]

/-- The world it leaves. -/
def stoppedWorld : World :=
  Lib.run (TenantEvent.step plainSettings "default") (blankWorld.rested "default") stoppedDelete

/-- The deleted policy goes on allowing what an empty cache denies. -/
theorem stopped_delete_keeps_policy :
    (authorize plainSettings stoppedWorld readDoc).1.decision.allowed = true ∧
      (authorize plainSettings (stoppedWorld.withBackend (.cold stoppedWorld.backend.counters))
        readDoc).1.decision.allowed = false ∧
      ¬ Lib.Along (TenantEvent.step plainSettings "default")
        (fun v event => NoSplit plainSettings "default" (event.step plainSettings "default" v))
        (blankWorld.rested "default") stoppedDelete := by
  refine ⟨by decide +kernel, by decide +kernel, ?_⟩
  intro hsplit
  have hlater : NoSplit plainSettings "default" stoppedWorld := hsplit.2.2.1
  have hagree : stoppedWorld.evaluatedPolicies "default" readDoc.policySet =
      (stoppedWorld.withBackend (.cold stoppedWorld.backend.counters)).evaluatedPolicies "default"
        readDoc.policySet := (hlater [readDoc]).1
  have hwarm : (stoppedWorld.evaluatedPolicies "default" readDoc.policySet).length = 1 := by
    decide +kernel
  have hcold : ((stoppedWorld.withBackend (.cold stoppedWorld.backend.counters)).evaluatedPolicies
      "default" readDoc.policySet).length = 0 := by
    decide +kernel
  rw [hagree, hcold] at hwarm
  cases hwarm

end Concrete

end KeyNetra
