import KeyNetra.Services.Revocation

/-!
# KeyNetra.Services.Drafts — drafts and the active policies

A key has one pointer for the versions of all states, and a new version moves it. The
current version of a key that is given a draft is the draft, so its active version is no
longer listed.

* `World.ActiveAsBefore` — a change leaves the active policies, and the answers to requests
  for them, as they were;
* `draft_leaves_active_iff` — a draft or archived version does exactly when it is refused, or
  the key has no active policy.
-/

namespace KeyNetra

section Drafts

variable [PyRuntime]

/-- The change leaves the active list of the tenant as it was; and a request for the active
policies, asked before and after it, is decided the same. -/
structure World.ActiveAsBefore (settings : Settings) (tenantKey : String) (change : PolicyChange)
    (w : World) : Prop where
  listed : ((PolicyWrite.create change).run tenantKey w).db.policies.listCurrentPolicies
      (w.tenant tenantKey).id "active" =
    w.db.policies.listCurrentPolicies (w.tenant tenantKey).id "active"
  decided : ∀ request : AuthorizeRequest, request.tenantKey = tenantKey →
    policySetKey request.policySet = "active" → Truthful settings request w →
    (authorize settings ((PolicyWrite.create change).run tenantKey (authorize settings w request).2)
      request).1.decision = (authorize settings w request).1.decision

variable {settings : Settings} {w : World} {tenantKey : String} {change : PolicyChange}

omit [PyRuntime] in
/-- A create that is refused changes nothing. -/
theorem run_of_refused (h : w.Registered tenantKey) {e : PyError}
    (hcreate : w.db.policies.createPolicyVersion (w.tenant tenantKey).id change = .error e) :
    (PolicyWrite.create change).run tenantKey w = w := by
  unfold PolicyWrite.run PolicyWrite.stopped
  rw [ensureTenant_of_registered h]
  unfold PolicyWrite.commit
  dsimp only
  rw [hcreate]
  rfl

omit [PyRuntime] in
/-- The rows after the service's create are those after the repository's. -/
theorem policies_run_create (h : w.Registered tenantKey) :
    ((PolicyWrite.create change).run tenantKey w).db.policies =
      w.db.policies.afterCreate (w.tenant tenantKey).id change := by
  unfold PolicyStore.afterCreate
  cases hcreate : w.db.policies.createPolicyVersion (w.tenant tenantKey).id change with
  | error e => rw [run_of_refused h hcreate]
  | ok result =>
      have hcommit : (PolicyWrite.create change).commit w.db.policies (w.tenant tenantKey).id =
          .ok result.2 := by
        unfold PolicyWrite.commit
        dsimp only
        rw [hcreate]
        rfl
      rcases db_run h hcommit with ⟨tenants, hdb⟩
      rw [hdb]

/-- Over the same active list, a request for it is decided the same. -/
theorem decided_of_listed {request : AuthorizeRequest} (h : Truthful settings request w)
    (hactive : policySetKey request.policySet = "active")
    (hlisted : (w.db.policies.afterCreate (w.tenant request.tenantKey).id
        change).listCurrentPolicies (w.tenant request.tenantKey).id "active" =
      w.db.policies.listCurrentPolicies (w.tenant request.tenantKey).id "active") :
    (authorize settings ((PolicyWrite.create change).run request.tenantKey
      (authorize settings w request).2) request).1.decision =
        (authorize settings w request).1.decision := by
  cases hcreate : w.db.policies.createPolicyVersion (w.tenant request.tenantKey).id change with
  | error e =>
      -- a refused create leaves the world as the request left it
      have htouches := authorize_touches settings h.registered
      have hrefused : (authorize settings w request).2.db.policies.createPolicyVersion
          ((authorize settings w request).2.tenant request.tenantKey).id change = .error e := by
        rw [htouches.db, htouches.tenant]
        exact hcreate
      have hwarmed := authorize_warmed settings h.fresh (distinct_singleton _)
        (Set.mem_singleton _)
      rw [run_of_refused h.answered.registered hrefused, h.answered.answer, h.answer]
      exact hwarmed.tables.storeDecision
  | ok result =>
      have hcommit : (PolicyWrite.create change).commit w.db.policies
          (w.tenant request.tenantKey).id = .ok result.2 := by
        unfold PolicyWrite.commit
        dsimp only
        rw [hcreate]
        rfl
      rcases authorize_around_write h hcommit with ⟨hbefore, hafter⟩
      have hrows : w.requestRows result.2 request = w.requestRows w.db.policies request := by
        unfold PolicyStore.afterCreate at hlisted
        rw [hcreate] at hlisted
        unfold World.requestRows
        rw [hactive, policySetKey_active]
        exact hlisted
      rw [hafter, hbefore, hrows]

/-- A draft or archived version leaves the active policies and the decisions over them as
they were exactly when it is refused, or its key has no active policy. -/
theorem draft_leaves_active_iff (settings : Settings) (hregistered : w.Registered tenantKey)
    (hstate : change.state = "draft" ∨ change.state = "archived") :
    w.ActiveAsBefore settings tenantKey change ↔
      w.db.policies.NextTaken (w.tenant tenantKey).id change.policyKey ∨
        ∀ row ∈ w.db.policies.currentPolicyRows (w.tenant tenantKey).id "active",
          row.2.policyKey ≠ change.policyKey := by
  have hother : change.state ≠ normalizedPolicySet "active" := by
    rw [normalizedPolicySet_active]
    rcases hstate with hdraft | harchived
    · rw [hdraft]
      decide
    · rw [harchived]
      decide
  rw [← list_unchanged_iff hother, ← policies_run_create hregistered]
  constructor
  · exact World.ActiveAsBefore.listed
  · intro hlisted
    refine ⟨hlisted, ?_⟩
    rintro request rfl hactive htruthful
    rw [policies_run_create hregistered] at hlisted
    exact decided_of_listed htruthful hactive hlisted

end Drafts

section Concrete

attribute [local instance] plainRuntime

attribute [local semireducible] cacheKey

/-- The change as a draft. -/
def PolicyChange.draft (change : PolicyChange) : PolicyChange := { change with state := "draft" }

/-- Beside the active policy for writers, a draft for readers. -/
theorem draft_of_other_key :
    (policyWorld [writersPolicy]).ActiveAsBefore plainSettings "default" readersPolicy.draft := by
  have hregistered := (truthful_policyWorld plainSettings [writersPolicy]).registered
  apply (draft_leaves_active_iff plainSettings hregistered (.inl rfl)).mpr
  right
  decide +kernel

/-- A draft of the active policy for readers: nobody may read any more. -/
theorem draft_hides_active :
    ¬ (policyWorld [readersPolicy]).ActiveAsBefore plainSettings "default" readersPolicy.draft ∧
      (authorize plainSettings (policyWorld [readersPolicy]) readDoc).1.decision.allowed = true ∧
      (authorize plainSettings ((PolicyWrite.create readersPolicy.draft).run "default"
        (authorize plainSettings (policyWorld [readersPolicy]) readDoc).2)
          readDoc).1.decision.allowed = false := by
  have hdecisions : (authorize plainSettings (policyWorld [readersPolicy])
        readDoc).1.decision.allowed = true ∧
      (authorize plainSettings ((PolicyWrite.create readersPolicy.draft).run "default"
        (authorize plainSettings (policyWorld [readersPolicy]) readDoc).2)
          readDoc).1.decision.allowed = false := by
    decide +kernel
  refine ⟨?_, hdecisions⟩
  intro hsame
  have hdecision := hsame.decided readDoc rfl policySetKey_active
    (truthful_policyWorld plainSettings [readersPolicy])
  rw [hdecision, hdecisions.1] at hdecisions
  cases hdecisions.2

end Concrete

end KeyNetra
