import KeyNetra.Engine.PolicyLists

/-!
# KeyNetra.Engine.Removal — a policy left out of the list

In a list sorted by priority the first policy that a request meets decides, and its id is reported.
So a policy can be left out without a change exactly when no request meets it first.

* `decide_firstMet` — the decision, and the policy id it reports;
* `removal_neutral_iff` — a policy is of no consequence iff an earlier one is met wherever it is.
-/

namespace KeyNetra

section Removal

variable [PyRuntime] {policies before after : List PolicyDefinition} {policy : PolicyDefinition}
  {input : AuthorizationInput}

/-- The policy is for the action of the request, and its conditions hold. -/
def PolicyDefinition.meets (policy : PolicyDefinition) (input : AuthorizationInput) : Bool :=
  decide (policy.action = input.action) && (policy.verdict input).1

/-- The first policy that the request meets. -/
def firstMet (policies : List PolicyDefinition) (input : AuthorizationInput) :
    Option PolicyDefinition :=
  policies.find? fun policy => policy.meets input

/-- In a sorted list the candidates come in list order. -/
theorem firstMet_candidates (hsorted : policies.Pairwise fun p q => p.priority ≤ q.priority) :
    ((candidates policies input.action).find? fun policy => (policy.verdict input).1) =
      firstMet policies input := by
  have hmeets : ∀ policy : PolicyDefinition,
      decide (decide (policy.action = input.action) = true ∧ (policy.verdict input).1 = true) =
        policy.meets input := by
    intro policy
    simp [PolicyDefinition.meets]
  unfold candidates firstMet
  rw [Lib.sortOn_eq_self (hsorted.filter _), List.find?_filter]
  simp only [hmeets]

/-- What the reference interpreter reports. -/
theorem referenceDecision_firstMet (hsorted : policies.Pairwise fun p q => p.priority ≤ q.priority) :
    (referenceDecision policies input).policyId =
        (firstMet policies input).map PolicyDefinition.reportedId ∧
      ((referenceDecision policies input).outcome = .allow ↔
        ∃ policy, firstMet policies input = some policy ∧ policy.effect = .allow) := by
  unfold referenceDecision
  dsimp only
  rw [firstMet_candidates hsorted]
  cases firstMet policies input with
  | some policy =>
      refine ⟨rfl, (Effect.outcome_eq_allow policy.effect).trans ?_⟩
      simp
  | none =>
      cases (candidates policies input.action).head? with
      | some policy => simp
      | none => simp

/-- The policies decide when the data stages abstain, and the decision reports their policy. -/
theorem decide_reports (hleft : verdict (dataStages input) = .abstain) {engine : KeyNetraEngine}
    {result : GraphDecision} (h : engine.compiledGraph.evaluate input = .ok result)
    (habstain : result.outcome = .abstain → result.policyId = none) :
    ∃ decision, engine.decide input = .ok decision ∧
      (decision.allowed = true ↔ result.outcome = .allow) ∧
      decision.policyId = result.policyId := by
  have ⟨trace, hrun⟩ := runStages_of_abstain hleft (startTrace input)
  unfold KeyNetraEngine.decide KeyNetraEngine.evaluateCompiledPolicies
  rw [hrun, Option.getD_none, h]
  simp only [Lib.ok_bind]
  by_cases houtcome : result.outcome = .abstain
  · refine ⟨_, by simp [graphStage, houtcome, runStages, Stage.ofResult]; rfl, ?_, ?_⟩
    · simp [defaultDecision, houtcome]
    · simp [defaultDecision, habstain houtcome]
  · refine ⟨_, by simp [graphStage, houtcome, runStages, Stage.ofResult]; rfl, ?_, ?_⟩
    · simp [decisionFromStage]
    · simp [decisionFromStage]

/-- A decision left to the policies is that of the first policy met. -/
theorem decide_firstMet (hsorted : policies.Pairwise fun p q => p.priority ≤ q.priority)
    (hleft : verdict (dataStages input) = .abstain) (hraise : NoHandlerRaises policies input) :
    ∃ decision, (listEngine policies).decide input = .ok decision ∧
      (decision.allowed = true ↔
        ∃ policy, firstMet policies input = some policy ∧ policy.effect = .allow) ∧
      decision.policyId = (firstMet policies input).map PolicyDefinition.reportedId := by
  have ⟨hid, hallow⟩ := @referenceDecision_firstMet _ policies input hsorted
  have hgraph : (listEngine policies).compiledGraph.evaluate input =
      .ok (referenceDecision policies input) := evaluate_sorted_eq_reference hraise
  have habstain : (referenceDecision policies input).outcome = .abstain →
      (referenceDecision policies input).policyId = none := by
    unfold referenceDecision
    dsimp only
    cases (candidates policies input.action).find? fun policy => (policy.verdict input).1 with
    | some policy =>
        intro houtcome
        dsimp only at houtcome
        cases heffect : policy.effect <;> rw [heffect] at houtcome <;> cases houtcome
    | none =>
        intro _
        cases (candidates policies input.action).head? <;> rfl
  have ⟨decision, hdecide, hallowed, hreported⟩ := decide_reports hleft hgraph habstain
  exact ⟨decision, hdecide, hallowed.trans hallow, hreported.trans hid⟩

/-! ## Leaving one out -/

/-- Every request on which no handler raises gets the same answer, from the same policy. -/
def RemovalNeutral (policies removed : List PolicyDefinition) : Prop :=
  ∀ engine engine', KeyNetraEngine.new (policies.map .definition) = .ok engine →
    KeyNetraEngine.new (removed.map .definition) = .ok engine' →
    ∀ input, NoHandlerRaises policies input → ∃ decision decision',
      engine.decide input = .ok decision ∧ engine'.decide input = .ok decision' ∧
        decision'.allowed = decision.allowed ∧ decision'.policyId = decision.policyId

/-- Wherever the policy is met, and left to decide, an earlier one is met as well. -/
def Masked (before : List PolicyDefinition) (policy : PolicyDefinition)
    (policies : List PolicyDefinition) : Prop :=
  ∀ input, verdict (dataStages input) = .abstain → NoHandlerRaises policies input →
    policy.meets input = true → ∃ earlier ∈ before, earlier.meets input = true

theorem new_definitions (policies : List PolicyDefinition) :
    KeyNetraEngine.new (policies.map .definition) = .ok (listEngine policies) := by
  refine new_eq ?_
  rw [List.mapM_map]
  exact (Lib.mapM_ok id policies).trans (by rw [List.map_id])

/-- A policy of its own id can be left out of a sorted list iff it is never met first. -/
theorem removal_neutral_iff
    (hsorted : (before ++ policy :: after).Pairwise fun p q => p.priority ≤ q.priority)
    (hids : ∀ other ∈ before ++ after, other.reportedId ≠ policy.reportedId) :
    RemovalNeutral (before ++ policy :: after) (before ++ after) ↔
      Masked before policy (before ++ policy :: after) := by
  have hsublist : (before ++ after).Sublist (before ++ policy :: after) :=
    (List.sublist_cons_self policy after).append_left before
  have hsorted' := hsorted.sublist hsublist
  have hquiet : ∀ {input}, NoHandlerRaises (before ++ policy :: after) input →
      NoHandlerRaises (before ++ after) input := by
    intro input hraise other hother
    exact hraise other (hsublist.subset hother)
  constructor
  · intro hneutral input hleft hraise hmet
    by_contra hnone
    have hbefore : firstMet before input = none := by
      unfold firstMet
      rw [List.find?_eq_none]
      intro earlier hearlier hearlierMet
      exact hnone ⟨earlier, hearlier, hearlierMet⟩
    have hfirst : firstMet (before ++ policy :: after) input = some policy := by
      unfold firstMet at hbefore ⊢
      rw [List.find?_append, hbefore, Option.none_or, List.find?_cons, hmet]
    obtain ⟨decision, hdecide, _, hid⟩ := decide_firstMet hsorted hleft hraise
    obtain ⟨decision', hdecide', _, hid'⟩ := decide_firstMet hsorted' hleft (hquiet hraise)
    obtain ⟨d, d', hd, hd', _, hsameId⟩ :=
      hneutral _ _ (new_definitions _) (new_definitions _) input hraise
    rw [hdecide] at hd
    rw [hdecide'] at hd'
    cases hd
    cases hd'
    -- without the policy another one is reported, or none
    rw [hid, hid', hfirst] at hsameId
    obtain ⟨other, hother, hreported⟩ := Option.map_eq_some_iff.mp hsameId
    exact hids other (List.mem_of_find?_eq_some hother) hreported
  · intro hmasked engine engine' hengine hengine' input hraise
    rw [new_definitions] at hengine hengine'
    cases hengine
    cases hengine'
    by_cases hleft : verdict (dataStages input) = .abstain
    · have hfirst : firstMet (before ++ after) input =
          firstMet (before ++ policy :: after) input := by
        unfold firstMet
        rw [List.find?_append, List.find?_append, List.find?_cons]
        cases hmet : policy.meets input with
        | false => rfl
        | true =>
            obtain ⟨earlier, hearlier, hearlierMet⟩ := hmasked input hleft hraise hmet
            cases hfound : before.find? fun policy => policy.meets input with
            | none => exact absurd hearlierMet (List.find?_eq_none.mp hfound earlier hearlier)
            | some found => rfl
      obtain ⟨decision, hdecide, hallowed, hid⟩ := decide_firstMet hsorted hleft hraise
      obtain ⟨decision', hdecide', hallowed', hid'⟩ :=
        decide_firstMet hsorted' hleft (hquiet hraise)
      refine ⟨decision, decision', hdecide, hdecide', ?_, ?_⟩
      · rw [Bool.eq_iff_iff, hallowed, hallowed', hfirst]
      · rw [hid, hid', hfirst]
    · obtain ⟨decision, hdecide, _⟩ := decide_of_decisive hleft
      exact ⟨decision, decision, hdecide _ none, hdecide _ none, rfl, rfl⟩

end Removal

end KeyNetra
