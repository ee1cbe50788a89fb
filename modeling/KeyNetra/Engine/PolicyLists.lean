import KeyNetra.Engine.Withdrawal

/-!
# KeyNetra.Engine.PolicyLists — two engines with related policy lists

What a decision depends on in the list of policies, and what one more policy does to it.

* `sortOn_congr` / `candidates_congr` — the candidates of an action are its policies of each
  priority, in list order;
* `order_beyond_priority` — so no other order matters, and no policy of another action;
* `allows_added` — one more allow policy takes no access away, one more deny policy gives none.
-/

namespace KeyNetra

section Lists

variable [PyRuntime]

variable {sources sources' front back : List PolicySource} {policies policies' : List PolicyDefinition}
  {added : PolicySource} {policy : PolicyDefinition} {engine engine' : KeyNetraEngine}
  {input : AuthorizationInput} {override : Option DecisionGraph}

/-! ## The engine of a list -/

/-- The engine of a list of parsed policies. -/
def listEngine (policies : List PolicyDefinition) : KeyNetraEngine :=
  ⟨Lib.sortOn PolicyDefinition.priority policies,
    ⟨(Lib.sortOn PolicyDefinition.priority policies).map PolicyDefinition.node⟩⟩

/-- The constructor returns exactly when every policy parses. -/
theorem new_ok_iff : KeyNetraEngine.new sources = .ok engine ↔
    ∃ policies, sources.mapM PolicySource.parse = .ok policies ∧ engine = listEngine policies := by
  constructor
  · intro h
    have hparsed := h
    unfold KeyNetraEngine.new at hparsed
    rcases Lib.bind_eq_ok.mp hparsed with ⟨policies, hparse, -⟩
    refine ⟨policies, hparse, ?_⟩
    rw [new_eq hparse] at h
    exact (Except.ok.inj h).symm
  · rintro ⟨policies, hparse, rfl⟩
    exact new_eq hparse

/-- Two engines whose policy stages agree decide alike. -/
theorem decide_congr (h : engine'.evaluateCompiledPolicies input override =
    engine.evaluateCompiledPolicies input override) :
    engine'.decide input override = engine.decide input override := by
  unfold KeyNetraEngine.decide
  rw [h]

/-- The loop over the sorted policies is the loop over the candidates. -/
theorem evaluate_listEngine (policies : List PolicyDefinition) (input : AuthorizationInput) :
    (listEngine policies).compiledGraph.evaluate input =
      evaluateNodes input ((candidates policies input.action).map PolicyDefinition.node) none := by
  have hfilter : ((Lib.sortOn PolicyDefinition.priority policies).map
        PolicyDefinition.node).filter (fun node => node.action = input.action) =
      (candidates policies input.action).map PolicyDefinition.node := by
    rw [List.filter_map, candidates, ← Lib.sortOn_filter]
    rfl
  show evaluateNodes input ((Lib.sortOn PolicyDefinition.priority policies).map
    PolicyDefinition.node) none = _
  rw [evaluateNodes_filter, hfilter]

/-! ## Order beyond priority -/

/-- A permutation that keeps the order of the policies sharing both action and priority. -/
structure Reordered (policies policies' : List PolicyDefinition) : Prop where
  perm : policies.Perm policies'
  kept : ∀ (action : String) (priority : Int),
    (policies.filter fun policy => policy.action = action ∧ policy.priority = priority) =
      policies'.filter fun policy => policy.action = action ∧ policy.priority = priority

/-- Policies of other actions have been inserted and removed, nothing else. -/
def SameOfAction (action : String) (policies policies' : List PolicyDefinition) : Prop :=
  (policies.filter fun policy => policy.action = action) =
    policies'.filter fun policy => policy.action = action

omit [PyRuntime] in
/-- The candidates of a reordered list. -/
theorem candidates_of_reordered (h : Reordered policies policies') (action : String) :
    candidates policies action = candidates policies' action := by
  apply Lib.eq_of_filter_key (Lib.pairwise_sortOn PolicyDefinition.priority _)
    (Lib.pairwise_sortOn PolicyDefinition.priority _)
  intro priority
  -- of each priority, both sides list the policies of the action in the order given
  have hkept := h.kept action priority
  rw [Lib.filter_key_sortOn, Lib.filter_key_sortOn, List.filter_filter, List.filter_filter]
  simpa only [Bool.decide_and, Bool.and_comm] using hkept

omit [PyRuntime] in
theorem candidates_of_sameOfAction {action : String} (h : SameOfAction action policies policies') :
    candidates policies action = candidates policies' action := by
  have hfilter : (policies.filter fun policy => policy.action = action) =
    policies'.filter fun policy => policy.action = action := h
  unfold candidates
  rw [hfilter]

/-- Two lists with the same candidates decide alike. -/
theorem decide_of_candidates
    (h : candidates policies input.action = candidates policies' input.action) :
    (listEngine policies').decide input override = (listEngine policies).decide input override := by
  apply decide_congr
  unfold KeyNetraEngine.evaluateCompiledPolicies
  rcases override with _ | graph
  · rw [Option.getD_none, Option.getD_none, evaluate_listEngine, evaluate_listEngine, h]
  · rfl

/-- A decision in which no handler raises is returned. -/
theorem decide_returns (hraise : NoHandlerRaises policies input) :
    ∃ decision, (listEngine policies).decide input = .ok decision := by
  by_cases hverdict : verdict (dataStages input) = .abstain
  · have hdecide := decide_of_abstain hverdict (listEngine policies)
    have hgraph : (listEngine policies).compiledGraph.evaluate input =
        .ok (referenceDecision policies input) := evaluate_sorted_eq_reference hraise
    rw [hgraph] at hdecide
    rcases hdecide with ⟨decision, hdecide, -⟩
    exact ⟨decision, hdecide⟩
  · rcases decide_of_decisive hverdict with ⟨decision, hdecide, -⟩
    exact ⟨decision, hdecide _ none⟩

/-- Reordering policies without exchanging two of one action and priority, or inserting and
removing policies of other actions, leaves the whole decision of every request as it is. -/
theorem order_beyond_priority (hparse : sources.mapM PolicySource.parse = .ok policies)
    (hparse' : sources'.mapM PolicySource.parse = .ok policies') (input : AuthorizationInput)
    (h : Reordered policies policies' ∨ SameOfAction input.action policies policies') :
    ∃ engine engine', KeyNetraEngine.new sources = .ok engine ∧
      KeyNetraEngine.new sources' = .ok engine' ∧
      (∀ override, engine'.decide input override = engine.decide input override) ∧
      (NoHandlerRaises policies input → ∃ decision, engine.decide input = .ok decision) := by
  have hcandidates : candidates policies input.action = candidates policies' input.action := by
    rcases h with hreordered | hsame
    · exact candidates_of_reordered hreordered input.action
    · exact candidates_of_sameOfAction hsame
  refine ⟨listEngine policies, listEngine policies', new_eq hparse, new_eq hparse', ?_, ?_⟩
  · intro override
    exact decide_of_candidates hcandidates
  · intro hraise
    exact decide_returns hraise

/-! ## One more policy -/

/-- The engine allows the request. -/
def KeyNetraEngine.Allows (engine : KeyNetraEngine) (input : AuthorizationInput)
    (override : Option DecisionGraph := none) : Prop :=
  ∃ decision, engine.decide input override = .ok decision ∧ decision.allowed = true

/-- A request's own graph takes the place of the policies. -/
theorem decide_override (graph : DecisionGraph) :
    engine'.decide input (some graph) = engine.decide input (some graph) :=
  decide_congr rfl

/-- The definitions of a list with a marked one. -/
def markedDefinition (policy : PolicyDefinition) : Option PolicyDefinition → PolicyDefinition
  | some other => other
  | none => policy

/-- The engine of some rows is that of their definitions. -/
theorem engineOfRows_eq {α : Type} (definition : α → PolicyDefinition) (rows : List α) :
    engineOfRows definition rows = listEngine (rows.map definition) := by
  unfold engineOfRows graphOf listEngine
  rw [Lib.sortOn_map (fun row => rfl), List.map_map]
  rfl

/-- The list with the marked policy is the longer one, without it the shorter. -/
theorem listEngine_marked (policy : PolicyDefinition) (before after : List PolicyDefinition) :
    engineOfRows (markedDefinition policy) (before.map some ++ none :: after.map some) =
        listEngine (before ++ policy :: after) ∧
      engineOfRows (markedDefinition policy)
          ((before.map some ++ none :: after.map some).filter Option.isSome) =
        listEngine (before ++ after) := by
  have hsome : ∀ policies : List PolicyDefinition,
      (policies.map some).map (markedDefinition policy) = policies := by
    intro policies
    rw [List.map_map]
    exact List.map_id policies
  have hkept : ∀ policies : List PolicyDefinition,
      (policies.map some).filter Option.isSome = policies.map some := by
    intro policies
    rw [List.filter_eq_self]
    intro row hrow
    rcases List.mem_map.mp hrow with ⟨other, -, rfl⟩
    rfl
  constructor
  · rw [engineOfRows_eq, List.map_append, List.map_cons, hsome, hsome]
    rfl
  · rw [List.filter_append, List.filter_cons_of_neg (by simp), hkept, hkept, engineOfRows_eq,
      List.map_append, hsome, hsome]

section Added

variable {before after : List PolicyDefinition} {shorter longer : AuthorizationDecision}

omit [PyRuntime] in
/-- The marked row is the only one left out. -/
theorem effect_marked {effect : Effect} (heffect : policy.effect = effect) :
    ∀ row ∈ before.map some ++ none :: after.map some, row.isSome = false →
      (markedDefinition policy row).effect = effect := by
  intro row _ hrow
  rw [Option.isSome_eq_false_iff, Option.isNone_iff_eq_none] at hrow
  rw [hrow]
  exact heffect

/-- What is denied with one more allow policy is denied without it. -/
theorem denied_without (hallow : policy.effect = .allow)
    (hlonger : (listEngine (before ++ policy :: after)).decide input = .ok longer)
    (hdenied : longer.allowed = false) :
    ∃ shorter, (listEngine (before ++ after)).decide input = .ok shorter ∧
      shorter.allowed = false := by
  have hmarked := listEngine_marked policy before after
  rw [← hmarked.1] at hlonger
  rw [← hmarked.2]
  exact decide_withdraw (effect_marked hallow) hlonger hdenied

/-- What is allowed with one more deny policy is allowed without it. -/
theorem allowed_without (hdeny : policy.effect = .deny)
    (hlonger : (listEngine (before ++ policy :: after)).decide input = .ok longer)
    (hallowed : longer.allowed = true) :
    ∃ shorter, (listEngine (before ++ after)).decide input = .ok shorter ∧
      shorter.allowed = true := by
  have hmarked := listEngine_marked policy before after
  rw [← hmarked.1] at hlonger
  rw [← hmarked.2]
  exact decide_admit (effect_marked hdeny) hlonger hallowed

/-- One more policy, where both engines return: an allow takes no access away, a deny gives
none. -/
theorem allowed_added (hshorter : (listEngine (before ++ after)).decide input = .ok shorter)
    (hlonger : (listEngine (before ++ policy :: after)).decide input = .ok longer) :
    (policy.effect = .allow → shorter.allowed = true → longer.allowed = true) ∧
      (policy.effect = .deny → longer.allowed = true → shorter.allowed = true) := by
  constructor
  · intro hallow hallowed
    rw [← Bool.not_eq_false]
    intro hdenied
    rcases denied_without hallow hlonger hdenied with ⟨other, hother, hdenied'⟩
    rw [hshorter] at hother
    rw [Except.ok.inj hother, hdenied'] at hallowed
    cases hallowed
  · intro hdeny hallowed
    rcases allowed_without hdeny hlonger hallowed with ⟨other, hother, hallowed'⟩
    rw [hshorter] at hother
    rw [Except.ok.inj hother]
    exact hallowed'

/-- One more policy that raises nothing raises nothing new. -/
theorem returns_added (hraise : NoHandlerRaises [policy] input)
    (hshorter : (listEngine (before ++ after)).decide input = .ok shorter) :
    ∃ longer, (listEngine (before ++ policy :: after)).decide input = .ok longer := by
  have hmarked := listEngine_marked policy before after
  have hquiet : Quiet input (fun row => (markedDefinition policy row).node) Option.isSome
      (before.map some ++ none :: after.map some) := by
    intro row _ hrow haction
    rw [Option.isSome_eq_false_iff, Option.isNone_iff_eq_none] at hrow
    rw [hrow] at haction ⊢
    have ⟨result, hresult⟩ := hraise policy List.mem_cons_self haction
    refine ⟨result, ?_⟩
    show policy.node.evaluate input = _
    rw [node_evaluate, hresult]
  rcases hlonger : (listEngine (before ++ policy :: after)).decide input with e | longer
  · rw [← hmarked.1] at hlonger
    have hother := decide_withdraw_error hquiet hlonger
    rw [hmarked.2, hshorter] at hother
    cases hother
  · exact ⟨longer, rfl⟩

/-- One more policy, no handler of which raises: an allow takes no access away, a deny gives
none. -/
theorem allows_added (hraise : NoHandlerRaises [policy] input) :
    (policy.effect = .allow →
        (listEngine (before ++ after)).Allows input override →
          (listEngine (before ++ policy :: after)).Allows input override) ∧
      (policy.effect = .deny →
        (listEngine (before ++ policy :: after)).Allows input override →
          (listEngine (before ++ after)).Allows input override) := by
  rcases override with _ | graph
  · constructor
    · rintro hallow ⟨shorter, hshorter, hallowed⟩
      have ⟨longer, hlonger⟩ := returns_added hraise hshorter
      exact ⟨longer, hlonger, (allowed_added hshorter hlonger).1 hallow hallowed⟩
    · rintro hdeny ⟨longer, hlonger, hallowed⟩
      exact allowed_without hdeny hlonger hallowed
  · -- the request's own graph decides in both engines
    constructor
    · rintro - ⟨decision, hdecide, hallowed⟩
      exact ⟨decision, (decide_override graph).trans hdecide, hallowed⟩
    · rintro - ⟨decision, hdecide, hallowed⟩
      exact ⟨decision, (decide_override graph).trans hdecide, hallowed⟩

end Added

end Lists

/-! ## A concrete reordering -/

section Concrete

attribute [local instance] plainRuntime

theorem reordered_readPolicies : Reordered readPolicies readPolicies.reverse := by
  constructor
  · exact (List.reverse_perm _).symm
  · intro action priority
    -- the two policies have different priorities
    by_cases hfirst : priority = 10
    · subst hfirst
      simp [readPolicies, List.filter_cons]
    · have hother : ¬(10 : Int) = priority := fun h => hfirst h.symm
      simp [readPolicies, List.filter_cons, hother]

/-- The admin's allow and the deny for everyone, listed the other way round. -/
theorem order_readSources :
    ∃ engine engine', KeyNetraEngine.new readSources = .ok engine ∧
      KeyNetraEngine.new readSources.reverse = .ok engine' ∧
      (∀ override, engine'.decide adminRead override = engine.decide adminRead override) ∧
      (NoHandlerRaises readPolicies adminRead →
        ∃ decision, engine.decide adminRead = .ok decision) :=
  order_beyond_priority (show readSources.mapM PolicySource.parse = .ok readPolicies from rfl)
    (show readSources.reverse.mapM PolicySource.parse = .ok readPolicies.reverse from rfl)
    adminRead (.inl reordered_readPolicies)

end Concrete

end KeyNetra
