import KeyNetra.Engine.Pipeline

/-!
# KeyNetra.Engine.Withdrawal — an engine without some of its policies

The policies decide last, and among them the first that holds. Taking out policies
that would allow can only turn an allow into a denial, or bring out what an exception
has hidden; taking out policies that would deny can only turn a denial into an allow.

* `firstHeld` — the first policy that holds, over any rows a graph is built of;
* `decide_firstHeld` — it decides where the data stages abstain;
* `decide_without` / `decide_withdraw_error` — so rows may be left out that would decide
  otherwise, or raise nothing.
-/

namespace KeyNetra

section Withdrawal

variable [PyRuntime]

/-! ## The loop, node by node -/

variable {input : AuthorizationInput} {node : CompiledPolicyNode} {nodes : List CompiledPolicyNode}
  {firstReason reason : Option String}

omit [PyRuntime] in
theorem evaluateNodes_other (h : node.action ≠ input.action) :
    evaluateNodes input (node :: nodes) firstReason = evaluateNodes input nodes firstReason := by
  rw [evaluateNodes, if_pos h]

omit [PyRuntime] in
theorem evaluateNodes_raised (h : node.action = input.action) {e : PyError}
    (he : node.evaluate input = .error e) :
    evaluateNodes input (node :: nodes) firstReason = .error e := by
  rw [evaluateNodes, if_neg (not_not.mpr h), he, Lib.error_bind]

omit [PyRuntime] in
theorem evaluateNodes_failed (h : node.action = input.action)
    (he : node.evaluate input = .ok (false, reason)) :
    evaluateNodes input (node :: nodes) firstReason =
      evaluateNodes input nodes (firstReason.or reason) := by
  rw [evaluateNodes, if_neg (not_not.mpr h), he, Lib.ok_bind]
  rfl

omit [PyRuntime] in
theorem evaluateNodes_held (h : node.action = input.action)
    (he : node.evaluate input = .ok (true, reason)) :
    evaluateNodes input (node :: nodes) firstReason =
      .ok ⟨node.effect.outcome,
        some (orText reason s!"matched policy {orText node.policyId node.action}"),
        node.policyId⟩ := by
  rw [evaluateNodes, if_neg (not_not.mpr h), he, Lib.ok_bind]
  rfl

/-! ## The first policy that holds -/

/-- The policy is one of the request's action, and its conditions hold. -/
def PolicyDefinition.holds (policy : PolicyDefinition) (input : AuthorizationInput) :
    Except PyError Bool :=
  if policy.action = input.action then (evaluateConditions policy.checked input).map Prod.fst
  else .ok false

omit [PyRuntime] in
theorem Effect.outcome_eq_allow (effect : Effect) : effect.outcome = .allow ↔ effect = .allow := by
  rcases effect with _ | _
  · simp [Effect.outcome]
  · simp [Effect.outcome]

section FirstHeld

variable {α β : Type} {definition : α → PolicyDefinition} {kept : α → Bool} {rows : List α}

/-- The loop over the nodes of some rows ends at the first row that holds. -/
theorem evaluateNodes_findM? (reason : Option String) :
    match rows.findM? fun row => (definition row).holds input with
    | .error e =>
        evaluateNodes input (rows.map fun row => (definition row).node) reason = .error e
    | .ok held => ∃ result,
        evaluateNodes input (rows.map fun row => (definition row).node) reason = .ok result ∧
          (result.outcome = .allow ↔ ∃ row, held = some row ∧ (definition row).effect = .allow) := by
  induction rows generalizing reason with
  | nil =>
      -- nothing held: the first failure denies, or nobody has decided
      rcases reason with _ | text
      · exact ⟨_, rfl, by simp⟩
      · exact ⟨_, rfl, by simp⟩
  | cons row rows ih =>
      rw [List.map_cons]
      by_cases haction : (definition row).action = input.action
      · have hholds : (definition row).holds input =
            (evaluateConditions (definition row).checked input).map Prod.fst := if_pos haction
        have hnode := node_evaluate (definition row) input
        rcases heval : evaluateConditions (definition row).checked input with e | ⟨matched, r⟩
        · have hraised : (definition row).holds input = .error e := by rw [hholds, heval]; rfl
          rw [heval] at hnode
          rw [@Lib.findM?_raised _ _ (fun row => (definition row).holds input) _ _ _ hraised]
          exact evaluateNodes_raised haction hnode
        · have hpassed : (definition row).holds input = .ok matched := by rw [hholds, heval]; rfl
          rw [heval] at hnode
          rcases matched with _ | _
          · rw [@Lib.findM?_failed _ _ (fun row => (definition row).holds input) _ _ hpassed,
              evaluateNodes_failed haction hnode]
            exact ih _
          · rw [@Lib.findM?_passed _ _ (fun row => (definition row).holds input) _ _ hpassed,
              evaluateNodes_held haction hnode]
            refine ⟨_, rfl, (Effect.outcome_eq_allow (definition row).effect).trans ?_⟩
            simp
      · have hholds : (definition row).holds input = .ok false := if_neg haction
        have hother : (definition row).node.action ≠ input.action := haction
        rw [@Lib.findM?_failed _ _ (fun row => (definition row).holds input) _ _ hholds,
          evaluateNodes_other hother]
        exact ih _

/-- The first row, by priority, whose policy holds. -/
def firstHeld (definition : α → PolicyDefinition) (input : AuthorizationInput) (rows : List α) :
    Except PyError (Option α) :=
  (Lib.sortOn (fun row => (definition row).priority) rows).findM? fun row =>
    (definition row).holds input

/-- Rows mapped to others whose policies hold alike. -/
theorem firstHeld_map {f : α → β} {definition' : β → PolicyDefinition}
    (hpriority : ∀ row, (definition' (f row)).priority = (definition row).priority)
    (hholds : ∀ row, (definition' (f row)).holds input = (definition row).holds input)
    (rows : List α) :
    firstHeld definition' input (rows.map f) =
      (firstHeld definition input rows).map (Option.map f) := by
  have hsorted : Lib.sortOn (fun row => (definition' row).priority) (rows.map f) =
      (Lib.sortOn (fun row => (definition row).priority) rows).map f := by
    apply Lib.sortOn_map
    exact hpriority
  unfold firstHeld
  rw [hsorted, Lib.findM?_map]
  simp only [hholds]

end FirstHeld

/-! ## The engine -/

variable {α : Type} {definition : α → PolicyDefinition} {kept : α → Bool} {rows : List α}

/-- The graph of the definitions of some rows. -/
def graphOf (definition : α → PolicyDefinition) (rows : List α) : DecisionGraph :=
  ⟨(Lib.sortOn (fun row => (definition row).priority) rows).map fun row => (definition row).node⟩

/-- The engine of the definitions of some rows. -/
def engineOfRows (definition : α → PolicyDefinition) (rows : List α) : KeyNetraEngine :=
  ⟨Lib.sortOn PolicyDefinition.priority (rows.map definition), graphOf definition rows⟩

/-- Definitions parse as they are, so the constructor gives that engine. -/
theorem new_of_rows (definition : α → PolicyDefinition) (rows : List α) :
    KeyNetraEngine.new (rows.map fun row => .definition (definition row)) =
      .ok (engineOfRows definition rows) := by
  have hparse : (rows.map fun row => PolicySource.definition (definition row)).mapM
      PolicySource.parse = .ok (rows.map definition) := by
    rw [List.mapM_map]
    exact Lib.mapM_ok definition rows
  rw [new_eq hparse]
  unfold engineOfRows graphOf
  rw [Lib.sortOn_map (fun row => rfl), List.map_map]
  rfl

/-- When the data stages abstain, the first policy that holds decides. -/
theorem decide_firstHeld (hverdict : verdict (dataStages input) = .abstain)
    (definition : α → PolicyDefinition) (rows : List α) :
    match firstHeld definition input rows with
    | .error e => (engineOfRows definition rows).decide input = .error e
    | .ok held => ∃ decision, (engineOfRows definition rows).decide input = .ok decision ∧
        (decision.allowed = true ↔ ∃ row, held = some row ∧ (definition row).effect = .allow) := by
  have hdecide := decide_of_abstain hverdict (engineOfRows definition rows)
  have hloop : match firstHeld definition input rows with
      | .error e => (engineOfRows definition rows).compiledGraph.evaluate input = .error e
      | .ok held => ∃ result,
          (engineOfRows definition rows).compiledGraph.evaluate input = .ok result ∧
            (result.outcome = .allow ↔ ∃ row, held = some row ∧
              (definition row).effect = .allow) := evaluateNodes_findM? none
  rcases hfirst : firstHeld definition input rows with e | held
  · rw [hfirst] at hloop
    rw [hloop] at hdecide
    exact hdecide
  · rw [hfirst] at hloop
    rcases hloop with ⟨result, hresult, hallows⟩
    rw [hresult] at hdecide
    rcases hdecide with ⟨decision, hdecision, hallowed⟩
    exact ⟨decision, hdecision, hallowed.trans hallows⟩

/-! ## Without some of the rows -/

/-- The rows left out raise nothing on the input. -/
def Quiet (input : AuthorizationInput) (nodeOf : α → CompiledPolicyNode) (kept : α → Bool)
    (rows : List α) : Prop :=
  ∀ row ∈ rows, kept row = false → (nodeOf row).action = input.action →
    ∃ result, (nodeOf row).evaluate input = .ok result

/-- The first row that holds is found as well when only others are left out. -/
theorem firstHeld_filter {kept : α → Bool} {held : Option α}
    (h : firstHeld definition input rows = .ok held) (hkept : ∀ row, held = some row → kept row) :
    firstHeld definition input (rows.filter kept) = .ok held := by
  unfold firstHeld at h ⊢
  rw [← Lib.sortOn_filter]
  exact Lib.findM?_filter h hkept

/-- An exception before any row holds is raised as well when only quiet rows are left out. -/
theorem firstHeld_quiet {e : PyError} (h : firstHeld definition input rows = .error e)
    (hquiet : Quiet input (fun row => (definition row).node) kept rows) :
    firstHeld definition input (rows.filter kept) = .error e := by
  unfold firstHeld at h ⊢
  rw [← Lib.sortOn_filter]
  apply Lib.findM?_filter_raised h
  intro row hrow hdropped
  unfold PolicyDefinition.holds
  by_cases haction : (definition row).action = input.action
  · rcases hquiet row (Lib.mem_sortOn.mp hrow) hdropped haction with ⟨result, hresult⟩
    rw [node_evaluate] at hresult
    rw [if_pos haction, hresult]
    exact ⟨result.1, rfl⟩
  · rw [if_neg haction]
    exact ⟨false, rfl⟩

/-- A decision stays what it is without rows that would decide otherwise. -/
theorem decide_without {decision : AuthorizationDecision}
    (h : (engineOfRows definition rows).decide input = .ok decision)
    (hother : ∀ row ∈ rows, kept row = false →
      ¬ (decision.allowed = true ↔ (definition row).effect = .allow)) :
    ∃ decision', (engineOfRows definition (rows.filter kept)).decide input = .ok decision' ∧
      decision'.allowed = decision.allowed := by
  by_cases hverdict : verdict (dataStages input) = .abstain
  · have hwhole := decide_firstHeld hverdict definition rows
    have hpart := decide_firstHeld hverdict definition (rows.filter kept)
    rcases hfirst : firstHeld definition input rows with e | held
    · rw [hfirst] at hwhole
      rw [h] at hwhole
      cases hwhole
    · rw [hfirst] at hwhole
      rcases hwhole with ⟨decision₀, hdecide, hallows⟩
      rw [h] at hdecide
      rw [← Except.ok.inj hdecide] at hallows
      -- the row that decides is none of those left out
      have hkept : ∀ row, held = some row → kept row := by
        intro row hheld
        rw [hheld] at hfirst hallows
        rw [← Bool.not_eq_false]
        intro hdropped
        apply hother row (Lib.mem_sortOn.mp (Lib.mem_of_findM? hfirst)) hdropped
        rw [hallows]
        simp
      rw [firstHeld_filter hfirst hkept] at hpart
      rcases hpart with ⟨decision', hdecide', hallows'⟩
      refine ⟨decision', hdecide', ?_⟩
      rw [Bool.eq_iff_iff, hallows', hallows]
  · -- a data stage decides, whatever the policies
    rcases decide_of_decisive hverdict with ⟨decision', hdecide, -⟩
    have hsame := (hdecide (engineOfRows definition rows) none).symm.trans h
    exact ⟨decision', hdecide _ none, congrArg _ (Except.ok.inj hsame)⟩

/-- A denial stays one without some allow policies. -/
theorem decide_withdraw {decision : AuthorizationDecision}
    (hallow : ∀ row ∈ rows, kept row = false → (definition row).effect = .allow)
    (h : (engineOfRows definition rows).decide input = .ok decision)
    (hdenied : decision.allowed = false) :
    ∃ decision', (engineOfRows definition (rows.filter kept)).decide input = .ok decision' ∧
      decision'.allowed = false := by
  rw [← hdenied]
  apply decide_without h
  intro row hrow hdropped
  rw [hdenied, hallow row hrow hdropped]
  decide

/-- An allow stays one without some deny policies. -/
theorem decide_admit {decision : AuthorizationDecision}
    (hdeny : ∀ row ∈ rows, kept row = false → (definition row).effect = .deny)
    (h : (engineOfRows definition rows).decide input = .ok decision)
    (hallowed : decision.allowed = true) :
    ∃ decision', (engineOfRows definition (rows.filter kept)).decide input = .ok decision' ∧
      decision'.allowed = true := by
  rw [← hallowed]
  apply decide_without h
  intro row hrow hdropped
  rw [hallowed, hdeny row hrow hdropped]
  decide

/-- An exception stays one without policies that raise nothing. -/
theorem decide_withdraw_error {e : PyError}
    (hquiet : Quiet input (fun row => (definition row).node) kept rows)
    (h : (engineOfRows definition rows).decide input = .error e) :
    (engineOfRows definition (rows.filter kept)).decide input = .error e := by
  by_cases hverdict : verdict (dataStages input) = .abstain
  · have hwhole := decide_firstHeld hverdict definition rows
    have hpart := decide_firstHeld hverdict definition (rows.filter kept)
    rcases hfirst : firstHeld definition input rows with e' | held
    · rw [hfirst] at hwhole
      rw [firstHeld_quiet hfirst hquiet] at hpart
      rw [hpart, ← hwhole, h]
    · rw [hfirst] at hwhole
      rcases hwhole with ⟨decision, hdecide, -⟩
      rw [h] at hdecide
      cases hdecide
  · rcases decide_of_decisive hverdict with ⟨decision, hdecide, -⟩
    rw [hdecide] at h
    cases h

end Withdrawal

end KeyNetra
