import KeyNetra.Engine.Conditions
import KeyNetra.Lib.StableSort

/-!
# KeyNetra.Engine.PolicyGraph — policies compiled into a decision graph

The engine parses its policies, sorts them by priority, writes each back to a
dictionary, and compiles the dictionaries into nodes: normalised again, sorted
again, each node closing over its own condition loop.

* `PolicyDefinition.fromDict` / `PolicyAST.fromDict` — the two normalisations;
* `compilePolicyGraph` / `DecisionGraph.evaluate` — the compiled graph;
* `referenceDecision` — the reference interpreter: the policies of the action by
  ascending priority, ties in list order, the first one that holds decides;
* `policy_stage_eq_reference` — the engine's policy stage is that interpreter.
-/

namespace KeyNetra

section Graph

variable [PyRuntime]

/-! ## Policies -/

/-- A policy evaluated by the engine. -/
structure PolicyDefinition where
  action : String
  effect : Effect := .deny
  conditions : Dict := []
  priority : Int := 100
  policyId : Option String := none

/-- `PolicyDefinition.from_dict`; only `int(priority)` can raise. -/
def PolicyDefinition.fromDict (raw : Dict) : Except PyError PolicyDefinition := do
  let priority ← (Dict.getD raw "priority" (.int 100)).toInt
  .ok
    { action := (Dict.getD raw "action" (.str "")).text
      effect := .ofText (Dict.getD raw "effect" (.str "deny")).text
      conditions :=
        match Dict.get raw "conditions" with
        | .dict conditions => conditions
        | _ => []
      priority := priority
      policyId := (Dict.get raw "policy_id").optText }

/-- An element of the engine's policy list. -/
inductive PolicySource where
  | definition (policy : PolicyDefinition)
  | raw (policy : Dict)

def PolicySource.parse : PolicySource → Except PyError PolicyDefinition
  | .definition policy => .ok policy
  | .raw policy => PolicyDefinition.fromDict policy

/-- The dictionary the constructor hands to the compiler. -/
def PolicyDefinition.toDict (policy : PolicyDefinition) : Dict :=
  [("action", .str policy.action), ("effect", .str policy.effect.text),
    ("priority", .int policy.priority), ("conditions", .dict policy.conditions),
    ("policy_id", .ofOption policy.policyId)]

/-! ## Compilation -/

structure PolicyAST where
  action : String
  effect : Effect
  priority : Int
  policyId : Option String
  conditions : Dict

/-- The list comprehension of `compile_policy_graph`. -/
def PolicyAST.fromDict (policy : Dict) : Except PyError PolicyAST := do
  let priority ← (Dict.getD policy "priority" (.int 100)).toInt
  let conditions ←
    match (Dict.get policy "conditions").pyOr (.dict []) with
    | .dict conditions => .ok conditions
    | _ => .error (.typeError "conditions is not a dictionary")
  .ok
    { action := (Dict.getD policy "action" (.str "")).text
      effect := .ofText (Dict.getD policy "effect" (.str "deny")).text
      priority := priority
      policyId := (Dict.get policy "policy_id").optText
      conditions := conditions }

/-- A compiled policy. -/
structure CompiledPolicyNode where
  policyId : Option String
  action : String
  effect : Effect
  priority : Int
  evaluate : AuthorizationInput → Except PyError ConditionResult

/-- The loop of a compiled node over its checks. -/
def evaluateChecks (input : AuthorizationInput) :
    List (String × Value) → Except PyError ConditionResult
  | [] => .ok (true, none)
  | (key, value) :: checks =>
      match conditionHandler key with
      | none => .ok (false, some s!"unknown condition: {key}")
      | some handler => do
          let (matched, reason) ← handler value input
          if !matched then .ok (false, some (orText reason s!"{key} mismatch"))
          else evaluateChecks input checks

/-- `policy_id or f"{action}:{priority}:{effect}"`. -/
def policyIdOr (policyId : Option String) (action : String) (priority : Int) (effect : Effect) :
    String :=
  orText policyId s!"{action}:{priority}:{effect.text}"

/-- `compile_policy_ast`: the metadata key `policy_key` is not a condition. -/
def compilePolicyAst (ast : PolicyAST) : CompiledPolicyNode :=
  let checks := ast.conditions.filter fun (key, _) => key ∉ ["policy_key"]
  { policyId := some (policyIdOr ast.policyId ast.action ast.priority ast.effect)
    action := ast.action
    effect := ast.effect
    priority := ast.priority
    evaluate := fun input => evaluateChecks input checks }

structure DecisionGraph where
  nodes : List CompiledPolicyNode := []

/-- `compile_policy_graph`. -/
def compilePolicyGraph (policies : List Dict) : Except PyError DecisionGraph := do
  let astNodes ← policies.mapM PolicyAST.fromDict
  .ok ⟨(Lib.sortOn PolicyAST.priority astNodes).map compilePolicyAst⟩

/-! ## Evaluation -/

structure GraphDecision where
  outcome : Outcome
  reason : Option String
  policyId : Option String
deriving DecidableEq, Repr

/-- The loop of `DecisionGraph.evaluate`, with the first failure reason so far. -/
def evaluateNodes (input : AuthorizationInput) :
    List CompiledPolicyNode → Option String → Except PyError GraphDecision
  | [], some firstReason => .ok ⟨.deny, some firstReason, none⟩
  | [], none => .ok ⟨.abstain, none, none⟩
  | node :: nodes, firstReason =>
      if node.action ≠ input.action then evaluateNodes input nodes firstReason
      else do
        let (matched, reason) ← node.evaluate input
        if matched then
          .ok ⟨node.effect.outcome,
            some (orText reason s!"matched policy {orText node.policyId node.action}"),
            node.policyId⟩
        else evaluateNodes input nodes (firstReason.or reason)

/-- `DecisionGraph.evaluate`. -/
def DecisionGraph.evaluate (graph : DecisionGraph) (input : AuthorizationInput) :
    Except PyError GraphDecision :=
  evaluateNodes input graph.nodes none

/-- The policies of an engine, with the graph compiled from them. -/
structure KeyNetraEngine where
  policies : List PolicyDefinition
  compiledGraph : DecisionGraph

/-- `KeyNetraEngine.__init__`. -/
def KeyNetraEngine.new (policies : List PolicySource)
    (compiledGraph : Option DecisionGraph := none) : Except PyError KeyNetraEngine := do
  let parsed ← policies.mapM PolicySource.parse
  let sorted := Lib.sortOn PolicyDefinition.priority parsed
  let graph ←
    match compiledGraph with
    | some graph => .ok graph
    | none => compilePolicyGraph (sorted.map PolicyDefinition.toDict)
  .ok ⟨sorted, graph⟩

/-- One step of the explain trace. -/
structure ExplainTraceStep where
  step : String
  outcome : String
  detail : String
  policyId : Option String := none
deriving DecidableEq, Repr

/-- What a stage returns, and the trace steps it appends. -/
structure StageResult where
  outcome : Outcome
  reason : Option String
  policyId : Option String
  trace : List ExplainTraceStep
deriving DecidableEq, Repr

/-- The stage made of a graph's decision. -/
def graphStage (step abstained : String) (outcome : Outcome) (reason policyId : Option String) :
    StageResult :=
  if outcome = .abstain then
    ⟨.abstain, none, none, [⟨step, "abstain", abstained, none⟩]⟩
  else
    ⟨outcome, reason, policyId,
      [⟨step, outcome.text, orText reason s!"decision {outcome.text}", policyId⟩]⟩

/-- `KeyNetraEngine._evaluate_compiled_policies`; `override` is the request's
own `compiled_graph`, when it has one. -/
def KeyNetraEngine.evaluateCompiledPolicies (engine : KeyNetraEngine)
    (input : AuthorizationInput) (override : Option DecisionGraph := none) :
    Except PyError StageResult := do
  let decision ← (override.getD engine.compiledGraph).evaluate input
  .ok (graphStage "policy_graph" "no matching policy node" decision.outcome decision.reason
    decision.policyId)

/-! ## The reference interpreter -/

/-- The identifier a decision reports for a policy. -/
def PolicyDefinition.reportedId (policy : PolicyDefinition) : String :=
  policyIdOr policy.policyId policy.action policy.priority policy.effect

omit [PyRuntime] in
theorem reportedId_ne_empty (policy : PolicyDefinition) : policy.reportedId ≠ "" := by
  unfold PolicyDefinition.reportedId policyIdOr orText
  have hdefault : s!"{policy.action}:{policy.priority}:{policy.effect.text}" ≠ "" := by
    intro h
    have hcolon : toString ":" = "" := (String.append_eq_empty_iff.mp
      (String.append_eq_empty_iff.mp h).1).2
    exact absurd hcolon (by decide)
  split
  · exact hdefault
  · split
    · exact hdefault
    · assumption

/-- The policy's conditions, without the metadata key. -/
def PolicyDefinition.checked (policy : PolicyDefinition) : Dict :=
  policy.conditions.filter fun (key, _) => key ≠ "policy_key"

/-- The interpreter's verdict on one policy (no condition handler raises). -/
def PolicyDefinition.verdict (policy : PolicyDefinition) (input : AuthorizationInput) :
    ConditionResult :=
  match evaluateConditions policy.checked input with
  | .ok result => result
  | .error _ => (false, none)

/-- No condition handler raises on the policies tried for a request. -/
def NoHandlerRaises (policies : List PolicyDefinition) (input : AuthorizationInput) : Prop :=
  ∀ policy ∈ policies, policy.action = input.action →
    ∃ result, evaluateConditions policy.checked input = .ok result

/-- The policies of the request's action, by ascending priority, ties in list order. -/
def candidates (policies : List PolicyDefinition) (action : String) : List PolicyDefinition :=
  Lib.sortOn PolicyDefinition.priority (policies.filter fun policy => policy.action = action)

/-- The reference interpreter. -/
def referenceDecision (policies : List PolicyDefinition) (input : AuthorizationInput) :
    GraphDecision :=
  let tried := candidates policies input.action
  match tried.find? fun policy => (policy.verdict input).1 with
  | some policy =>
      ⟨policy.effect.outcome, some s!"matched policy {policy.reportedId}", some policy.reportedId⟩
  | none =>
      match tried.head? with
      | some policy => ⟨.deny, (policy.verdict input).2, none⟩
      | none => ⟨.abstain, none, none⟩

/-! ## Lemmas on the normalisations -/

/-- The loader's normalisation changes nothing in a definition written back. -/
theorem PolicyDefinition.fromDict_toDict (policy : PolicyDefinition) :
    PolicyDefinition.fromDict policy.toDict = .ok policy := by
  obtain ⟨action, effect, conditions, priority, policyId⟩ := policy
  cases effect <;> cases policyId <;> rfl

/-- The node of a parsed policy. -/
def PolicyDefinition.ast (policy : PolicyDefinition) : PolicyAST :=
  ⟨policy.action, policy.effect, policy.priority, policy.policyId, policy.conditions⟩

/-- The second normalisation never raises and changes nothing. -/
theorem fromDict_toDict (policy : PolicyDefinition) :
    PolicyAST.fromDict policy.toDict = .ok policy.ast := by
  have hpriority : Dict.getD policy.toDict "priority" (.int 100) = .int policy.priority := rfl
  have hconditions : (Dict.get policy.toDict "conditions").pyOr (.dict []) =
      .dict policy.conditions := by
    show (Value.dict policy.conditions).pyOr (.dict []) = _
    cases hc : policy.conditions <;> simp [Value.pyOr, Value.truthy]
  have haction : Dict.getD policy.toDict "action" (.str "") = .str policy.action := rfl
  have heffect : Dict.getD policy.toDict "effect" (.str "deny") = .str policy.effect.text := rfl
  have hid : Dict.get policy.toDict "policy_id" = .ofOption policy.policyId := rfl
  unfold PolicyAST.fromDict
  rw [hpriority, hconditions, haction, heffect, hid]
  simp [Value.toInt, PolicyDefinition.ast]

/-- The two condition loops agree. -/
theorem evaluateChecks_eq (input : AuthorizationInput) (checks : Dict) :
    evaluateChecks input checks = evaluateConditions checks input := by
  induction checks with
  | nil => rfl
  | cons check checks ih =>
      obtain ⟨key, value⟩ := check
      rw [evaluateChecks, evaluateConditions]
      cases conditionHandler key with
      | none => rfl
      | some handler =>
          cases hresult : handler value input with
          | error e => simp [hresult]
          | ok result =>
              rcases result with ⟨matched, reason⟩
              cases matched with
              | true => simp [hresult, ih]
              | false => simp [hresult]

/-- The compiled form of a policy. -/
def PolicyDefinition.node (policy : PolicyDefinition) : CompiledPolicyNode :=
  compilePolicyAst policy.ast

theorem node_evaluate (policy : PolicyDefinition) (input : AuthorizationInput) :
    policy.node.evaluate input = evaluateConditions policy.checked input := by
  have hchecks : policy.conditions.filter (fun (key, _) => key ∉ ["policy_key"]) =
      policy.checked := by
    simp [PolicyDefinition.checked]
  show evaluateChecks input _ = _
  rw [evaluateChecks_eq]
  exact congrArg (evaluateConditions · input) hchecks

/-- The graph of parsed policies holds their nodes in priority order: the second
sort changes nothing. -/
theorem compilePolicyGraph_sorted (policies : List PolicyDefinition) :
    compilePolicyGraph ((Lib.sortOn PolicyDefinition.priority policies).map
      PolicyDefinition.toDict) =
      .ok ⟨(Lib.sortOn PolicyDefinition.priority policies).map PolicyDefinition.node⟩ := by
  have hnodes : ((Lib.sortOn PolicyDefinition.priority policies).map
      PolicyDefinition.toDict).mapM PolicyAST.fromDict =
      .ok ((Lib.sortOn PolicyDefinition.priority policies).map PolicyDefinition.ast) := by
    rw [List.mapM_map]
    have hfun : PolicyAST.fromDict ∘ PolicyDefinition.toDict =
        fun policy => .ok policy.ast := funext fromDict_toDict
    rw [hfun]
    exact Lib.mapM_ok PolicyDefinition.ast _
  have hsort : Lib.sortOn PolicyAST.priority
      ((Lib.sortOn PolicyDefinition.priority policies).map PolicyDefinition.ast) =
      (Lib.sortOn PolicyDefinition.priority policies).map PolicyDefinition.ast := by
    rw [Lib.sortOn_map (fun policy => (rfl : policy.ast.priority = policy.priority)),
      Lib.sortOn_sortOn]
  unfold compilePolicyGraph
  rw [hnodes, Lib.ok_bind, hsort, List.map_map]
  rfl

/-- The engine of a policy list that parses. -/
theorem new_eq {sources : List PolicySource} {policies : List PolicyDefinition}
    (hparse : sources.mapM PolicySource.parse = .ok policies) :
    KeyNetraEngine.new sources = .ok
      ⟨Lib.sortOn PolicyDefinition.priority policies,
        ⟨(Lib.sortOn PolicyDefinition.priority policies).map PolicyDefinition.node⟩⟩ := by
  unfold KeyNetraEngine.new
  rw [hparse, Lib.ok_bind]
  simp only [compilePolicyGraph_sorted, Lib.ok_bind]

/-! ## Lemmas on the loop -/

omit [PyRuntime] in
/-- Nodes of other actions are skipped. -/
theorem evaluateNodes_filter (input : AuthorizationInput) (nodes : List CompiledPolicyNode)
    (firstReason : Option String) :
    evaluateNodes input nodes firstReason =
      evaluateNodes input (nodes.filter fun node => node.action = input.action) firstReason := by
  induction nodes generalizing firstReason with
  | nil => rfl
  | cons node nodes ih =>
      by_cases haction : node.action = input.action
      · rw [List.filter_cons_of_pos (by simpa using haction), evaluateNodes, evaluateNodes]
        simp only [ih]
      · rw [List.filter_cons_of_neg (by simpa using haction), evaluateNodes, if_pos haction, ih]

/-- The loop over the policies of the action, none of which raises: the first
that holds decides, otherwise the first failure reason seen. -/
theorem evaluateNodes_eq {input : AuthorizationInput} {tried : List PolicyDefinition}
    (haction : ∀ policy ∈ tried, policy.action = input.action)
    (hraise : NoHandlerRaises tried input) (firstReason : Option String) :
    evaluateNodes input (tried.map PolicyDefinition.node) firstReason = .ok
      (match tried.find? fun policy => (policy.verdict input).1 with
        | some policy => ⟨policy.effect.outcome, some s!"matched policy {policy.reportedId}",
            some policy.reportedId⟩
        | none =>
            match firstReason.or (tried.head?.bind fun policy => (policy.verdict input).2) with
            | some reason => ⟨.deny, some reason, none⟩
            | none => ⟨.abstain, none, none⟩) := by
  induction tried generalizing firstReason with
  | nil => cases firstReason <;> rfl
  | cons policy tried ih =>
      have hact : policy.action = input.action := haction policy List.mem_cons_self
      obtain ⟨⟨matched, reason⟩, heval⟩ := hraise policy List.mem_cons_self hact
      have hverdict : policy.verdict input = (matched, reason) := by
        unfold PolicyDefinition.verdict
        rw [heval]
      have hnode : policy.node.action = input.action := hact
      rw [List.map_cons, evaluateNodes, if_neg (not_not.mpr hnode), node_evaluate, heval,
        Lib.ok_bind]
      rcases evaluateConditions_reason heval with ⟨rfl, rfl⟩ | ⟨r, rfl, rfl⟩
      · -- the policy holds
        have hreason : orText policy.node.policyId policy.node.action = policy.reportedId := by
          show orText (some policy.reportedId) _ = _
          rw [orText, if_neg (reportedId_ne_empty policy)]
        simp only [List.find?_cons, hverdict, if_true, hreason]
        rfl
      · -- it fails: the loop goes on with the first reason seen
        have hrest := ih (fun q hq => haction q (List.mem_cons_of_mem _ hq))
          (fun q hq => hraise q (List.mem_cons_of_mem _ hq)) (firstReason.or (some r))
        simp only [Bool.false_eq_true, if_false, hrest, List.find?_cons, hverdict,
          List.head?_cons, Option.bind_some]
        cases firstReason <;> rfl

/-- The reference interpreter, with its failure case spelled by the first reason. -/
theorem referenceDecision_eq {policies : List PolicyDefinition} {input : AuthorizationInput}
    (hraise : NoHandlerRaises (candidates policies input.action) input) :
    referenceDecision policies input =
      match (candidates policies input.action).find? fun policy => (policy.verdict input).1 with
      | some policy => ⟨policy.effect.outcome, some s!"matched policy {policy.reportedId}",
          some policy.reportedId⟩
      | none =>
          match (candidates policies input.action).head?.bind
              fun policy => (policy.verdict input).2 with
          | some reason => ⟨.deny, some reason, none⟩
          | none => ⟨.abstain, none, none⟩ := by
  unfold referenceDecision
  cases hcand : candidates policies input.action with
  | nil => rfl
  | cons policy rest =>
      -- the first candidate is of the action, and its conditions do not raise
      have hmem : policy ∈ candidates policies input.action := hcand ▸ List.mem_cons_self
      have hact : policy.action = input.action := by
        have hfilter := Lib.mem_sortOn.mp hmem
        simpa using (List.mem_filter.mp hfilter).2
      obtain ⟨⟨matched, reason⟩, heval⟩ := hraise policy hmem hact
      have hverdict : policy.verdict input = (matched, reason) := by
        unfold PolicyDefinition.verdict
        rw [heval]
      -- it either fails with a reason, or holds without one
      rcases evaluateConditions_reason heval with ⟨rfl, rfl⟩ | ⟨r, rfl, rfl⟩
      · simp [hverdict]
      · simp [hverdict]

/-- A graph of the sorted policies evaluates as the reference interpreter. -/
theorem evaluate_sorted_eq_reference {policies : List PolicyDefinition}
    {input : AuthorizationInput} (hraise : NoHandlerRaises policies input) :
    DecisionGraph.evaluate
        ⟨(Lib.sortOn PolicyDefinition.priority policies).map PolicyDefinition.node⟩ input =
      .ok (referenceDecision policies input) := by
  have hfilter : ((Lib.sortOn PolicyDefinition.priority policies).map
        PolicyDefinition.node).filter (fun node => node.action = input.action) =
      (candidates policies input.action).map PolicyDefinition.node := by
    rw [List.filter_map, candidates, ← Lib.sortOn_filter]
    rfl
  have hcand : NoHandlerRaises (candidates policies input.action) input := by
    intro policy hmem hact
    have hpolicy : policy ∈ policies := List.mem_of_mem_filter (Lib.mem_sortOn.mp hmem)
    exact hraise policy hpolicy hact
  have haction : ∀ policy ∈ candidates policies input.action, policy.action = input.action := by
    intro policy hmem
    simpa using (List.mem_filter.mp (Lib.mem_sortOn.mp hmem)).2
  unfold DecisionGraph.evaluate
  rw [evaluateNodes_filter, hfilter, evaluateNodes_eq haction hcand, referenceDecision_eq hcand]
  rfl

/-- The policy stage of the engine built from a policy list is the reference
interpreter on the parsed policies, for every request on which no condition
handler raises. -/
theorem policy_stage_eq_reference {sources : List PolicySource}
    {policies : List PolicyDefinition} {input : AuthorizationInput}
    (hparse : sources.mapM PolicySource.parse = .ok policies)
    (hraise : NoHandlerRaises policies input) :
    ∃ engine, KeyNetraEngine.new sources = .ok engine ∧
      engine.evaluateCompiledPolicies input = .ok
        (graphStage "policy_graph" "no matching policy node"
          (referenceDecision policies input).outcome (referenceDecision policies input).reason
          (referenceDecision policies input).policyId) := by
  refine ⟨_, new_eq hparse, ?_⟩
  unfold KeyNetraEngine.evaluateCompiledPolicies
  rw [Option.getD_none, evaluate_sorted_eq_reference hraise, Lib.ok_bind]

end Graph

/-! ## A concrete policy list -/

section Concrete

attribute [local instance] plainRuntime

/-- An allow for admins, before a deny for everyone. -/
def readPolicies : List PolicyDefinition :=
  [{ action := "read", effect := .allow, priority := 10,
     conditions := [("role", .str "admin"), ("policy_key", .str "read-admin")] },
    { action := "read", effect := .deny, priority := 20, policyId := some "read-none" }]

/-- The same policies, the first as a loader gives it. -/
def readSources : List PolicySource :=
  [.raw [("action", .str "read"), ("effect", .str "allow"), ("priority", .int 10),
      ("conditions", .dict [("role", .str "admin"), ("policy_key", .str "read-admin")])],
    .definition { action := "read", effect := .deny, priority := 20, policyId := some "read-none" }]

def adminRead : AuthorizationInput :=
  { user := [("role", .str "admin")], resource := [], action := "read" }

/-- The stage at a concrete list: the admin's allow comes first. -/
theorem policy_stage_readPolicies :
    ∃ engine, KeyNetraEngine.new readSources = .ok engine ∧
      engine.evaluateCompiledPolicies adminRead = .ok
        ⟨.allow, some "matched policy read:10:allow", some "read:10:allow",
          [⟨"policy_graph", "allow", "matched policy read:10:allow", some "read:10:allow"⟩]⟩ := by
  refine policy_stage_eq_reference
    (show readSources.mapM PolicySource.parse = .ok readPolicies from rfl) ?_
  intro policy hmem _
  rcases List.mem_cons.mp hmem with rfl | hmem
  · exact ⟨_, rfl⟩
  · rcases List.mem_singleton.mp hmem with rfl
    exact ⟨_, rfl⟩

end Concrete

end KeyNetra
