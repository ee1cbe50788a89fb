import KeyNetra.Engine.PolicyLists

/-!
# KeyNetra.Engine.Explain — the explain trace of a decision

A decision comes with the steps its stages appended, and one of two exits that build the
record: the stage that decides, or the default denial.

* `Abstained` / `Decides` — the steps of the stages before the deciding one, and its own;
* `Reports` — what one stage may append, with one lemma for each of the six stages;
* `Explained` — a decision and its trace agree, and `decide_explained`: every one does.
-/

namespace KeyNetra

/-! ## Traces -/

/-- The names of the stages, in the order the engine asks them. -/
def stageNames : List String :=
  ["rbac_permissions", "acl", "rbac_role", "relationship", "permission_graph", "policy_graph"]

/-- The step belongs to the stage and abstains. -/
def AbstainStep (name : String) (step : ExplainTraceStep) : Prop :=
  step.step = name ∧ step.outcome = "abstain"

/-- The steps of stages that only abstain, each with a step at least. -/
inductive Abstained : List String → List ExplainTraceStep → Prop where
  | nil : Abstained [] []
  | cons {name : String} {names : List String} {block steps : List ExplainTraceStep}
      (hblock : block ≠ []) (habstain : ∀ step ∈ block, AbstainStep name step)
      (hrest : Abstained names steps) : Abstained (name :: names) (block ++ steps)

/-- The steps of the stage that decides: the last one does, under the identifier reported. -/
def Decides (name : String) (policyId : Option String) (block : List ExplainTraceStep) : Prop :=
  ∃ noted step, block = noted ++ [step] ∧ (∀ s ∈ noted, AbstainStep name s) ∧
    step.step = name ∧ step.outcome ≠ "abstain" ∧ step.policyId = policyId

/-- The steps between the first and the last: stages that abstain, and the one that decides,
unless none does and the request is denied. -/
def StageSteps (decision : AuthorizationDecision) (steps : List ExplainTraceStep) : Prop :=
  (decision.allowed = false ∧ Abstained stageNames steps) ∨
    ∃ passed name later abstained block, stageNames = passed ++ name :: later ∧
      Abstained passed abstained ∧ Decides name decision.policyId block ∧ steps = abstained ++ block

/-- The identifiers that count as matched: an empty one does not. -/
def matchedIds (policyId : Option String) : List String :=
  policyId.toList.filter fun id => id ≠ ""

/-- A decision and its trace agree. -/
structure Explained (input : AuthorizationInput) (decision : AuthorizationDecision) : Prop where
  allowed : decision.allowed = true ↔ decision.decision = .allow
  trace : ∃ steps final, decision.explainTrace = startTrace input ++ steps ++ [final] ∧
    StageSteps decision steps ∧ final.step = "final" ∧
    final.outcome = decision.decision.text ∧ final.policyId = decision.policyId
  started : (decision.explainTrace.filter fun step => step.step = "start") = startTrace input
  ended : (decision.explainTrace.filter fun step => step.step = "final").length = 1
  matched : decision.matchedPolicies =
    if decision.allowed then matchedIds decision.policyId else []

/-! ## Names of the steps -/

theorem Abstained.name {names : List String} {steps : List ExplainTraceStep}
    (h : Abstained names steps) : ∀ step ∈ steps, step.step ∈ names := by
  induction h with
  | nil => exact fun _ hstep => absurd hstep List.not_mem_nil
  | cons hblock habstain hrest ih =>
      intro step hstep
      rcases List.mem_append.mp hstep with hstep | hstep
      · rw [(habstain step hstep).1]
        exact List.mem_cons_self
      · exact List.mem_cons_of_mem _ (ih step hstep)

theorem Decides.name {name : String} {policyId : Option String} {block : List ExplainTraceStep}
    (h : Decides name policyId block) : ∀ step ∈ block, step.step = name := by
  rcases h with ⟨noted, last, rfl, hnoted, hlast, -⟩
  intro step hstep
  rcases List.mem_append.mp hstep with hstep | hstep
  · exact (hnoted step hstep).1
  · rw [List.mem_singleton.mp hstep]
    exact hlast

/-- The steps in between carry the names of stages. -/
theorem StageSteps.name {decision : AuthorizationDecision} {steps : List ExplainTraceStep}
    (h : StageSteps decision steps) : ∀ step ∈ steps, step.step ∈ stageNames := by
  rcases h with ⟨-, habstained⟩ | ⟨passed, name, later, abstained, block, hnames, habstained, hblock,
    rfl⟩
  · exact habstained.name
  · intro step hstep
    rw [hnames]
    rcases List.mem_append.mp hstep with hstep | hstep
    · exact List.mem_append_left _ (habstained.name step hstep)
    · rw [hblock.name step hstep]
      exact List.mem_append_right _ List.mem_cons_self

/-! ## What one stage reports -/

/-- The identifier a decision takes from a stage. -/
def Stage.reportedId (stage : Stage) : Option String :=
  if orText stage.result.policyId "" = "" then stage.policyId else stage.result.policyId

/-- What a stage may append, and count as matched. -/
inductive Reports (name : String) (stage : Stage) : Prop where
  | abstains (houtcome : stage.result.outcome = .abstain) (hblock : stage.result.trace ≠ [])
      (habstain : ∀ step ∈ stage.result.trace, AbstainStep name step)
  | decides (houtcome : stage.result.outcome ≠ .abstain)
      (hdecides : Decides name stage.reportedId stage.result.trace)
      (hmatched : stage.matched = matchedIds stage.reportedId)

theorem reports_abstainStage {name detail : String} {stage : Stage}
    (h : stage.result = abstainStage name detail) : Reports name stage := by
  apply Reports.abstains
  · rw [h]
    rfl
  · rw [h]
    exact List.cons_ne_nil _ _
  · intro step hstep
    rw [h] at hstep
    rw [List.mem_singleton.mp hstep]
    exact ⟨rfl, rfl⟩

/-- A stage that reports its own identifier reports it as matched, unless it is empty. -/
theorem Stage.reportedId_ofResult (result : StageResult) :
    (Stage.ofResult result).reportedId = result.policyId := by
  unfold Stage.reportedId Stage.ofResult
  rw [ite_self]

theorem matched_ofResult (result : StageResult) :
    (Stage.ofResult result).matched = matchedIds (Stage.ofResult result).reportedId := by
  rw [Stage.reportedId_ofResult]
  show (if orText result.policyId "" = "" then [] else result.policyId.toList) = _
  rcases result.policyId with _ | id
  · rfl
  · by_cases h : id = ""
    · subst h
      rfl
    · simp [matchedIds, orText, h]

/-- A single step that decides. -/
theorem decides_single {outcome : String} (houtcome : outcome ≠ "abstain") (name detail : String)
    (policyId : Option String) : Decides name policyId [⟨name, outcome, detail, policyId⟩] := by
  refine ⟨[], _, rfl, ?_, rfl, houtcome, rfl⟩
  intro step hstep
  cases hstep

/-- A stage made of a graph's decision. -/
theorem reports_graphStage (name abstained : String) (outcome : Outcome)
    (reason policyId : Option String) :
    Reports name (.ofResult (graphStage name abstained outcome reason policyId)) := by
  by_cases h : outcome = .abstain
  · apply @reports_abstainStage name abstained
    show graphStage name abstained outcome reason policyId = _
    rw [graphStage, if_pos h]
    rfl
  · apply Reports.decides
    · show (graphStage name abstained outcome reason policyId).outcome ≠ .abstain
      rw [graphStage, if_neg h]
      exact h
    · rw [Stage.reportedId_ofResult]
      show Decides name (graphStage name abstained outcome reason policyId).policyId
        (graphStage name abstained outcome reason policyId).trace
      rw [graphStage, if_neg h]
      apply decides_single
      rcases outcome with _ | _ | _
      · exact (by decide : Outcome.allow.text ≠ "abstain")
      · exact (by decide : Outcome.deny.text ≠ "abstain")
      · exact absurd rfl h
    · exact matched_ofResult _

/-- A stage with a fixed identifier that allows in one step. -/
theorem reports_allows {name detail outcome policyId : String} (hid : policyId ≠ "")
    (houtcome : outcome ≠ "abstain") {reason : Option String} :
    Reports name ⟨⟨.allow, reason, some policyId, [⟨name, outcome, detail, some policyId⟩]⟩,
      some policyId, [policyId]⟩ := by
  have hreported : Stage.reportedId ⟨⟨.allow, reason, some policyId,
      [⟨name, outcome, detail, some policyId⟩]⟩, some policyId, [policyId]⟩ = some policyId := by
    simp [Stage.reportedId]
  apply Reports.decides
  · intro h
    cases h
  · rw [hreported]
    exact decides_single houtcome name detail (some policyId)
  · rw [hreported]
    simp [matchedIds, hid]

theorem reports_directPermissions (input : AuthorizationInput) :
    Reports "rbac_permissions"
      ⟨evaluateDirectPermissions input, some "rbac:permissions", ["rbac:permissions"]⟩ := by
  unfold evaluateDirectPermissions
  split
  · split
    · exact reports_allows (by decide) (by decide)
    · exact reports_abstainStage rfl
  · exact reports_abstainStage rfl

theorem reports_rolePermissions (input : AuthorizationInput) :
    Reports "rbac_role" ⟨evaluateRolePermissions input, some "rbac:role", ["rbac:role"]⟩ := by
  unfold evaluateRolePermissions
  split
  · split
    · exact reports_allows (by decide) (by decide)
    · exact reports_abstainStage rfl
  · exact reports_abstainStage rfl

theorem reports_policies {engine : KeyNetraEngine} {input : AuthorizationInput}
    {override : Option DecisionGraph} {result : StageResult}
    (h : engine.evaluateCompiledPolicies input override = .ok result) :
    Reports "policy_graph" (.ofResult result) := by
  unfold KeyNetraEngine.evaluateCompiledPolicies at h
  rcases Lib.bind_eq_ok.mp h with ⟨decision, -, hresult⟩
  rw [← Except.ok.inj hresult]
  exact reports_graphStage _ _ _ _ _

/-! ## The pipeline -/

/-- A decision from a stage, after stages that have abstained. -/
structure DecidedBy (names : List String) (trace : List ExplainTraceStep)
    (decision : AuthorizationDecision) : Prop where
  allowed : decision.allowed = true ↔ decision.decision = .allow
  steps : ∃ passed name later abstained block final, names = passed ++ name :: later ∧
    Abstained passed abstained ∧ Decides name decision.policyId block ∧
    decision.explainTrace = trace ++ (abstained ++ block) ++ [final] ∧ final.step = "final" ∧
    final.outcome = decision.decision.text ∧ final.policyId = decision.policyId
  matched : decision.matchedPolicies =
    if decision.allowed then matchedIds decision.policyId else []

/-- The stage that decides leads to such a decision. -/
theorem decidedBy_of_decides {name : String} {names : List String} {stage : Stage}
    (houtcome : stage.result.outcome ≠ .abstain)
    (hdecides : Decides name stage.reportedId stage.result.trace)
    (hmatched : stage.matched = matchedIds stage.reportedId) (trace : List ExplainTraceStep) :
    DecidedBy (name :: names) trace (decisionFromStage stage (trace ++ stage.result.trace)) := by
  have hid : (decisionFromStage stage (trace ++ stage.result.trace)).policyId =
      stage.reportedId := rfl
  constructor
  · simp [decisionFromStage]
  · refine ⟨[], name, names, [], stage.result.trace, _, rfl, .nil, ?_, rfl, rfl, ?_, rfl⟩
    · rw [hid]
      exact hdecides
    · -- the outcome is allow or deny, and the record says the same
      show stage.result.outcome.text =
        (if stage.result.outcome = .allow then Effect.allow else Effect.deny).text
      rcases houtcome' : stage.result.outcome with _ | _ | _
      · rfl
      · rfl
      · exact absurd houtcome' houtcome
  · show (if stage.result.outcome = .allow then stage.matched else []) = _
    rw [hid, hmatched]
    simp [decisionFromStage]

/-- A stage that abstains only adds to what has been passed. -/
theorem DecidedBy.later {name : String} {names : List String} {trace block : List ExplainTraceStep}
    {decision : AuthorizationDecision} (hblock : block ≠ [])
    (habstain : ∀ step ∈ block, AbstainStep name step)
    (h : DecidedBy names (trace ++ block) decision) : DecidedBy (name :: names) trace decision := by
  rcases h.steps with ⟨passed, decider, later, abstained, decided, final, hnames, habstained,
    hdecides, htrace, hfinal⟩
  refine ⟨h.allowed, ?_, h.matched⟩
  refine ⟨name :: passed, decider, later, block ++ abstained, decided, final, ?_,
    .cons hblock habstain habstained, hdecides, ?_, hfinal⟩
  · rw [hnames, List.cons_append]
  · rw [htrace]
    simp only [List.append_assoc]

/-- Stages that report decide with a trace that says so, or leave the steps of abstentions. -/
theorem runStages_reports {names : List String} {stages : List Stage}
    (h : List.Forall₂ Reports names stages) (trace : List ExplainTraceStep) :
    match runStages stages trace with
    | .inl decision => DecidedBy names trace decision
    | .inr trace' => ∃ steps, trace' = trace ++ steps ∧ Abstained names steps := by
  induction h generalizing trace with
  | nil => exact ⟨[], (List.append_nil _).symm, .nil⟩
  | @cons name stage names stages hstage _ ih =>
      rcases hstage with ⟨houtcome, hblock, habstain⟩ | ⟨houtcome, hdecides, hmatched⟩
      · rw [runStages, if_neg (not_not.mpr houtcome)]
        have hrest := ih (trace ++ stage.result.trace)
        rcases hrun : runStages stages (trace ++ stage.result.trace) with decision | trace'
        · rw [hrun] at hrest
          exact DecidedBy.later hblock habstain hrest
        · rw [hrun] at hrest
          rcases hrest with ⟨steps, hsteps, habstained⟩
          refine ⟨stage.result.trace ++ steps, ?_, .cons hblock habstain habstained⟩
          rw [hsteps, List.append_assoc]
      · rw [runStages, if_pos houtcome]
        exact decidedBy_of_decides houtcome hdecides hmatched trace

/-- Stages that have abstained are passed. -/
theorem DecidedBy.after {passed names : List String} {trace steps : List ExplainTraceStep}
    {decision : AuthorizationDecision} (hpassed : Abstained passed steps)
    (h : DecidedBy names (trace ++ steps) decision) :
    DecidedBy (passed ++ names) trace decision := by
  induction hpassed generalizing trace with
  | nil =>
      rw [List.append_nil] at h
      exact h
  | cons hblock habstain _ ih =>
      rw [← List.append_assoc] at h
      exact (ih h).later hblock habstain

theorem Abstained.append {names names' : List String} {steps steps' : List ExplainTraceStep}
    (h : Abstained names steps) (h' : Abstained names' steps') :
    Abstained (names ++ names') (steps ++ steps') := by
  induction h with
  | nil => exact h'
  | cons hblock habstain _ ih =>
      rw [List.append_assoc]
      exact .cons hblock habstain ih

/-! ## Whole traces -/

/-- A trace of that form has one first step and one last. -/
theorem explained_of_trace {input : AuthorizationInput} {decision : AuthorizationDecision}
    {steps : List ExplainTraceStep} {final : ExplainTraceStep}
    (hallowed : decision.allowed = true ↔ decision.decision = .allow)
    (htrace : decision.explainTrace = startTrace input ++ steps ++ [final])
    (hsteps : StageSteps decision steps) (hfinal : final.step = "final")
    (houtcome : final.outcome = decision.decision.text) (hid : final.policyId = decision.policyId)
    (hmatched : decision.matchedPolicies =
      if decision.allowed then matchedIds decision.policyId else []) :
    Explained input decision := by
  have hnone : ∀ name, name ∉ stageNames → (steps.filter fun step => step.step = name) = [] := by
    intro name hname
    rw [List.filter_eq_nil_iff]
    intro step hstep heq
    apply hname
    rw [← of_decide_eq_true heq]
    exact hsteps.name step hstep
  refine ⟨hallowed, ⟨steps, final, htrace, hsteps, hfinal, houtcome, hid⟩, ?_, ?_, hmatched⟩
  · rw [htrace, List.filter_append, List.filter_append, hnone "start" (by decide)]
    simp [startTrace, hfinal]
  · rw [htrace, List.filter_append, List.filter_append, hnone "final" (by decide)]
    simp [startTrace, hfinal]

theorem explained_of_decidedBy {input : AuthorizationInput} {decision : AuthorizationDecision}
    (h : DecidedBy stageNames (startTrace input) decision) : Explained input decision := by
  rcases h.steps with ⟨passed, name, later, abstained, block, final, hnames, habstained, hdecides,
    htrace, hfinal, houtcome, hid⟩
  exact explained_of_trace h.allowed htrace
    (.inr ⟨passed, name, later, abstained, block, hnames, habstained, hdecides, rfl⟩)
    hfinal houtcome hid h.matched

theorem explained_default {input : AuthorizationInput} {steps : List ExplainTraceStep}
    (h : Abstained stageNames steps) : Explained input (defaultDecision (startTrace input ++ steps)) := by
  refine explained_of_trace ?_ rfl (.inl ⟨rfl, h⟩) rfl rfl rfl rfl
  constructor
  · intro hallowed
    cases hallowed
  · intro hallowed
    cases hallowed

/-! ## Identifiers -/

/-- A text that names something. -/
def Named (policyId : Option String) : Prop := ∃ id, policyId = some id ∧ id ≠ ""

theorem matchedIds_of_named {policyId : Option String} (h : Named policyId) :
    ∃ id, policyId = some id ∧ matchedIds policyId = [id] := by
  rcases h with ⟨id, rfl, hid⟩
  exact ⟨id, rfl, by simp [matchedIds, hid]⟩

/-- The stage names what allows the request. -/
def Identified (stage : Stage) : Prop :=
  stage.result.outcome = .allow → Named stage.reportedId

theorem runStages_identified {stages : List Stage} (h : ∀ stage ∈ stages, Identified stage)
    {trace : List ExplainTraceStep} {decision : AuthorizationDecision}
    (hrun : runStages stages trace = .inl decision) (hallowed : decision.allowed = true) :
    Named decision.policyId := by
  induction stages generalizing trace with
  | nil => cases hrun
  | cons stage stages ih =>
      rw [runStages] at hrun
      split at hrun
      · rw [← Sum.inl.inj hrun] at hallowed ⊢
        exact h stage List.mem_cons_self (of_decide_eq_true hallowed)
      · exact ih (fun stage hstage => h stage (List.mem_cons_of_mem _ hstage)) hrun

/-- A text behind a non-empty one. -/
theorem append_ne_empty {s : String} (hs : s ≠ "") (t : String) : s ++ t ≠ "" := by
  intro h
  exact hs (String.append_eq_empty_iff.mp h).1

theorem identified_ofResult {result : StageResult}
    (h : result.outcome = .allow → Named result.policyId) : Identified (.ofResult result) := by
  intro hallow
  rw [Stage.reportedId_ofResult]
  exact h hallow

theorem identified_fixed {result : StageResult} {policyId : String} {matched : List String}
    (h : policyId ≠ "") (hresult : result.policyId = none ∨ result.policyId = some policyId) :
    Identified ⟨result, some policyId, matched⟩ := by
  intro _
  refine ⟨policyId, ?_, h⟩
  rcases hresult with hresult | hresult
  · simp [Stage.reportedId, hresult, orText]
  · simp [Stage.reportedId, hresult, orText, h]

theorem named_graphStage {name abstained : String} {outcome : Outcome} {reason policyId : Option String}
    (h : outcome = .allow → Named policyId) :
    (graphStage name abstained outcome reason policyId).outcome = .allow →
      Named (graphStage name abstained outcome reason policyId).policyId := by
  unfold graphStage
  split
  · intro hallow
    cases hallow
  · exact h

/-! ## The stages -/

section Stages

variable [PyRuntime]

theorem reports_relationshipIndex (input : AuthorizationInput) (userSubjects : List String) :
    Reports "relationship"
      ⟨evaluateRelationshipIndex input userSubjects, some "relationship:index",
        ["relationship:index"]⟩ := by
  unfold evaluateRelationshipIndex
  dsimp only
  split
  · exact reports_abstainStage rfl
  · split
    · exact reports_allows (by decide) (by decide)
    · exact reports_abstainStage rfl

theorem reports_permissionGraph (input : AuthorizationInput) :
    Reports "permission_graph" (.ofResult (evaluatePermissionGraph input)) := by
  unfold evaluatePermissionGraph
  split
  · exact reports_abstainStage rfl
  · exact reports_graphStage _ _ _ _ _

/-- The loop over the entries: it ends in a step that decides, or every step abstains; and
without a step an entry has matched before. -/
theorem evaluateAclEntries_reports (input : AuthorizationInput) (resourceType resourceId : String)
    (userSubjects : List String) (entries : List Dict) (seen : Bool) :
    let result := evaluateAclEntries input resourceType resourceId userSubjects entries seen
    (result.outcome = .abstain ∧ (seen = false → result.trace ≠ []) ∧
        ∀ step ∈ result.trace, AbstainStep "acl" step) ∨
      (result.outcome ≠ .abstain ∧ Decides "acl" result.policyId result.trace) := by
  induction entries generalizing seen with
  | nil =>
      refine .inl ⟨rfl, ?_, ?_⟩
      · rintro rfl
        exact List.cons_ne_nil _ _
      · intro step hstep
        rcases seen with _ | _
        · rw [List.mem_singleton.mp hstep]
          exact ⟨rfl, rfl⟩
        · cases hstep
  | cons entry entries ih =>
      rw [evaluateAclEntries]
      split
      · dsimp only
        split
        · refine .inr ⟨?_, decides_single (by decide) "acl" _ _⟩
          intro h
          cases h
        · refine .inr ⟨?_, decides_single (by decide) "acl" _ _⟩
          intro h
          cases h
        · -- the entry is noted, and the loop goes on with an entry seen
          rcases ih true with ⟨houtcome, -, habstain⟩ | ⟨houtcome, noted, last, htrace, hnoted, hlast⟩
          · refine .inl ⟨houtcome, fun _ => List.cons_ne_nil _ _, ?_⟩
            intro step hstep
            rcases List.mem_cons.mp hstep with rfl | hstep
            · exact ⟨rfl, rfl⟩
            · exact habstain step hstep
          · refine .inr ⟨houtcome, _ :: noted, last, by rw [htrace]; rfl, ?_, hlast⟩
            intro step hstep
            rcases List.mem_cons.mp hstep with rfl | hstep
            · exact ⟨rfl, rfl⟩
            · exact hnoted step hstep
      · exact ih seen

theorem reports_acl (input : AuthorizationInput) (userSubjects : List String) :
    Reports "acl" (.ofResult (evaluateAcl input userSubjects)) := by
  unfold evaluateAcl
  dsimp only
  split
  · exact reports_abstainStage rfl
  · rcases evaluateAclEntries_reports input (KeyNetraEngine.resourceIdentity input.resource).1
      (KeyNetraEngine.resourceIdentity input.resource).2 userSubjects (aclStageEntries input) false
      with ⟨houtcome, hblock, habstain⟩ | ⟨houtcome, hdecides⟩
    · exact .abstains houtcome (hblock rfl) habstain
    · refine .decides houtcome ?_ (matched_ofResult _)
      rw [Stage.reportedId_ofResult]
      exact hdecides

theorem evaluateAclEntries_named (input : AuthorizationInput) (resourceType resourceId : String)
    (userSubjects : List String) (entries : List Dict) (seen : Bool)
    (h : (evaluateAclEntries input resourceType resourceId userSubjects entries seen).outcome =
      .allow) :
    Named (evaluateAclEntries input resourceType resourceId userSubjects entries seen).policyId := by
  induction entries generalizing seen with
  | nil => cases h
  | cons entry entries ih =>
      rw [evaluateAclEntries] at h ⊢
      split at h
      · rename_i hmatches
        rw [if_pos hmatches]
        dsimp only at h ⊢
        split at h
        · exact ⟨_, rfl, append_ne_empty (by decide : toString "acl:" ≠ "") _⟩
        · cases h
        · exact ih true h
      · rename_i hmatches
        rw [if_neg hmatches]
        exact ih seen h

theorem permissionGraph_named {graph : CompiledPermissionGraph} {input : AuthorizationInput}
    (h : (graph.evaluate input).outcome = .allow) : Named (graph.evaluate input).policyId := by
  unfold CompiledPermissionGraph.evaluate at h ⊢
  dsimp only at h ⊢
  split
  · rename_i hempty
    rw [if_pos hempty] at h
    cases h
  · rename_i hgiven
    rw [if_neg hgiven] at h
    split
    · rename_i hnone
      rw [hnone] at h
      cases h
    · split
      · exact ⟨_, rfl, append_ne_empty (by decide : toString "auth-model:" ≠ "") _⟩
      · exact ⟨_, rfl, append_ne_empty (by decide : toString "auth-model:" ≠ "") _⟩

/-- The stages before the policies name what allows the request. -/
theorem dataStages_identified (input : AuthorizationInput) :
    ∀ stage ∈ dataStages input, Identified stage := by
  -- a fixed id is reported even where the stage abstains
  have hdirect : Identified
      ⟨evaluateDirectPermissions input, some "rbac:permissions", ["rbac:permissions"]⟩ := by
    apply identified_fixed (by decide)
    unfold evaluateDirectPermissions
    split
    · split
      · exact .inr rfl
      · exact .inl rfl
    · exact .inl rfl
  -- the entry that matched is named by its own id
  have hacl : Identified (.ofResult (evaluateAcl input (subjectDescriptors input))) := by
    apply identified_ofResult
    unfold evaluateAcl
    dsimp only
    split
    · intro hallow
      cases hallow
    · exact evaluateAclEntries_named input _ _ _ _ false
  have hrole : Identified ⟨evaluateRolePermissions input, some "rbac:role", ["rbac:role"]⟩ := by
    apply identified_fixed (by decide)
    unfold evaluateRolePermissions
    split
    · split
      · exact .inr rfl
      · exact .inl rfl
    · exact .inl rfl
  have hindex : Identified ⟨evaluateRelationshipIndex input (subjectDescriptors input),
      some "relationship:index", ["relationship:index"]⟩ := by
    apply identified_fixed (by decide)
    unfold evaluateRelationshipIndex
    dsimp only
    split
    · exact .inl rfl
    · split
      · exact .inr rfl
      · exact .inl rfl
  have hgraph : Identified (.ofResult (evaluatePermissionGraph input)) := by
    apply identified_ofResult
    unfold evaluatePermissionGraph
    split
    · intro hallow
      cases hallow
    · exact named_graphStage permissionGraph_named
  unfold dataStages
  simp only [List.forall_mem_cons]
  exact ⟨hdirect, hacl, hrole, hindex, hgraph, fun stage hstage => nomatch hstage⟩

/-! ## Every decision -/

/-- The stages before the policies report, each under its name. -/
theorem dataStages_report (input : AuthorizationInput) :
    List.Forall₂ Reports (stageNames.take 5) (dataStages input) :=
  .cons (reports_directPermissions input) (.cons (reports_acl input _)
    (.cons (reports_rolePermissions input) (.cons (reports_relationshipIndex input _)
      (.cons (reports_permissionGraph input) .nil))))

/-- Every decision the engine returns agrees with its trace. -/
theorem explained_of_decide {engine : KeyNetraEngine} {input : AuthorizationInput}
    {override : Option DecisionGraph} {decision : AuthorizationDecision}
    (h : engine.decide input override = .ok decision) : Explained input decision := by
  have hdata := runStages_reports (dataStages_report input) (startTrace input)
  have hnames : stageNames = stageNames.take 5 ++ ["policy_graph"] := rfl
  unfold KeyNetraEngine.decide at h
  rcases hrun : runStages (dataStages input) (startTrace input) with decided | trace
  · rw [hrun] at hdata h
    rw [← Except.ok.inj h]
    -- the policies are not asked, so they stand among the later stages
    rcases hdata.steps with ⟨passed, name, later, abstained, block, final, hfirst, hrest⟩
    apply explained_of_decidedBy
    refine ⟨hdata.allowed, ?_, hdata.matched⟩
    refine ⟨passed, name, later ++ ["policy_graph"], abstained, block, final, ?_, hrest⟩
    rw [hnames, hfirst, List.append_assoc, List.cons_append]
  · rw [hrun] at hdata h
    rcases hdata with ⟨steps, rfl, habstained⟩
    rcases Lib.bind_eq_ok.mp h with ⟨result, hpolicies, hrest⟩
    have hstage := runStages_reports (.cons (reports_policies hpolicies) .nil)
      (startTrace input ++ steps)
    rcases hlast : runStages [.ofResult result] (startTrace input ++ steps) with decided | trace'
    · rw [hlast] at hstage hrest
      rw [← Except.ok.inj hrest]
      apply explained_of_decidedBy
      rw [hnames]
      exact DecidedBy.after habstained hstage
    · rw [hlast] at hstage hrest
      rcases hstage with ⟨last, rfl, hpassed⟩
      rw [← Except.ok.inj hrest, List.append_assoc]
      apply explained_default
      rw [hnames]
      exact habstained.append hpassed

/-- Every node of the graph names its policy. -/
def DecisionGraph.NamesPolicies (graph : DecisionGraph) : Prop :=
  ∀ node ∈ graph.nodes, Named node.policyId

omit [PyRuntime] in
theorem evaluateNodes_named {input : AuthorizationInput} {nodes : List CompiledPolicyNode}
    (hnodes : ∀ node ∈ nodes, Named node.policyId) {firstReason : Option String}
    {result : GraphDecision} (h : evaluateNodes input nodes firstReason = .ok result)
    (hallow : result.outcome = .allow) : Named result.policyId := by
  induction nodes generalizing firstReason with
  | nil =>
      -- no policy matched: the default denies
      rcases firstReason with _ | reason
      · cases h
        cases hallow
      · cases h
        cases hallow
  | cons node nodes ih =>
      have hrest : ∀ node ∈ nodes, Named node.policyId :=
        fun node hnode => hnodes node (List.mem_cons_of_mem _ hnode)
      by_cases haction : node.action = input.action
      · -- a policy of the action raises, fails or holds
        rcases heval : node.evaluate input with e | ⟨matched, reason⟩
        · rw [evaluateNodes_raised haction heval] at h
          cases h
        · rcases matched with _ | _
          · rw [evaluateNodes_failed haction heval] at h
            exact ih hrest h
          · rw [evaluateNodes_held haction heval] at h
            rw [← Except.ok.inj h]
            exact hnodes node List.mem_cons_self
      · -- one of another action is skipped
        rw [evaluateNodes_other haction] at h
        exact ih hrest h

/-- The graphs the engine compiles name their policies. -/
theorem new_namesPolicies {sources : List PolicySource} {engine : KeyNetraEngine}
    (h : KeyNetraEngine.new sources = .ok engine) : engine.compiledGraph.NamesPolicies := by
  rcases new_ok_iff.mp h with ⟨policies, -, rfl⟩
  intro node hnode
  rcases List.mem_map.mp hnode with ⟨policy, -, rfl⟩
  exact ⟨policy.reportedId, rfl, reportedId_ne_empty policy⟩

/-- Where the graph names its policies, an allow names what grants it. -/
theorem decide_named {engine : KeyNetraEngine} {input : AuthorizationInput}
    {override : Option DecisionGraph} {decision : AuthorizationDecision}
    (hgraph : (override.getD engine.compiledGraph).NamesPolicies)
    (h : engine.decide input override = .ok decision) (hallowed : decision.allowed = true) :
    Named decision.policyId := by
  unfold KeyNetraEngine.decide at h
  -- decided by a stage before the policies, by the policies, or by default
  rcases hrun : runStages (dataStages input) (startTrace input) with decided | trace
  · rw [hrun] at h
    have hsame := Except.ok.inj h
    rw [← hsame] at hallowed ⊢
    exact runStages_identified (dataStages_identified input) hrun hallowed
  · rw [hrun] at h
    rcases Lib.bind_eq_ok.mp h with ⟨result, hpolicies, hrest⟩
    have hstage : ∀ stage ∈ [Stage.ofResult result], Identified stage := by
      intro stage hstage
      rw [List.mem_singleton.mp hstage]
      apply identified_ofResult
      unfold KeyNetraEngine.evaluateCompiledPolicies at hpolicies
      rcases Lib.bind_eq_ok.mp hpolicies with ⟨decided, hdecided, hresult⟩
      rw [← Except.ok.inj hresult]
      exact named_graphStage (evaluateNodes_named hgraph hdecided)
    rcases hlast : runStages [.ofResult result] trace with decided | trace'
    · rw [hlast] at hrest
      have hsame := Except.ok.inj hrest
      rw [← hsame] at hallowed ⊢
      exact runStages_identified hstage hlast hallowed
    · rw [hlast] at hrest
      rw [← Except.ok.inj hrest] at hallowed
      cases hallowed

/-- Decision and trace agree on every input; an allow counts its policy as matched whenever
the graph asked names its policies, as every graph compiled from a policy list does. -/
theorem decide_explained (engine : KeyNetraEngine) (input : AuthorizationInput)
    (override : Option DecisionGraph) (decision : AuthorizationDecision)
    (h : engine.decide input override = .ok decision) :
    Explained input decision ∧
      ((override.getD engine.compiledGraph).NamesPolicies → decision.allowed = true →
        ∃ id, decision.policyId = some id ∧ decision.matchedPolicies = [id]) ∧
      ∀ sources, KeyNetraEngine.new sources = .ok engine → engine.compiledGraph.NamesPolicies := by
  have hexplained := explained_of_decide h
  refine ⟨hexplained, ?_, ?_⟩
  · intro hgraph hallowed
    rcases matchedIds_of_named (decide_named hgraph h hallowed) with ⟨id, hid, hmatched⟩
    refine ⟨id, hid, ?_⟩
    rw [hexplained.matched, if_pos hallowed, hmatched]
  · intro sources hnew
    exact new_namesPolicies hnew

end Stages

/-! ## A concrete decision -/

section Concrete

attribute [local instance] plainRuntime

/-- What the admin's request is answered. -/
def adminDecision : AuthorizationDecision where
  allowed := true
  decision := .allow
  reason := some "matched policy read:10:allow"
  policyId := some "read:10:allow"
  explainTrace :=
    [⟨"start", "continue", "evaluate action=read", none⟩,
      ⟨"rbac_permissions", "abstain", "no direct permission match", none⟩,
      ⟨"acl", "abstain", "resource identity unavailable", none⟩,
      ⟨"rbac_role", "abstain", "no role permission match", none⟩,
      ⟨"relationship", "abstain", "resource identity unavailable", none⟩,
      ⟨"permission_graph", "abstain", "no authorization model", none⟩,
      ⟨"policy_graph", "allow", "matched policy read:10:allow", some "read:10:allow"⟩,
      ⟨"final", "allow", "matched policy read:10:allow", some "read:10:allow"⟩]
  matchedPolicies := ["read:10:allow"]

theorem adminDecision_explained :
    Explained adminRead adminDecision ∧
      ((listEngine readPolicies).compiledGraph.NamesPolicies → adminDecision.allowed = true →
        ∃ id, adminDecision.policyId = some id ∧ adminDecision.matchedPolicies = [id]) ∧
      ∀ sources, KeyNetraEngine.new sources = .ok (listEngine readPolicies) →
        (listEngine readPolicies).compiledGraph.NamesPolicies :=
  decide_explained (listEngine readPolicies) adminRead none adminDecision rfl

/-- A graph of one node, without an identifier, that always allows. -/
def namelessGraph : DecisionGraph := ⟨[⟨none, "read", .allow, 10, fun _ => .ok (true, none)⟩]⟩

/-- It allows, and no policy counts as matched. -/
theorem nameless_allow_matches_nothing :
    ∃ decision, (listEngine []).decide adminRead (some namelessGraph) = .ok decision ∧
      decision.allowed = true ∧ decision.matchedPolicies.map some ≠ [decision.policyId] := by
  refine ⟨_, rfl, rfl, ?_⟩
  intro h
  cases h

end Concrete

end KeyNetra
