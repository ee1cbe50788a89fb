import KeyNetra.Engine.PermissionGraph
import KeyNetra.Engine.PolicyGraph

/-!
# KeyNetra.Engine.Pipeline — the decision pipeline

`KeyNetraEngine.decide` asks its stages in a fixed order, and the first one that
does not abstain decides: direct permissions, ACL entries, role permissions, the
relationship index, the permission graph, the compiled policies; then deny.

* `evaluateDirectPermissions` … `evaluatePermissionGraph` — the stages;
* `KeyNetraEngine.decide` — the pipeline, with its explain trace;
* `decide_of_decisive` / `decide_of_abstain` — what the first stages leave to
  the policies.
-/

namespace KeyNetra

variable [PyRuntime]

/-! ## Subjects and resources -/

/-- `KeyNetraEngine._resource_identity`. -/
def KeyNetraEngine.resourceIdentity (resource : Dict) : String × String :=
  (((Dict.get resource "resource_type").pyOr ((Dict.get resource "type").pyOr
      ((Dict.get resource "kind").pyOr ((Dict.get resource "entity_type").pyOr
        (.str ""))))).text,
    ((Dict.get resource "resource_id").pyOr ((Dict.get resource "id").pyOr (.str ""))).text)

/-- The descriptors `kind:item` of a list attribute; `None` items are skipped. -/
def listDescriptors (kind : String) : Value → List String
  | .list items => items.filterMap fun
      | .null => none
      | item => some s!"{kind}:{item.text}"
  | _ => []

/-- The descriptor of one relation edge of the user, when it is complete. -/
def edgeDescriptor? : Value → Option String
  | .dict edge =>
      let relation := (Dict.getD edge "relation" (.str "")).text
      let objectType := (Dict.getD edge "object_type" (.str "")).text
      let objectId := (Dict.getD edge "object_id" (.str "")).text
      if relation ≠ "" ∧ objectType ≠ "" ∧ objectId ≠ "" then
        some s!"relationship:{relation}:{objectType}:{objectId}"
      else none
  | _ => none

/-- `KeyNetraEngine._subject_descriptors`: the set, as a list. -/
def subjectDescriptors (input : AuthorizationInput) : List String :=
  let user := input.user
  (match Dict.get user "id" with
    | .null => []
    | userId => [s!"user:{userId.text}"]) ++
  listDescriptors "role" (Dict.getD user "roles" (.list [])) ++
  listDescriptors "permission" (Dict.getD user "permissions" (.list [])) ++
  listDescriptors "permission" (Dict.getD user "direct_permissions" (.list [])) ++
  (match Dict.getD user "relations" (.list []) with
    | .list relations => relations.filterMap edgeDescriptor?
    | _ => [])

/-! ## The stages -/

/-- A stage that does not decide. -/
def abstainStage (step detail : String) : StageResult :=
  ⟨.abstain, none, none, [⟨step, "abstain", detail, none⟩]⟩

/-- `KeyNetraEngine._evaluate_direct_permissions`. -/
def evaluateDirectPermissions (input : AuthorizationInput) : StageResult :=
  match Dict.getD input.user "direct_permissions"
      (Dict.getD input.user "permissions" (.list [])) with
  | .list permissions =>
      if (Value.str input.action).isIn permissions then
        ⟨.allow, some "explicit permission grant", some "rbac:permissions",
          [⟨"rbac_permissions", "matched", "explicit permission grant matched input action",
            some "rbac:permissions"⟩]⟩
      else abstainStage "rbac_permissions" "no direct permission match"
  | _ => abstainStage "rbac_permissions" "no direct permission match"

/-- `KeyNetraEngine._acl_subject_matches`. -/
def aclSubjectMatches (subjectType subjectId : String) (userSubjects : List String) : Bool :=
  if subjectType = "" ∨ subjectId = "" then false
  else if subjectType = "relationship" then
    let normalized :=
      if "relationship:".isPrefixOf subjectId then String.ofList (subjectId.toList.drop 12)
      else subjectId
    [subjectId, normalized, s!"relationship:{normalized}"].any (userSubjects.contains ·)
  else userSubjects.contains s!"{subjectType}:{subjectId}"

/-- `KeyNetraEngine._acl_matches`. -/
def aclMatches (entry : Dict) (resourceType resourceId action : String)
    (userSubjects : List String) : Bool :=
  if (Dict.get entry "resource_type").text ≠ resourceType ∨
      (Dict.get entry "resource_id").text ≠ resourceId then false
  else if (Dict.get entry "action").text ≠ action then false
  else aclSubjectMatches (Dict.getD entry "subject_type" (.str "")).text
    (Dict.getD entry "subject_id" (.str "")).text userSubjects

/-- The effect an entry names, in lower case. -/
def entryEffect (entry : Dict) : String := pyLower (Dict.getD entry "effect" (.str "deny")).text

/-- The loop of `_evaluate_acl`; `matched` says whether an entry has matched. -/
def evaluateAclEntries (input : AuthorizationInput) (resourceType resourceId : String)
    (userSubjects : List String) : List Dict → Bool → StageResult
  | [], matched =>
      ⟨.abstain, none, none, if matched then [] else [⟨"acl", "abstain", "no ACL match", none⟩]⟩
  | entry :: entries, matched =>
      if aclMatches entry resourceType resourceId input.action userSubjects then
        let subjectType := (Dict.get entry "subject_type").text
        let subjectId := (Dict.get entry "subject_id").text
        let entryId := (Dict.get entry "id").text
        let detail := s!"matched ACL entry {subjectType}:{subjectId} {input.action} " ++
          s!"{resourceType}:{resourceId}"
        let aclId := s!"acl:{entryId}"
        match entryEffect entry with
        | "allow" => ⟨.allow, some detail, some aclId, [⟨"acl", "allow", detail, some aclId⟩]⟩
        | "deny" => ⟨.deny, some detail, some aclId, [⟨"acl", "deny", detail, some aclId⟩]⟩
        | _ =>
            -- neither effect: the entry is noted and the loop goes on
            let rest := evaluateAclEntries input resourceType resourceId userSubjects entries true
            { rest with trace := ⟨"acl", "abstain", detail, some aclId⟩ :: rest.trace }
      else evaluateAclEntries input resourceType resourceId userSubjects entries matched

/-- The entries the ACL stage reads: those of the request, else those of its index. -/
def aclStageEntries (input : AuthorizationInput) : List Dict :=
  if input.aclEntries.isEmpty && !input.accessIndexEntries.isEmpty then
    input.accessIndexEntries.filter fun entry => (Dict.get entry "source").text == "acl"
  else input.aclEntries

/-- `KeyNetraEngine._evaluate_acl`. -/
def evaluateAcl (input : AuthorizationInput) (userSubjects : List String) : StageResult :=
  let (resourceType, resourceId) := KeyNetraEngine.resourceIdentity input.resource
  if resourceType = "" ∨ resourceId = "" then abstainStage "acl" "resource identity unavailable"
  else evaluateAclEntries input resourceType resourceId userSubjects (aclStageEntries input) false

/-- `KeyNetraEngine._evaluate_role_permissions`. -/
def evaluateRolePermissions (input : AuthorizationInput) : StageResult :=
  match Dict.getD input.user "role_permissions" (.list []) with
  | .list permissions =>
      if (Value.str input.action).isIn permissions then
        ⟨.allow, some "role permission grant", some "rbac:role",
          [⟨"rbac_role", "allow", "role permission grant", some "rbac:role"⟩]⟩
      else abstainStage "rbac_role" "no role permission match"
  | _ => abstainStage "rbac_role" "no role permission match"

/-- Whether an index entry links the user to the resource. -/
def indexEntryMatches (entry : Dict) (resourceType resourceId action : String)
    (userSubjects : List String) : Bool :=
  (Dict.get entry "source").text == "relationship" &&
    (Dict.get entry "resource_type").text == resourceType &&
    (Dict.get entry "resource_id").text == resourceId &&
    [action, "*"].contains (Dict.get entry "action").text &&
    (match Dict.getD entry "allowed_subjects" (.list []) with
      | .list allowed => allowed.any fun subject => userSubjects.contains subject.text
      | _ => false)

/-- `KeyNetraEngine._evaluate_relationship_index`. -/
def evaluateRelationshipIndex (input : AuthorizationInput) (userSubjects : List String) :
    StageResult :=
  let (resourceType, resourceId) := KeyNetraEngine.resourceIdentity input.resource
  if resourceType = "" ∨ resourceId = "" then
    abstainStage "relationship" "resource identity unavailable"
  else if input.accessIndexEntries.any fun entry =>
      indexEntryMatches entry resourceType resourceId input.action userSubjects then
    let detail := s!"relationship index match for {resourceType}:{resourceId}"
    ⟨.allow, some detail, some "relationship:index",
      [⟨"relationship", "allow", detail, some "relationship:index"⟩]⟩
  else abstainStage "relationship" "no relationship index match"

/-- `KeyNetraEngine._evaluate_permission_graph`. -/
def evaluatePermissionGraph (input : AuthorizationInput) : StageResult :=
  match input.permissionGraph with
  | none => abstainStage "permission_graph" "no authorization model"
  | some graph =>
      let decision := graph.evaluate input
      graphStage "permission_graph" "permission graph did not apply" decision.outcome
        decision.reason decision.policyId

/-! ## The pipeline -/

/-- The engine's answer. -/
structure AuthorizationDecision where
  allowed : Bool
  decision : Effect
  reason : Option String
  policyId : Option String
  explainTrace : List ExplainTraceStep
  matchedPolicies : List String := []
  failedConditions : List String := []
deriving DecidableEq, Repr

/-- A stage, with the policy id it reports and the policies it counts as matched. -/
structure Stage where
  result : StageResult
  policyId : Option String
  matched : List String

/-- A stage that reports its own policy id. -/
def Stage.ofResult (result : StageResult) : Stage :=
  ⟨result, result.policyId, if orText result.policyId "" = "" then [] else result.policyId.toList⟩

/-- `KeyNetraEngine._decision_from_stage`. -/
def decisionFromStage (stage : Stage) (trace : List ExplainTraceStep) : AuthorizationDecision :=
  let result := stage.result
  let finalPolicyId :=
    if orText result.policyId "" = "" then stage.policyId else result.policyId
  let finalDetail :=
    if finalPolicyId = some "rbac:permissions" ∧ result.outcome = .allow then
      "granted by explicit permission"
    else orText result.reason s!"decision {result.outcome.text}"
  { allowed := result.outcome = .allow
    decision := if result.outcome = .allow then .allow else .deny
    reason := result.reason
    policyId := finalPolicyId
    explainTrace := trace ++ [⟨"final", result.outcome.text, finalDetail, finalPolicyId⟩]
    matchedPolicies := if result.outcome = .allow then stage.matched else [] }

/-- The stages in order: the first that does not abstain decides; otherwise the
trace they leave. -/
def runStages : List Stage → List ExplainTraceStep →
    Sum AuthorizationDecision (List ExplainTraceStep)
  | [], trace => .inr trace
  | stage :: stages, trace =>
      if stage.result.outcome ≠ .abstain then
        .inl (decisionFromStage stage (trace ++ stage.result.trace))
      else runStages stages (trace ++ stage.result.trace)

/-- The stages before the policies. -/
def dataStages (input : AuthorizationInput) : List Stage :=
  let userSubjects := subjectDescriptors input
  [⟨evaluateDirectPermissions input, some "rbac:permissions", ["rbac:permissions"]⟩,
    .ofResult (evaluateAcl input userSubjects),
    ⟨evaluateRolePermissions input, some "rbac:role", ["rbac:role"]⟩,
    ⟨evaluateRelationshipIndex input userSubjects, some "relationship:index",
      ["relationship:index"]⟩,
    .ofResult (evaluatePermissionGraph input)]

/-- The first step of every trace. -/
def startTrace (input : AuthorizationInput) : List ExplainTraceStep :=
  [⟨"start", "continue", s!"evaluate action={input.action}", none⟩]

/-- The decision when every stage abstains. -/
def defaultDecision (trace : List ExplainTraceStep) : AuthorizationDecision :=
  { allowed := false
    decision := .deny
    reason := some "no matching policy"
    policyId := none
    explainTrace := trace ++ [⟨"final", "deny", "no matching policy", none⟩] }

/-- `KeyNetraEngine._decide_structured`. -/
def KeyNetraEngine.decide (engine : KeyNetraEngine) (input : AuthorizationInput)
    (override : Option DecisionGraph := none) : Except PyError AuthorizationDecision :=
  match runStages (dataStages input) (startTrace input) with
  | .inl decision => .ok decision
  | .inr trace => do
      let result ← engine.evaluateCompiledPolicies input override
      match runStages [.ofResult result] trace with
      | .inl decision => .ok decision
      | .inr trace => .ok (defaultDecision trace)

/-! ## Who decides -/

omit [PyRuntime]

/-- The outcome of the first stage that does not abstain. -/
def verdict : List Stage → Outcome
  | [] => .abstain
  | stage :: stages =>
      if stage.result.outcome ≠ .abstain then stage.result.outcome else verdict stages

theorem verdict_of_abstain {stage : Stage} (stages : List Stage)
    (h : stage.result.outcome = .abstain) : verdict (stage :: stages) = verdict stages := by
  rw [verdict, if_neg (not_not.mpr h)]

theorem verdict_of_decisive {stage : Stage} (stages : List Stage)
    (h : stage.result.outcome ≠ .abstain) :
    verdict (stage :: stages) = stage.result.outcome := by
  rw [verdict, if_pos h]

/-- The stages decide when one of them does not abstain, and allow when it allows. -/
theorem runStages_of_decisive {stages : List Stage} (h : verdict stages ≠ .abstain)
    (trace : List ExplainTraceStep) :
    ∃ decision, runStages stages trace = .inl decision ∧
      (decision.allowed = true ↔ verdict stages = .allow) := by
  induction stages generalizing trace with
  | nil => exact absurd rfl h
  | cons stage stages ih =>
      by_cases hstage : stage.result.outcome = .abstain
      · rw [verdict_of_abstain stages hstage] at h ⊢
        rw [runStages, if_neg (not_not.mpr hstage)]
        exact ih h _
      · rw [verdict_of_decisive stages hstage]
        rw [runStages, if_pos hstage]
        refine ⟨_, rfl, ?_⟩
        simp [decisionFromStage]

theorem runStages_of_abstain {stages : List Stage} (h : verdict stages = .abstain)
    (trace : List ExplainTraceStep) : ∃ trace', runStages stages trace = .inr trace' := by
  induction stages generalizing trace with
  | nil => exact ⟨trace, rfl⟩
  | cons stage stages ih =>
      by_cases hstage : stage.result.outcome = .abstain
      · rw [verdict_of_abstain stages hstage] at h
        rw [runStages, if_neg (not_not.mpr hstage)]
        exact ih h _
      · rw [verdict_of_decisive stages hstage] at h
        exact absurd h hstage

variable [PyRuntime]

/-- A data stage that does not abstain decides, whatever the policies. -/
theorem decide_of_decisive {input : AuthorizationInput}
    (h : verdict (dataStages input) ≠ .abstain) :
    ∃ decision, (∀ (engine : KeyNetraEngine) override,
        engine.decide input override = .ok decision) ∧
      (decision.allowed = true ↔ verdict (dataStages input) = .allow) := by
  have ⟨decision, hrun, hallowed⟩ := runStages_of_decisive h (startTrace input)
  refine ⟨decision, ?_, hallowed⟩
  intro engine override
  unfold KeyNetraEngine.decide
  rw [hrun]

/-- When the data stages abstain the policies decide. -/
theorem decide_of_abstain {input : AuthorizationInput}
    (h : verdict (dataStages input) = .abstain) (engine : KeyNetraEngine) :
    match engine.compiledGraph.evaluate input with
    | .error e => engine.decide input = .error e
    | .ok result => ∃ decision, engine.decide input = .ok decision ∧
        (decision.allowed = true ↔ result.outcome = .allow) := by
  have ⟨trace, hrun⟩ := runStages_of_abstain h (startTrace input)
  unfold KeyNetraEngine.decide KeyNetraEngine.evaluateCompiledPolicies
  rw [hrun, Option.getD_none]
  cases hevaluate : engine.compiledGraph.evaluate input with
  | error e => simp only [Lib.error_bind]
  | ok result =>
      simp only [Lib.ok_bind]
      by_cases habstain : result.outcome = .abstain
      · refine ⟨_, by simp [graphStage, habstain, runStages, Stage.ofResult]; rfl, ?_⟩
        simp [defaultDecision, habstain]
      · refine ⟨_, by simp [graphStage, habstain, runStages, Stage.ofResult]; rfl, ?_⟩
        simp [decisionFromStage]

end KeyNetra
