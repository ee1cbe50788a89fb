import KeyNetra.Engine.PolicyLists
import KeyNetra.Lib.Operations

/-!
# KeyNetra.Engine.Limits — the engine on an interpreter with limits

The interpreter does not turn every value into a text, nor compare all of them: an integer of
more digits than `sys.get_int_max_str_digits()` has no text, and values nested too deeply have
neither text nor comparison. Nor does it nest calls without end, and `_PermissionEvaluator` calls
itself for each operand of an expression. Here `decide` runs under such limits, with every text,
comparison and nested call where the source makes it, beside what the handlers raise on their
own. Calls that are nested equally deep for every input are taken to be granted.

* `Operation` / `Limits` — what may be refused, and with which exception;
* `digitLimit` / `recursionLimit` — two limits that an interpreter has;
* `Limited.decide` — the stages and the handlers, as the source runs them;
* `Returns` — which operations a decision reaches, and which values its handlers convert;
* `decide_returns_iff` — it returns exactly when none of them raises;
* `decide_eq_unlimited` — and then decides as the engine without limits.
-/

namespace KeyNetra

/-! ## Limits -/

/-- What the interpreter may refuse: the text of a value, the comparison of two, or a call of the
evaluator below so many others. -/
inductive Operation where
  | text (value : Value)
  | compare (left right : Value)
  | call (depth : Nat)

/-- The exception an operation ends in, if it does. -/
abbrev Limits := Operation → Option PyError

/-- No operation is refused. -/
def noLimits : Limits := fun _ => none

mutual

/-- Every integer in the value is below the bound. -/
def Value.integersBelow (bound : Nat) : Value → Bool
  | .int n => n.natAbs < bound
  | .list xs => Value.allBelow bound xs
  | .dict items => Value.itemsBelow bound items
  | _ => true

def Value.allBelow (bound : Nat) : List Value → Bool
  | [] => true
  | x :: xs => x.integersBelow bound && Value.allBelow bound xs

def Value.itemsBelow (bound : Nat) : List (String × Value) → Bool
  | [] => true
  | (_, x) :: items => x.integersBelow bound && Value.itemsBelow bound items

end

/-- `sys.set_int_max_str_digits(digits)`. -/
def digitLimit (digits : Nat) : Limits
  | .text value =>
      if value.integersBelow (10 ^ digits) then none
      else some (.valueError "Exceeds the limit for integer string conversion")
  | .compare _ _ | .call _ => none

/-- `sys.setrecursionlimit`, with so many calls left where the evaluator is first called. -/
def recursionLimit (left : Nat) : Limits
  | .call depth =>
      if depth < left then none else some (.recursionError "maximum recursion depth exceeded")
  | .text _ | .compare _ _ => none

namespace Limited

section Engine

variable [PyRuntime] (limits : Limits)

/-- `str(v)`. -/
def str (v : Value) : Except PyError String := Lib.perform limits (.text v) v.text

/-- `a == b`. -/
def eq (a b : Value) : Except PyError Bool := Lib.perform limits (.compare a b) (Value.eq a b)

/-- `str(v) == text`. -/
def strIs (v : Value) (text : String) : Except PyError Bool := do
  let actual ← str limits v
  .ok (actual == text)

/-! ## Subjects and resources -/

/-- What `_resource_identity` takes for the type. -/
def typeValue (resource : Dict) : Value :=
  (Dict.get resource "resource_type").pyOr ((Dict.get resource "type").pyOr
    ((Dict.get resource "kind").pyOr ((Dict.get resource "entity_type").pyOr (.str ""))))

/-- What it takes for the id. -/
def idValue (resource : Dict) : Value :=
  (Dict.get resource "resource_id").pyOr ((Dict.get resource "id").pyOr (.str ""))

/-- `KeyNetraEngine._resource_identity`. -/
def resourceIdentity (resource : Dict) : Except PyError (String × String) := do
  let resourceType ← str limits (typeValue resource)
  let resourceId ← str limits (idValue resource)
  .ok (resourceType, resourceId)

/-- `item is not None`. -/
def given : Value → Bool
  | .null => false
  | _ => true

/-- The descriptors of a list attribute. -/
def listDescriptors (kind : String) : Value → Except PyError (List String)
  | .list items => (items.filter given).mapM fun item => do
      let text ← str limits item
      .ok s!"{kind}:{text}"
  | _ => .ok []

/-- The descriptor of one relation edge. -/
def edgeDescriptor : Value → Except PyError (Option String)
  | .dict edge => do
      let relation ← str limits (Dict.getD edge "relation" (.str ""))
      let objectType ← str limits (Dict.getD edge "object_type" (.str ""))
      let objectId ← str limits (Dict.getD edge "object_id" (.str ""))
      .ok (if relation ≠ "" ∧ objectType ≠ "" ∧ objectId ≠ "" then
        some s!"relationship:{relation}:{objectType}:{objectId}"
      else none)
  | _ => .ok none

/-- The descriptor of the user's id. -/
def idDescriptor : Value → Except PyError (List String)
  | .null => .ok []
  | userId => do
      let text ← str limits userId
      .ok [s!"user:{text}"]

/-- The descriptors of the user's relation edges. -/
def relationDescriptors : Value → Except PyError (List String)
  | .list relations => do
      let found ← relations.mapM (edgeDescriptor limits)
      .ok (found.filterMap id)
  | _ => .ok []

/-- `KeyNetraEngine._subject_descriptors`. -/
def subjectDescriptors (user : Dict) : Except PyError (List String) := do
  let ids ← idDescriptor limits (Dict.get user "id")
  let roles ← listDescriptors limits "role" (Dict.getD user "roles" (.list []))
  let permissions ← listDescriptors limits "permission" (Dict.getD user "permissions" (.list []))
  let direct ← listDescriptors limits "permission"
    (Dict.getD user "direct_permissions" (.list []))
  let relations ← relationDescriptors limits (Dict.getD user "relations" (.list []))
  .ok (ids ++ roles ++ permissions ++ direct ++ relations)

/-! ## The stages -/

/-- `KeyNetraEngine._acl_matches`. -/
def aclMatches (entry : Dict) (resourceType resourceId action : String)
    (userSubjects : List String) : Except PyError Bool :=
  strIs limits (Dict.get entry "resource_type") resourceType <&&>
    strIs limits (Dict.get entry "resource_id") resourceId <&&>
    strIs limits (Dict.get entry "action") action <&&> do
      let subjectType ← str limits (Dict.getD entry "subject_type" (.str ""))
      let subjectId ← str limits (Dict.getD entry "subject_id" (.str ""))
      .ok (aclSubjectMatches subjectType subjectId userSubjects)

/-- The loop of `_evaluate_acl`. -/
def evaluateAclEntries (input : AuthorizationInput) (resourceType resourceId : String)
    (userSubjects : List String) : List Dict → Bool → Except PyError StageResult
  | [], matched => .ok
      ⟨.abstain, none, none, if matched then [] else [⟨"acl", "abstain", "no ACL match", none⟩]⟩
  | entry :: entries, matched => do
      if ← aclMatches limits entry resourceType resourceId input.action userSubjects then
        let effect ← str limits (Dict.getD entry "effect" (.str "deny"))
        let subjectType ← str limits (Dict.get entry "subject_type")
        let subjectId ← str limits (Dict.get entry "subject_id")
        let entryId ← str limits (Dict.get entry "id")
        let detail := s!"matched ACL entry {subjectType}:{subjectId} {input.action} " ++
          s!"{resourceType}:{resourceId}"
        let aclId := s!"acl:{entryId}"
        match pyLower effect with
        | "allow" => .ok ⟨.allow, some detail, some aclId, [⟨"acl", "allow", detail, some aclId⟩]⟩
        | "deny" => .ok ⟨.deny, some detail, some aclId, [⟨"acl", "deny", detail, some aclId⟩]⟩
        | _ => do
            let rest ← evaluateAclEntries input resourceType resourceId userSubjects entries true
            .ok { rest with trace := ⟨"acl", "abstain", detail, some aclId⟩ :: rest.trace }
      else evaluateAclEntries input resourceType resourceId userSubjects entries matched

/-- The entries the ACL stage reads. -/
def aclStageEntries (input : AuthorizationInput) : Except PyError (List Dict) :=
  if input.aclEntries.isEmpty && !input.accessIndexEntries.isEmpty then
    input.accessIndexEntries.filterM fun entry => strIs limits (Dict.get entry "source") "acl"
  else .ok input.aclEntries

/-- `KeyNetraEngine._evaluate_acl`. -/
def evaluateAcl (input : AuthorizationInput) (userSubjects : List String) :
    Except PyError StageResult := do
  let (resourceType, resourceId) ← resourceIdentity limits input.resource
  if resourceType = "" ∨ resourceId = "" then
    .ok (abstainStage "acl" "resource identity unavailable")
  else do
    let entries ← aclStageEntries limits input
    evaluateAclEntries limits input resourceType resourceId userSubjects entries false

/-- Whether an index entry links the user to the resource. -/
def indexEntryMatches (entry : Dict) (resourceType resourceId action : String)
    (userSubjects : List String) : Except PyError Bool :=
  strIs limits (Dict.get entry "source") "relationship" <&&>
    strIs limits (Dict.get entry "resource_type") resourceType <&&>
    strIs limits (Dict.get entry "resource_id") resourceId <&&>
    (do
      let entryAction ← str limits (Dict.get entry "action")
      .ok ([action, "*"].contains entryAction)) <&&>
    (match Dict.getD entry "allowed_subjects" (.list []) with
      | .list allowed => allowed.anyM fun subject => do
          let descriptor ← str limits subject
          .ok (userSubjects.contains descriptor)
      | _ => .ok false)

/-- `KeyNetraEngine._evaluate_relationship_index`. -/
def evaluateRelationshipIndex (input : AuthorizationInput) (userSubjects : List String) :
    Except PyError StageResult := do
  let (resourceType, resourceId) ← resourceIdentity limits input.resource
  if resourceType = "" ∨ resourceId = "" then
    .ok (abstainStage "relationship" "resource identity unavailable")
  else do
    let found ← input.accessIndexEntries.anyM fun entry =>
      indexEntryMatches limits entry resourceType resourceId input.action userSubjects
    if found then
      let detail := s!"relationship index match for {resourceType}:{resourceId}"
      .ok ⟨.allow, some detail, some "relationship:index",
        [⟨"relationship", "allow", detail, some "relationship:index"⟩]⟩
    else .ok (abstainStage "relationship" "no relationship index match")

/-- What the permission graph takes for the type; it does not know `entity_type`. -/
def graphTypeValue (resource : Dict) : Value :=
  (Dict.get resource "resource_type").pyOr ((Dict.get resource "type").pyOr
    ((Dict.get resource "kind").pyOr (.str "")))

/-- One edge in the loop of `_has_relation`. -/
def hasEdge (name resourceType resourceId : String) : Value → Except PyError Bool
  | .dict edge =>
      strIs limits (Dict.get edge "relation") name <&&>
        strIs limits (Dict.get edge "object_type") resourceType <&&>
        strIs limits (Dict.get edge "object_id") resourceId
  | _ => .ok false

/-- `_PermissionEvaluator._has_relation`. -/
def hasRelation (input : AuthorizationInput) (resourceType name : String) : Except PyError Bool :=
  match Dict.getD input.user "relations" (.list []) with
  | .list relations => do
      let resourceId ← str limits (idValue input.resource)
      relations.anyM (hasEdge limits name resourceType resourceId)
  | _ => .ok false

/-- A call of a method of the evaluator, below `depth` others. -/
def call (depth : Nat) : Except PyError Unit := Lib.perform limits (.call depth) ()

/-- `_PermissionEvaluator.evaluate`, called below `depth` others: one call for each operand. -/
def evaluateExpr (input : AuthorizationInput) (resourceType : String) (depth : Nat) :
    Expr → Except PyError Bool
  | .identifier name => do
      call limits depth
      call limits (depth + 1)
      hasRelation limits input resourceType name
  | .not value => do
      call limits depth
      let holds ← evaluateExpr input resourceType (depth + 1) value
      .ok !holds
  | .and left right => do
      call limits depth
      evaluateExpr input resourceType (depth + 1) left <&&>
        evaluateExpr input resourceType (depth + 1) right
  | .or left right => do
      call limits depth
      evaluateExpr input resourceType (depth + 1) left <||>
        evaluateExpr input resourceType (depth + 1) right

/-- `CompiledPermissionGraph.evaluate`. -/
def evaluateGraph (graph : CompiledPermissionGraph) (input : AuthorizationInput) :
    Except PyError AuthorizationGraphDecision := do
  let resourceType ← str limits (graphTypeValue input.resource)
  let _ ← str limits (idValue input.resource)
  if resourceType = "" ∨ input.action = "" then .ok ⟨.abstain, none, none⟩
  else
    match graph.model.permissions.get? input.action with
    | none => .ok ⟨.abstain, none, none⟩
    | some permission => do
        let holds ← evaluateExpr limits input resourceType 0 permission.expression
        if holds then
          .ok ⟨.allow, some s!"matched authorization model permission {input.action}",
            some s!"auth-model:{input.action}"⟩
        else
          .ok ⟨.deny, some s!"authorization model denied {input.action}",
            some s!"auth-model:{input.action}"⟩

/-- `KeyNetraEngine._evaluate_permission_graph`. -/
def evaluatePermissionGraph (input : AuthorizationInput) : Except PyError StageResult :=
  match input.permissionGraph with
  | none => .ok (abstainStage "permission_graph" "no authorization model")
  | some graph => do
      let decision ← evaluateGraph limits graph input
      .ok (graphStage "permission_graph" "permission graph did not apply" decision.outcome
        decision.reason decision.policyId)

/-! ## Condition handlers -/

def handleRole (value : Value) (input : AuthorizationInput) : Except PyError ConditionResult := do
  if ← eq limits (Dict.get input.user "role") value then .ok (true, none)
  else
    match Dict.getD input.user "roles" (.list []) with
    | .list roles => do
        let found ← roles.anyM fun role => eq limits role value
        .ok (conditionResult found "role mismatch")
    | _ => .ok (false, some "role mismatch")

def handleOwnerOnly (value : Value) (input : AuthorizationInput) :
    Except PyError ConditionResult :=
  if !value.truthy then .ok (true, none)
  else do
    let owns ← eq limits (Dict.get input.resource "owner_id") (Dict.get input.user "id")
    .ok (conditionResult owns "owner mismatch")

def handleGeoMatch (value : Value) (input : AuthorizationInput) :
    Except PyError ConditionResult :=
  match value with
  | .dict fields => do
      let userField := Dict.getD fields "user_field" (.str "country")
      let resourceField := Dict.getD fields "resource_field" (.str "country")
      match ← Dict.getValue input.user userField with
      | .null => .ok (false, some "geo mismatch")
      | there => do
          let here ← Dict.getValue input.resource resourceField
          let same ← eq limits there here
          .ok (conditionResult same "geo mismatch")
  | _ => .ok (false, some "invalid geo_match")

/-- The object of a `has_relation` condition. -/
def relationObject (fields : Dict) (input : AuthorizationInput) : Value :=
  match Dict.get fields "object_id", Dict.get fields "object_id_from_resource" with
  | .null, .str field => Dict.get input.resource field
  | objectId, _ => objectId

/-- The edge is the one asked for; the id is turned to a text where the rest agrees. -/
def edgeIs (relation objectType objectId : String) : Value → Except PyError Bool
  | .dict edge =>
      if Value.eq (Dict.get edge "relation") (.str relation) &&
          Value.eq (Dict.get edge "object_type") (.str objectType) then
        strIs limits (Dict.get edge "object_id") objectId
      else .ok false
  | _ => .ok false

def handleHasRelation (value : Value) (input : AuthorizationInput) :
    Except PyError ConditionResult :=
  match value with
  | .dict fields =>
      match Dict.get fields "relation", Dict.get fields "object_type",
          relationObject fields input with
      | _, _, .null => .ok (false, some "invalid has_relation")
      | .str relation, .str objectType, objectId =>
          match Dict.getD input.user "relations" (.list []) with
          | .list relations => do
              let objectText ← str limits objectId
              let linked ← relations.anyM (edgeIs limits relation objectType objectText)
              .ok (conditionResult linked "relation mismatch")
          | _ => .ok (false, some "no relations")
      | _, _, _ => .ok (false, some "invalid has_relation")
  | _ => .ok (false, some "invalid has_relation")

/-- `getattr(evaluator, f"handle_{key}", None)`. -/
def conditionHandler (key : String) :
    Option (Value → AuthorizationInput → Except PyError ConditionResult) :=
  match key with
  | "role" => some (handleRole limits)
  | "max_amount" => some handleMaxAmount
  | "owner_only" => some (handleOwnerOnly limits)
  | "time_range" => some handleTimeRange
  | "geo_match" => some (handleGeoMatch limits)
  | "has_relation" => some (handleHasRelation limits)
  | _ => none

/-- The loop of a compiled node over its checks. -/
def evaluateChecks (input : AuthorizationInput) :
    List (String × Value) → Except PyError ConditionResult
  | [] => .ok (true, none)
  | (key, value) :: checks =>
      match conditionHandler limits key with
      | none => .ok (false, some s!"unknown condition: {key}")
      | some handler => do
          let (matched, reason) ← handler value input
          if !matched then .ok (false, some (orText reason s!"{key} mismatch"))
          else evaluateChecks input checks

/-- The compiled form of a policy. -/
def node (policy : PolicyDefinition) : CompiledPolicyNode :=
  { policy.node with evaluate := fun input => evaluateChecks limits input policy.checked }

/-! ## The pipeline -/

/-- The stages in order, each run when the ones before abstain. -/
def runStages : List (Except PyError Stage) → List ExplainTraceStep →
    Except PyError (Sum AuthorizationDecision (List ExplainTraceStep))
  | [], trace => .ok (.inr trace)
  | stage :: stages, trace => do
      let stage ← stage
      if stage.result.outcome ≠ .abstain then
        .ok (.inl (decisionFromStage stage (trace ++ stage.result.trace)))
      else runStages stages (trace ++ stage.result.trace)

/-- `compile_policy_graph`, of policies that have been read. -/
def policyGraph (policies : List PolicyDefinition) : DecisionGraph :=
  ⟨(Lib.sortOn PolicyDefinition.priority policies).map (node limits)⟩

/-- The stage of the policies: the request's own `compiled_graph`, when it has one, else that of
the engine's policies. -/
def policyStage (policies : List PolicyDefinition) (input : AuthorizationInput)
    (override : Option DecisionGraph) : Except PyError Stage := do
  let decision ← (override.getD (policyGraph limits policies)).evaluate input
  .ok (.ofResult (graphStage "policy_graph" "no matching policy node" decision.outcome
    decision.reason decision.policyId))

/-- The stages, with the policy ids they report. -/
def stages (policies : List PolicyDefinition) (input : AuthorizationInput)
    (override : Option DecisionGraph) (userSubjects : List String) :
    List (Except PyError Stage) :=
  [.ok ⟨KeyNetra.evaluateDirectPermissions input, some "rbac:permissions", ["rbac:permissions"]⟩,
    (evaluateAcl limits input userSubjects).map .ofResult,
    .ok ⟨KeyNetra.evaluateRolePermissions input, some "rbac:role", ["rbac:role"]⟩,
    (evaluateRelationshipIndex limits input userSubjects).map fun result =>
      ⟨result, some "relationship:index", ["relationship:index"]⟩,
    (evaluatePermissionGraph limits input).map .ofResult,
    policyStage limits policies input override]

/-- `KeyNetraEngine._decide_structured`, of an engine with these policies; `override` is the
request's own `compiled_graph`, when it has one. -/
def decide (policies : List PolicyDefinition) (input : AuthorizationInput)
    (override : Option DecisionGraph := none) : Except PyError AuthorizationDecision := do
  let userSubjects ← subjectDescriptors limits input.user
  match ← runStages (stages limits policies input override userSubjects) (startTrace input) with
  | .inl decision => .ok decision
  | .inr trace => .ok (defaultDecision trace)

/-! ## The operations of the stages -/

/-- `_resource_identity` turns two values into texts. -/
def identityOps (resource : Dict) : List Operation :=
  [.text (typeValue resource), .text (idValue resource)]

/-- Those of the items of a list attribute. -/
def listOps : Value → List Operation
  | .list items => (items.filter given).flatMap fun item => [.text item]
  | _ => []

/-- Those of a relation edge. -/
def edgeOps : Value → List Operation
  | .dict edge => [.text (Dict.getD edge "relation" (.str "")),
      .text (Dict.getD edge "object_type" (.str "")), .text (Dict.getD edge "object_id" (.str ""))]
  | _ => []

/-- Those of the user's id. -/
def idOps : Value → List Operation
  | .null => []
  | userId => [.text userId]

/-- Those of the relation edges of the user. -/
def relationOps : Value → List Operation
  | .list relations => relations.flatMap edgeOps
  | _ => []

/-- Those of `_subject_descriptors`. -/
def subjectOps (user : Dict) : List Operation :=
  idOps (Dict.get user "id") ++ (listOps (Dict.getD user "roles" (.list [])) ++
    (listOps (Dict.getD user "permissions" (.list [])) ++
      (listOps (Dict.getD user "direct_permissions" (.list [])) ++
        relationOps (Dict.getD user "relations" (.list [])))))

/-- Those of `_acl_matches`, up to the first field that differs. -/
def aclMatchOps (entry : Dict) (resourceType resourceId action : String) : List Operation :=
  [.text (Dict.get entry "resource_type")] ++
    if (Dict.get entry "resource_type").text == resourceType then
      [.text (Dict.get entry "resource_id")] ++
        if (Dict.get entry "resource_id").text == resourceId then
          [.text (Dict.get entry "action")] ++
            if (Dict.get entry "action").text == action then
              [.text (Dict.getD entry "subject_type" (.str "")),
                .text (Dict.getD entry "subject_id" (.str ""))]
            else []
        else []
    else []

/-- Those of an entry that matched. -/
def aclDetailOps (entry : Dict) : List Operation :=
  [.text (Dict.getD entry "effect" (.str "deny")), .text (Dict.get entry "subject_type"),
    .text (Dict.get entry "subject_id"), .text (Dict.get entry "id")]

/-- Those of the loop of `_evaluate_acl`, up to the entry that decides. -/
def aclEntriesOps (input : AuthorizationInput) (resourceType resourceId : String)
    (userSubjects : List String) : List Dict → List Operation
  | [] => []
  | entry :: entries =>
      let rest := aclEntriesOps input resourceType resourceId userSubjects entries
      aclMatchOps entry resourceType resourceId input.action ++
        if KeyNetra.aclMatches entry resourceType resourceId input.action userSubjects then
          aclDetailOps entry ++ if entryEffect entry ∈ ["allow", "deny"] then [] else rest
        else rest

/-- Those of reading the entries from the index. -/
def aclStageOps (input : AuthorizationInput) : List Operation :=
  if input.aclEntries.isEmpty && !input.accessIndexEntries.isEmpty then
    input.accessIndexEntries.flatMap fun entry => [.text (Dict.get entry "source")]
  else []

/-- Those of `_evaluate_acl`. -/
def aclOps (input : AuthorizationInput) (userSubjects : List String) : List Operation :=
  let (resourceType, resourceId) := KeyNetraEngine.resourceIdentity input.resource
  identityOps input.resource ++
    if resourceType = "" ∨ resourceId = "" then []
    else aclStageOps input ++
      aclEntriesOps input resourceType resourceId userSubjects (KeyNetra.aclStageEntries input)

/-- Those of the allowed subjects of an index entry, up to the first of the user's. -/
def allowedOps (userSubjects : List String) : Value → List Operation
  | .list allowed =>
      Lib.upTo (fun subject => userSubjects.contains subject.text) (fun subject => [.text subject])
        allowed
  | _ => []

/-- Those of an index entry, up to the first field that differs. -/
def indexEntryOps (entry : Dict) (resourceType resourceId action : String)
    (userSubjects : List String) : List Operation :=
  [.text (Dict.get entry "source")] ++
    if (Dict.get entry "source").text == "relationship" then
      [.text (Dict.get entry "resource_type")] ++
        if (Dict.get entry "resource_type").text == resourceType then
          [.text (Dict.get entry "resource_id")] ++
            if (Dict.get entry "resource_id").text == resourceId then
              [.text (Dict.get entry "action")] ++
                if [action, "*"].contains (Dict.get entry "action").text then
                  allowedOps userSubjects (Dict.getD entry "allowed_subjects" (.list []))
                else []
            else []
        else []
    else []

/-- Those of `_evaluate_relationship_index`. -/
def relationshipOps (input : AuthorizationInput) (userSubjects : List String) : List Operation :=
  let (resourceType, resourceId) := KeyNetraEngine.resourceIdentity input.resource
  identityOps input.resource ++
    if resourceType = "" ∨ resourceId = "" then []
    else Lib.upTo
      (fun entry => KeyNetra.indexEntryMatches entry resourceType resourceId input.action
        userSubjects)
      (fun entry => indexEntryOps entry resourceType resourceId input.action userSubjects)
      input.accessIndexEntries

/-- Those of one edge of `_has_relation`. -/
def hasEdgeOps (name resourceType : String) : Value → List Operation
  | .dict edge =>
      [.text (Dict.get edge "relation")] ++
        if (Dict.get edge "relation").text == name then
          [.text (Dict.get edge "object_type")] ++
            if (Dict.get edge "object_type").text == resourceType then
              [.text (Dict.get edge "object_id")]
            else []
        else []
  | _ => []

/-- The edge has the relation, to the resource. -/
def edgeHas (name resourceType resourceId : String) : Value → Bool
  | .dict edge =>
      (Dict.get edge "relation").text == name &&
        (Dict.get edge "object_type").text == resourceType &&
        (Dict.get edge "object_id").text == resourceId
  | _ => false

/-- Those of `_has_relation`. -/
def hasRelationOps (input : AuthorizationInput) (resourceType name : String) : List Operation :=
  match Dict.getD input.user "relations" (.list []) with
  | .list relations =>
      .text (idValue input.resource) ::
        Lib.upTo (edgeHas name resourceType (idValue input.resource).text)
          (hasEdgeOps name resourceType) relations
  | _ => []

/-- Those of an expression, each operand one call deeper; `and` and `or` cut them short. -/
def exprOps (input : AuthorizationInput) (resourceType : String) (depth : Nat) :
    Expr → List Operation
  | .identifier name =>
      .call depth :: .call (depth + 1) :: hasRelationOps input resourceType name
  | .not value => .call depth :: exprOps input resourceType (depth + 1) value
  | .and left right =>
      .call depth :: (exprOps input resourceType (depth + 1) left ++
        if KeyNetra.evaluateExpr input resourceType left then
          exprOps input resourceType (depth + 1) right
        else [])
  | .or left right =>
      .call depth :: (exprOps input resourceType (depth + 1) left ++
        if KeyNetra.evaluateExpr input resourceType left then []
        else exprOps input resourceType (depth + 1) right)

/-- Those of `_evaluate_permission_graph`. -/
def graphOps (input : AuthorizationInput) : List Operation :=
  match input.permissionGraph with
  | none => []
  | some graph =>
      let resourceType := (graphTypeValue input.resource).text
      [.text (graphTypeValue input.resource), .text (idValue input.resource)] ++
        if resourceType = "" ∨ input.action = "" then []
        else
          match graph.model.permissions.get? input.action with
          | none => []
          | some permission => exprOps input resourceType 0 permission.expression

/-! ### Each stage performs its operations -/

variable {limits}

theorem performs_str (v : Value) : Lib.Performs limits (str limits v) [.text v] v.text :=
  Lib.performs_perform _ _

omit [PyRuntime] in
theorem performs_eq (a b : Value) :
    Lib.Performs limits (eq limits a b) [.compare a b] (Value.eq a b) :=
  Lib.performs_perform _ _

theorem performs_strIs (v : Value) (text : String) :
    Lib.Performs limits (strIs limits v text) [.text v] (v.text == text) :=
  (performs_str v).map rfl

theorem performs_resourceIdentity (resource : Dict) :
    Lib.Performs limits (resourceIdentity limits resource) (identityOps resource)
      (KeyNetraEngine.resourceIdentity resource) :=
  (performs_str _).bind ((performs_str _).map rfl)

/-- The items of a list that are given, and their descriptors. -/
theorem listDescriptors_list (kind : String) (items : List Value) :
    KeyNetra.listDescriptors kind (.list items) =
      (items.filter given).map fun item => s!"{kind}:{item.text}" := by
  show List.filterMap _ items = _
  induction items with
  | nil => rfl
  | cons item items ih =>
      rcases item with - | - | - | - | - | - | -
      case null => exact ih
      all_goals exact congrArg (List.cons _) ih

theorem performs_listDescriptors (kind : String) (v : Value) :
    Lib.Performs limits (listDescriptors limits kind v) (listOps v)
      (KeyNetra.listDescriptors kind v) := by
  rcases v with - | - | - | - | - | items | -
  case list =>
    rw [listDescriptors_list]
    apply Lib.performs_mapM
    intro item _
    exact (performs_str item).map rfl
  all_goals exact Lib.performs_ok []

theorem performs_edgeDescriptor (v : Value) :
    Lib.Performs limits (edgeDescriptor limits v) (edgeOps v) (edgeDescriptor? v) := by
  rcases v with - | - | - | - | - | - | edge
  case dict => exact (performs_str _).bind ((performs_str _).bind ((performs_str _).map rfl))
  all_goals exact Lib.performs_ok none

theorem performs_subjectDescriptors (input : AuthorizationInput) :
    Lib.Performs limits (subjectDescriptors limits input.user) (subjectOps input.user)
      (KeyNetra.subjectDescriptors input) := by
  -- a user without an id has no descriptor of its own
  have hid : ∀ v : Value, Lib.Performs limits (idDescriptor limits v) (idOps v)
      (match v with
        | .null => []
        | userId => [s!"user:{userId.text}"]) := by
    intro v
    rcases v with - | - | - | - | - | - | -
    case null => exact Lib.performs_ok []
    all_goals exact (performs_str _).map rfl
  -- of the relations, a list is gone through edge by edge
  have hrelations : ∀ v : Value, Lib.Performs limits (relationDescriptors limits v) (relationOps v)
      (match v with
        | .list relations => relations.filterMap edgeDescriptor?
        | _ => []) := by
    intro v
    rcases v with - | - | - | - | - | relations | -
    case list =>
      refine (Lib.performs_mapM fun edge _ => performs_edgeDescriptor edge).map ?_
      rw [List.filterMap_map]
      rfl
    all_goals exact Lib.performs_ok []
  -- the descriptors are collected in the order of the source
  apply (hid _).bind
  apply (performs_listDescriptors _ _).bind
  apply (performs_listDescriptors _ _).bind
  apply (performs_listDescriptors _ _).bind
  exact (hrelations _).map rfl

/-- The three comparisons of an entry, as the source makes them. -/
theorem aclMatches_eq (entry : Dict) (resourceType resourceId action : String)
    (userSubjects : List String) :
    KeyNetra.aclMatches entry resourceType resourceId action userSubjects =
      ((Dict.get entry "resource_type").text == resourceType &&
        ((Dict.get entry "resource_id").text == resourceId &&
          ((Dict.get entry "action").text == action &&
            aclSubjectMatches (Dict.getD entry "subject_type" (.str "")).text
              (Dict.getD entry "subject_id" (.str "")).text userSubjects))) := by
  unfold KeyNetra.aclMatches
  by_cases htype : (Dict.get entry "resource_type").text = resourceType
  · by_cases hid : (Dict.get entry "resource_id").text = resourceId
    · by_cases haction : (Dict.get entry "action").text = action
      · simp [htype, hid, haction]
      · simp [htype, hid, haction]
    · simp [htype, hid]
  · simp [htype]

theorem performs_aclMatches (entry : Dict) (resourceType resourceId action : String)
    (userSubjects : List String) :
    Lib.Performs limits (aclMatches limits entry resourceType resourceId action userSubjects)
      (aclMatchOps entry resourceType resourceId action)
      (KeyNetra.aclMatches entry resourceType resourceId action userSubjects) := by
  rw [aclMatches_eq]
  apply (performs_strIs _ _).and
  apply (performs_strIs _ _).and
  apply (performs_strIs _ _).and
  exact (performs_str _).bind ((performs_str _).map rfl)

/-- An entry that matches and neither allows nor denies is noted, and the loop goes on. -/
theorem evaluateAclEntries_noted {input : AuthorizationInput} {resourceType resourceId : String}
    {userSubjects : List String} {entry : Dict} {entries : List Dict} {matched : Bool}
    (hmatches : KeyNetra.aclMatches entry resourceType resourceId input.action userSubjects = true)
    (hallow : entryEffect entry ≠ "allow") (hdeny : entryEffect entry ≠ "deny") :
    KeyNetra.evaluateAclEntries input resourceType resourceId userSubjects (entry :: entries) matched =
      (let subjectType := (Dict.get entry "subject_type").text
        let subjectId := (Dict.get entry "subject_id").text
        let detail := s!"matched ACL entry {subjectType}:{subjectId} {input.action} " ++
          s!"{resourceType}:{resourceId}"
        let entryId := (Dict.get entry "id").text
        let rest := KeyNetra.evaluateAclEntries input resourceType resourceId userSubjects entries true
        { rest with trace := ⟨"acl", "abstain", detail, some s!"acl:{entryId}"⟩ :: rest.trace }) := by
  rw [KeyNetra.evaluateAclEntries, if_pos hmatches]
  dsimp only
  split
  · rename_i heq
    exact absurd heq hallow
  · rename_i heq
    exact absurd heq hdeny
  · rfl

theorem performs_evaluateAclEntries (input : AuthorizationInput) (resourceType resourceId : String)
    (userSubjects : List String) (entries : List Dict) (matched : Bool) :
    Lib.Performs limits
      (evaluateAclEntries limits input resourceType resourceId userSubjects entries matched)
      (aclEntriesOps input resourceType resourceId userSubjects entries)
      (KeyNetra.evaluateAclEntries input resourceType resourceId userSubjects entries matched) := by
  induction entries generalizing matched with
  | nil => exact Lib.performs_ok _
  | cons entry entries ih =>
      rw [evaluateAclEntries, aclEntriesOps]
      apply (performs_aclMatches _ _ _ _ _).bind
      by_cases hmatches : KeyNetra.aclMatches entry resourceType resourceId input.action
        userSubjects = true
      · rw [if_pos hmatches, if_pos hmatches]
        -- the four texts of a matching entry
        apply (performs_str _).bind
        apply (performs_str _).bind
        apply (performs_str _).bind
        apply (performs_str _).bind
        have heffect : pyLower (Dict.getD entry "effect" (.str "deny")).text = entryEffect entry :=
          rfl
        rw [heffect]
        by_cases hallow : entryEffect entry = "allow"
        · rw [KeyNetra.evaluateAclEntries, if_pos hmatches, hallow, if_pos (by simp)]
          exact Lib.performs_ok _
        · by_cases hdeny : entryEffect entry = "deny"
          · rw [KeyNetra.evaluateAclEntries, if_pos hmatches, hdeny, if_pos (by simp)]
            exact Lib.performs_ok _
          · rw [evaluateAclEntries_noted hmatches hallow hdeny, if_neg (by simp [hallow, hdeny])]
            split
            · rename_i heq
              exact absurd heq hallow
            · rename_i heq
              exact absurd heq hdeny
            · -- another effect is noted, and the walk goes on
              exact (ih true).map rfl
      · rw [KeyNetra.evaluateAclEntries, if_neg hmatches, if_neg hmatches, if_neg hmatches]
        exact ih matched

theorem performs_aclStageEntries (input : AuthorizationInput) :
    Lib.Performs limits (aclStageEntries limits input) (aclStageOps input)
      (KeyNetra.aclStageEntries input) := by
  unfold aclStageEntries aclStageOps KeyNetra.aclStageEntries
  split
  · exact Lib.performs_filterM fun entry _ => performs_strIs _ _
  · exact Lib.performs_ok _

theorem performs_evaluateAcl (input : AuthorizationInput) (userSubjects : List String) :
    Lib.Performs limits (evaluateAcl limits input userSubjects) (aclOps input userSubjects)
      (KeyNetra.evaluateAcl input userSubjects) := by
  have hidentity := @performs_resourceIdentity _ limits input.resource
  unfold evaluateAcl aclOps KeyNetra.evaluateAcl
  generalize KeyNetraEngine.resourceIdentity input.resource = identity at hidentity ⊢
  rcases identity with ⟨resourceType, resourceId⟩
  apply hidentity.bind
  dsimp only
  split
  · exact Lib.performs_ok _
  · apply (performs_aclStageEntries input).bind
    exact performs_evaluateAclEntries _ _ _ _ _ _

theorem performs_allowed (userSubjects : List String) (v : Value) :
    Lib.Performs limits
      (match v with
        | .list allowed => allowed.anyM fun subject => do
            let descriptor ← str limits subject
            .ok (userSubjects.contains descriptor)
        | _ => .ok false)
      (allowedOps userSubjects v)
      (match v with
        | .list allowed => allowed.any fun subject => userSubjects.contains subject.text
        | _ => false) := by
  rcases v with - | - | - | - | - | allowed | -
  case list =>
    apply Lib.performs_anyM
    intro subject _
    exact (performs_str subject).map rfl
  all_goals exact Lib.performs_ok false

theorem performs_indexEntryMatches (entry : Dict) (resourceType resourceId action : String)
    (userSubjects : List String) :
    Lib.Performs limits (indexEntryMatches limits entry resourceType resourceId action userSubjects)
      (indexEntryOps entry resourceType resourceId action userSubjects)
      (KeyNetra.indexEntryMatches entry resourceType resourceId action userSubjects) := by
  unfold KeyNetra.indexEntryMatches
  rw [Bool.and_assoc, Bool.and_assoc, Bool.and_assoc]
  apply (performs_strIs _ _).and
  apply (performs_strIs _ _).and
  apply (performs_strIs _ _).and
  apply Lib.Performs.and (a := [action, "*"].contains (Dict.get entry "action").text)
  · exact (performs_str _).map rfl
  · exact performs_allowed _ _

theorem performs_evaluateRelationshipIndex (input : AuthorizationInput)
    (userSubjects : List String) :
    Lib.Performs limits (evaluateRelationshipIndex limits input userSubjects)
      (relationshipOps input userSubjects)
      (KeyNetra.evaluateRelationshipIndex input userSubjects) := by
  have hidentity := @performs_resourceIdentity _ limits input.resource
  unfold evaluateRelationshipIndex relationshipOps KeyNetra.evaluateRelationshipIndex
  generalize KeyNetraEngine.resourceIdentity input.resource = identity at hidentity ⊢
  rcases identity with ⟨resourceType, resourceId⟩
  apply hidentity.bind
  dsimp only
  split
  · exact Lib.performs_ok _
  · refine (Lib.performs_anyM fun entry _ => performs_indexEntryMatches _ _ _ _ _).map ?_
    split
    · rfl
    · rfl

theorem performs_hasEdge (name resourceType resourceId : String) (v : Value) :
    Lib.Performs limits (hasEdge limits name resourceType resourceId v)
      (hasEdgeOps name resourceType v) (edgeHas name resourceType resourceId v) := by
  rcases v with - | - | - | - | - | - | edge
  case dict =>
    unfold edgeHas
    dsimp only
    rw [Bool.and_assoc]
    apply (performs_strIs _ _).and
    exact (performs_strIs _ _).and (performs_strIs _ _)
  all_goals exact Lib.performs_ok false

/-- The loop of `_has_relation` looks for an edge. -/
theorem hasRelation_list {input : AuthorizationInput} {relations : List Value}
    (h : Dict.getD input.user "relations" (.list []) = .list relations)
    (resourceType name : String) : KeyNetra.hasRelation input resourceType name =
      relations.any (edgeHas name resourceType (idValue input.resource).text) := by
  unfold KeyNetra.hasRelation
  rw [h]
  dsimp only
  congr 1

theorem performs_hasRelation (input : AuthorizationInput) (resourceType name : String) :
    Lib.Performs limits (hasRelation limits input resourceType name)
      (hasRelationOps input resourceType name) (KeyNetra.hasRelation input resourceType name) := by
  have hlist := @hasRelation_list _ input
  unfold hasRelation hasRelationOps
  rcases hrelations : Dict.getD input.user "relations" (.list []) with
    _ | _ | _ | _ | _ | relations | _
  case list =>
    rw [hlist hrelations]
    apply (performs_str (idValue input.resource)).bind
    exact Lib.performs_anyM fun v _ => performs_hasEdge _ _ _ v
  all_goals
    unfold KeyNetra.hasRelation
    rw [hrelations]
    exact Lib.performs_ok false

omit [PyRuntime] in
theorem performs_call (depth : Nat) :
    Lib.Performs limits (call limits depth) [.call depth] () := Lib.performs_perform _ _

/-- Each call comes before what is called in it. -/
theorem performs_evaluateExpr (input : AuthorizationInput) (resourceType : String) (depth : Nat)
    (e : Expr) :
    Lib.Performs limits (evaluateExpr limits input resourceType depth e)
      (exprOps input resourceType depth e) (KeyNetra.evaluateExpr input resourceType e) := by
  induction e generalizing depth with
  | identifier name =>
      apply (performs_call depth).bind
      apply (performs_call (depth + 1)).bind
      exact performs_hasRelation input resourceType name
  | not value ih =>
      apply (performs_call depth).bind
      exact (ih (depth + 1)).map rfl
  | and left right ihl ihr =>
      apply (performs_call depth).bind
      exact (ihl (depth + 1)).and (ihr (depth + 1))
  | or left right ihl ihr =>
      apply (performs_call depth).bind
      exact (ihl (depth + 1)).or (ihr (depth + 1))

theorem performs_evaluatePermissionGraph (input : AuthorizationInput) :
    Lib.Performs limits (evaluatePermissionGraph limits input) (graphOps input)
      (KeyNetra.evaluatePermissionGraph input) := by
  unfold evaluatePermissionGraph graphOps KeyNetra.evaluatePermissionGraph
  rcases input.permissionGraph with _ | graph
  · exact Lib.performs_ok _
  · refine Lib.Performs.map ?_ rfl
    unfold evaluateGraph CompiledPermissionGraph.evaluate
    apply (performs_str _).bind
    apply (performs_str _).bind
    have htype : (CompiledPermissionGraph.resourceIdentity input.resource).1 =
        (graphTypeValue input.resource).text := rfl
    rw [htype]
    dsimp only
    split
    · exact Lib.performs_ok _
    · rcases graph.model.permissions.get? input.action with _ | permission
      · exact Lib.performs_ok _
      · refine (performs_evaluateExpr _ _ _ _).map ?_
        dsimp only
        split
        · rfl
        · rfl

/-! ## When the handlers return -/

/-- The operations of `handle_role`. -/
def roleOps (value : Value) (input : AuthorizationInput) : List Operation :=
  [.compare (Dict.get input.user "role") value] ++
    if Value.eq (Dict.get input.user "role") value then []
    else
      match Dict.getD input.user "roles" (.list []) with
      | .list roles =>
          Lib.upTo (fun role => Value.eq role value) (fun role => [.compare role value]) roles
      | _ => []

/-- Those of `handle_owner_only`. -/
def ownerOps (value : Value) (input : AuthorizationInput) : List Operation :=
  if !value.truthy then []
  else [.compare (Dict.get input.resource "owner_id") (Dict.get input.user "id")]

/-- Those of an edge in `handle_has_relation`. -/
def edgeIsOps (relation objectType : String) : Value → List Operation
  | .dict edge =>
      if Value.eq (Dict.get edge "relation") (.str relation) &&
          Value.eq (Dict.get edge "object_type") (.str objectType) then
        [.text (Dict.get edge "object_id")]
      else []
  | _ => []

/-- The edge that a `has_relation` condition asks for. -/
def edgeMatches (relation objectType objectId : String) : Value → Bool
  | .dict edge =>
      Value.eq (Dict.get edge "relation") (.str relation) &&
        Value.eq (Dict.get edge "object_type") (.str objectType) &&
        (Dict.get edge "object_id").text == objectId
  | _ => false

/-- Those of `handle_has_relation`. -/
def relationConditionOps (value : Value) (input : AuthorizationInput) : List Operation :=
  match value with
  | .dict fields =>
      match Dict.get fields "relation", Dict.get fields "object_type",
          relationObject fields input with
      | _, _, .null => []
      | .str relation, .str objectType, objectId =>
          match Dict.getD input.user "relations" (.list []) with
          | .list relations =>
              .text objectId :: Lib.upTo (edgeMatches relation objectType objectId.text)
                (edgeIsOps relation objectType) relations
          | _ => []
      | _, _, _ => []
  | _ => []

/-- A value that can be the key of a dictionary. -/
def Hashable : Value → Prop
  | .list _ | .dict _ => False
  | _ => True

/-- `d.get(key)` for such a key. -/
def lookup (d : Dict) : Value → Value
  | .str key => Dict.get d key
  | _ => .null

/-- An integer that has no float. -/
def Overflows : Value → Prop
  | .int n => floatOfInt n = none
  | _ => False

variable (limits) in
/-- No operation of the list is refused. -/
def Allowed (ops : List Operation) : Prop := ∀ op ∈ ops, limits op = none

/-- `handle_max_amount` returns: neither number is too large for a float, the second where the
first is a number at all. -/
def AmountReturns (value : Value) (input : AuthorizationInput) : Prop :=
  let amount := Dict.getD input.resource "amount" (.int 0)
  ¬ Overflows amount ∧ ((∃ x, amount.toFloat = .ok x) → ¬ Overflows value)

variable (limits) in
/-- `handle_geo_match` returns: the fields it names can be keys, the second where the user has
the first. -/
def GeoReturns (value : Value) (input : AuthorizationInput) : Prop :=
  ∀ fields, value = .dict fields →
    let userField := Dict.getD fields "user_field" (.str "country")
    let resourceField := Dict.getD fields "resource_field" (.str "country")
    Hashable userField ∧ (lookup input.user userField ≠ .null → Hashable resourceField ∧
      Allowed limits [.compare (lookup input.user userField) (lookup input.resource resourceField)])

variable (limits) in
/-- The handler of a key returns. -/
def HandlerReturns (key : String) (value : Value) (input : AuthorizationInput) : Prop :=
  match key with
  | "role" => Allowed limits (roleOps value input)
  | "max_amount" => AmountReturns value input
  | "owner_only" => Allowed limits (ownerOps value input)
  | "geo_match" => GeoReturns limits value input
  | "has_relation" => Allowed limits (relationConditionOps value input)
  | _ => True

/-- A computation under limits, beside the same without: it returns when `returns` says so, and
then what the other returns. -/
structure Agrees (x y : Except PyError ConditionResult) (returns : Prop) : Prop where
  returns_iff : (∃ r, x = .ok r) ↔ returns
  same : ∀ r, x = .ok r → y = .ok r

omit [PyRuntime] in
theorem agrees_of_performs {x y : Except PyError ConditionResult} {ops : List Operation}
    {r : ConditionResult} (h : Lib.Performs limits x ops r) (hy : y = .ok r) :
    Agrees x y (Allowed limits ops) where
  returns_iff := h.returns_iff
  same := by
    intro r' hr'
    rw [hy, h.eq hr']

omit [PyRuntime] in
/-- A handler that meets no limits. -/
theorem agrees_self {x : Except PyError ConditionResult} {returns : Prop}
    (h : (∃ r, x = .ok r) ↔ returns) : Agrees x x returns := ⟨h, fun _ hr => hr⟩

omit [PyRuntime] in
theorem handleRole_agrees (value : Value) (input : AuthorizationInput) :
    Agrees (handleRole limits value input) (KeyNetra.handleRole value input)
      (Allowed limits (roleOps value input)) := by
  -- the list of roles is scanned up to the first that is equal
  have hroles : ∀ v : Value, Lib.Performs limits
      (match v with
        | .list roles => do
            let found ← roles.anyM fun role => eq limits role value
            .ok (conditionResult found "role mismatch")
        | _ => .ok (false, some "role mismatch"))
      (match v with
        | .list roles =>
            Lib.upTo (fun role => Value.eq role value) (fun role => [.compare role value]) roles
        | _ => [])
      (match v with
        | .list roles => conditionResult (value.isIn roles) "role mismatch"
        | _ => (false, some "role mismatch")) := by
    intro v
    rcases v with - | - | - | - | - | roles | -
    case list => exact (Lib.performs_anyM fun role _ => performs_eq role value).map rfl
    all_goals exact Lib.performs_ok _
  have hhandler : Lib.Performs limits (handleRole limits value input) (roleOps value input)
      (if Value.eq (Dict.get input.user "role") value then (true, none)
        else
          match Dict.getD input.user "roles" (.list []) with
          | .list roles => conditionResult (value.isIn roles) "role mismatch"
          | _ => (false, some "role mismatch")) := by
    apply (performs_eq _ _).bind
    split
    · exact Lib.performs_ok _
    · exact hroles _
  apply agrees_of_performs hhandler
  unfold KeyNetra.handleRole
  split
  · rfl
  · rcases Dict.getD input.user "roles" (.list []) with - | - | - | - | - | - | -
    all_goals rfl

omit [PyRuntime] in
theorem handleOwnerOnly_agrees (value : Value) (input : AuthorizationInput) :
    Agrees (handleOwnerOnly limits value input) (KeyNetra.handleOwnerOnly value input)
      (Allowed limits (ownerOps value input)) := by
  unfold handleOwnerOnly KeyNetra.handleOwnerOnly ownerOps
  split
  · exact agrees_of_performs (Lib.performs_ok _) rfl
  · exact agrees_of_performs ((performs_eq _ _).map rfl) rfl

theorem performs_edgeIs (relation objectType objectId : String) (v : Value) :
    Lib.Performs limits (edgeIs limits relation objectType objectId v)
      (edgeIsOps relation objectType v) (edgeMatches relation objectType objectId v) := by
  rcases v with - | - | - | - | - | - | edge
  case dict =>
    unfold edgeIs edgeIsOps edgeMatches
    dsimp only
    split
    · rename_i hmatch
      rw [hmatch, Bool.true_and]
      exact performs_strIs _ _
    · rename_i hmatch
      rw [Bool.eq_false_of_not_eq_true hmatch, Bool.false_and]
      exact Lib.performs_ok false
  all_goals exact Lib.performs_ok false

/-- The loop over the user's edges, in the three ways it is looked at. -/
theorem linked_agrees (relation objectType : String) (objectId relations : Value) :
    Agrees
      (match relations with
        | .list relations => do
            let objectText ← str limits objectId
            let linked ← relations.anyM (edgeIs limits relation objectType objectText)
            .ok (conditionResult linked "relation mismatch")
        | _ => .ok (false, some "no relations"))
      (match relations with
        | .list relations =>
            .ok (conditionResult (relations.any (edgeMatches relation objectType objectId.text))
              "relation mismatch")
        | _ => .ok (false, some "no relations"))
      (Allowed limits (match relations with
        | .list relations =>
            .text objectId :: Lib.upTo (edgeMatches relation objectType objectId.text)
              (edgeIsOps relation objectType) relations
        | _ => [])) := by
  rcases relations with - | - | - | - | - | relations | -
  case list =>
    refine agrees_of_performs ((performs_str objectId).bind ?_) rfl
    exact (Lib.performs_anyM fun v _ => performs_edgeIs _ _ _ v).map rfl
  all_goals exact agrees_of_performs (Lib.performs_ok _) rfl

/-- The handler without limits, by the same parts. -/
theorem handleHasRelation_dict (fields : Dict) (input : AuthorizationInput) :
    KeyNetra.handleHasRelation (.dict fields) input =
      match Dict.get fields "relation", Dict.get fields "object_type",
          relationObject fields input with
      | _, _, .null => .ok (false, some "invalid has_relation")
      | .str relation, .str objectType, objectId =>
          match Dict.getD input.user "relations" (.list []) with
          | .list relations =>
              .ok (conditionResult (relations.any (edgeMatches relation objectType objectId.text))
                "relation mismatch")
          | _ => .ok (false, some "no relations")
      | _, _, _ => .ok (false, some "invalid has_relation") := rfl

theorem handleHasRelation_agrees (value : Value) (input : AuthorizationInput) :
    Agrees (handleHasRelation limits value input) (KeyNetra.handleHasRelation value input)
      (Allowed limits (relationConditionOps value input)) := by
  rcases value with - | - | - | - | - | - | fields
  case dict =>
    rw [handleHasRelation_dict]
    unfold handleHasRelation relationConditionOps
    dsimp only
    generalize Dict.get fields "relation" = relation, Dict.get fields "object_type" = objectType,
      relationObject fields input = objectId
    split
    · exact agrees_of_performs (Lib.performs_ok _) rfl
    · exact linked_agrees _ _ _ _
    · exact agrees_of_performs (Lib.performs_ok _) rfl
  all_goals exact agrees_of_performs (Lib.performs_ok _) rfl

omit [PyRuntime] in
theorem getValue_eq (d : Dict) {key : Value} (h : Hashable key) :
    Dict.getValue d key = .ok (lookup d key) := by
  rcases key with _ | _ | _ | _ | _ | _ | _
  case list => exact absurd h id
  case dict => exact absurd h id
  all_goals rfl

omit [PyRuntime] in
theorem getValue_raises (d : Dict) {key : Value} (h : ¬ Hashable key) :
    ∃ e, Dict.getValue d key = .error e := by
  rcases key with _ | _ | _ | _ | _ | _ | _
  case list => exact ⟨_, rfl⟩
  case dict => exact ⟨_, rfl⟩
  all_goals exact absurd trivial h

omit [PyRuntime] in
theorem Agrees.congr {x y : Except PyError ConditionResult} {returns returns' : Prop}
    (h : Agrees x y returns) (hiff : returns ↔ returns') : Agrees x y returns' :=
  ⟨h.returns_iff.trans hiff, h.same⟩

omit [PyRuntime] in
theorem agrees_ok {r : ConditionResult} {returns : Prop} (h : returns) :
    Agrees (.ok r) (.ok r) returns :=
  agrees_self ⟨fun _ => h, fun _ => ⟨r, rfl⟩⟩

omit [PyRuntime] in
theorem agrees_error {e : PyError} {y : Except PyError ConditionResult} {returns : Prop}
    (h : ¬ returns) : Agrees (.error e) y returns where
  returns_iff := by
    constructor
    · rintro ⟨r, hr⟩
      cases hr
    · intro hreturns
      exact absurd hreturns h
  same := by
    intro r hr
    cases hr

omit [PyRuntime] in
theorem handleGeoMatch_agrees (value : Value) (input : AuthorizationInput) :
    Agrees (handleGeoMatch limits value input) (KeyNetra.handleGeoMatch value input)
      (GeoReturns limits value input) := by
  rcases value with _ | _ | _ | _ | _ | _ | fields
  case dict =>
    unfold handleGeoMatch KeyNetra.handleGeoMatch
    have hreturns : ∀ p, (Hashable (Dict.getD fields "user_field" (.str "country")) ∧
        (lookup input.user (Dict.getD fields "user_field" (.str "country")) ≠ .null →
          Hashable (Dict.getD fields "resource_field" (.str "country")) ∧ Allowed limits
            [.compare (lookup input.user (Dict.getD fields "user_field" (.str "country")))
              (lookup input.resource (Dict.getD fields "resource_field" (.str "country")))]) ↔
        p) → (p ↔ GeoReturns limits (.dict fields) input) := by
      intro p hp
      rw [← hp]
      constructor
      · rintro h fields' hfields
        cases hfields
        exact h
      · intro h
        exact h fields rfl
    refine Agrees.congr ?_ (hreturns _ Iff.rfl)
    dsimp only
    generalize Dict.getD fields "user_field" (.str "country") = userField,
      Dict.getD fields "resource_field" (.str "country") = resourceField
    by_cases huser : Hashable userField
    · rw [getValue_eq input.user huser, Lib.ok_bind, Lib.ok_bind]
      -- the second field is looked up where the user has the first
      rcases hthere : lookup input.user userField with _ | _ | _ | _ | _ | _ | _
      case null => exact agrees_ok ⟨huser, fun hnull => absurd rfl hnull⟩
      all_goals
        dsimp only
        by_cases hresource : Hashable resourceField
        · rw [getValue_eq input.resource hresource, Lib.ok_bind, Lib.ok_bind]
          refine Agrees.congr (agrees_of_performs ((performs_eq _ _).map rfl) rfl) ?_
          constructor
          · exact fun hallowed => ⟨huser, fun _ => ⟨hresource, hallowed⟩⟩
          · exact fun hreturns => (hreturns.2 Value.noConfusion).2
        · rcases getValue_raises input.resource hresource with ⟨e, he⟩
          rw [he]
          exact agrees_error fun hreturns => hresource (hreturns.2 Value.noConfusion).1
    · rcases getValue_raises input.user huser with ⟨e, he⟩
      rw [he]
      exact agrees_error fun hreturns => huser hreturns.1
  all_goals
    refine agrees_ok ?_
    rintro fields ⟨⟩

/-- The three ways a conversion to a float can end: a number too large for it is the only one
that `handle_max_amount` lets out. -/
theorem toFloat_cases (v : Value) :
    (Overflows v ∧ ∃ message, v.toFloat = .error (.overflowError message)) ∨
      (¬ Overflows v ∧ ∃ x, v.toFloat = .ok x) ∨
      (¬ Overflows v ∧ ∃ e, v.toFloat = .error e ∧
        ((∃ message, e = .typeError message) ∨ ∃ message, e = .valueError message)) := by
  rcases v with _ | b | n | x | s | xs | items
  · -- null
    exact .inr (.inr ⟨id, _, rfl, .inl ⟨_, rfl⟩⟩)
  · -- a boolean counts as an integer
    exact .inr (.inl ⟨id, _, rfl⟩)
  · -- an integer beyond the range of a float overflows
    have hoverflows : Overflows (.int n) ↔ floatOfInt n = none := Iff.rfl
    rw [hoverflows]
    unfold Value.toFloat
    dsimp only
    generalize floatOfInt n = converted
    rcases converted with _ | x
    · exact .inl ⟨rfl, _, rfl⟩
    · exact .inr (.inl ⟨Option.some_ne_none x, x, rfl⟩)
  · exact .inr (.inl ⟨id, _, rfl⟩)
  · -- a text, if it is a numeral
    unfold Value.toFloat
    dsimp only
    rcases PyRuntime.floatOfStr s with _ | x
    · exact .inr (.inr ⟨id, _, rfl, .inr ⟨_, rfl⟩⟩)
    · exact .inr (.inl ⟨id, x, rfl⟩)
  · exact .inr (.inr ⟨id, _, rfl, .inl ⟨_, rfl⟩⟩)
  · exact .inr (.inr ⟨id, _, rfl, .inl ⟨_, rfl⟩⟩)

theorem handleMaxAmount_returns_iff (value : Value) (input : AuthorizationInput) :
    (∃ r, handleMaxAmount value input = .ok r) ↔ AmountReturns value input := by
  unfold handleMaxAmount AmountReturns
  dsimp only
  generalize Dict.getD input.resource "amount" (.int 0) = amount
  -- `TypeError` and `ValueError` are caught, `OverflowError` is not
  rcases toFloat_cases amount with ⟨hoverflows, message, hfloat⟩ | ⟨hfits, x, hfloat⟩ |
    ⟨hfits, e, hfloat, hcaught⟩
  · rw [hfloat]
    constructor
    · rintro ⟨r, hr⟩
      cases hr
    · rintro ⟨hfits, -⟩
      exact absurd hoverflows hfits
  · rw [hfloat, Lib.ok_bind]
    rcases toFloat_cases value with ⟨hoverflows, message, hvalue⟩ | ⟨hfits', y, hvalue⟩ |
      ⟨hfits', e, hvalue, hcaught⟩
    · rw [hvalue]
      constructor
      · rintro ⟨r, hr⟩
        cases hr
      · rintro ⟨-, hfits'⟩
        exact absurd hoverflows (hfits' ⟨x, rfl⟩)
    · rw [hvalue]
      exact ⟨fun _ => ⟨hfits, fun _ => hfits'⟩, fun _ => ⟨_, rfl⟩⟩
    · rw [hvalue]
      rcases hcaught with ⟨message, rfl⟩ | ⟨message, rfl⟩
      · exact ⟨fun _ => ⟨hfits, fun _ => hfits'⟩, fun _ => ⟨_, rfl⟩⟩
      · exact ⟨fun _ => ⟨hfits, fun _ => hfits'⟩, fun _ => ⟨_, rfl⟩⟩
  · rw [hfloat]
    have hnone : (∃ x, (.error e : Except PyError PyFloat) = .ok x) → ¬ Overflows value := by
      rintro ⟨x, hx⟩
      cases hx
    rcases hcaught with ⟨message, rfl⟩ | ⟨message, rfl⟩
    · exact ⟨fun _ => ⟨hfits, hnone⟩, fun _ => ⟨_, rfl⟩⟩
    · exact ⟨fun _ => ⟨hfits, hnone⟩, fun _ => ⟨_, rfl⟩⟩

theorem handleTimeRange_returns (value : Value) (input : AuthorizationInput) :
    ∃ r, handleTimeRange value input = .ok r := by
  unfold handleTimeRange
  split
  · split
    · split
      · split
        · split
          · exact ⟨_, rfl⟩
          · exact ⟨_, rfl⟩
        · exact ⟨_, rfl⟩
      · exact ⟨_, rfl⟩
    · exact ⟨_, rfl⟩
  · exact ⟨_, rfl⟩

/-- Each handler, beside the handler without limits: an unknown key has none in either. -/
theorem conditionHandler_agrees (key : String) (value : Value) (input : AuthorizationInput) :
    (conditionHandler limits key = none ∧ KeyNetra.conditionHandler key = none ∧
        HandlerReturns limits key value input) ∨
      ∃ handler handler', conditionHandler limits key = some handler ∧
        KeyNetra.conditionHandler key = some handler' ∧
        Agrees (handler value input) (handler' value input) (HandlerReturns limits key value input) := by
  unfold conditionHandler
  split
  · exact .inr ⟨_, _, rfl, rfl, handleRole_agrees value input⟩
  · exact .inr ⟨_, _, rfl, rfl, agrees_self (handleMaxAmount_returns_iff value input)⟩
  · exact .inr ⟨_, _, rfl, rfl, handleOwnerOnly_agrees value input⟩
  · exact .inr ⟨_, _, rfl, rfl,
      agrees_self ⟨fun _ => trivial, fun _ => handleTimeRange_returns value input⟩⟩
  · exact .inr ⟨_, _, rfl, rfl, handleGeoMatch_agrees value input⟩
  · exact .inr ⟨_, _, rfl, rfl, handleHasRelation_agrees value input⟩
  · rename_i hrole hamount howner htime hgeo hrelation
    have hreturns := HandlerReturns.eq_6 limits key value input hrole hamount howner hgeo hrelation
    exact .inl ⟨rfl, KeyNetra.conditionHandler.eq_7 key hrole hamount howner htime hgeo hrelation,
      of_eq_true hreturns⟩

/-! ## When a decision returns -/

/-- A condition that the engine without limits finds to hold. -/
def Holds (key : String) (value : Value) (input : AuthorizationInput) : Prop :=
  ∃ handler reason, KeyNetra.conditionHandler key = some handler ∧
    handler value input = .ok (true, reason)

variable (limits) in
/-- The conditions of a policy up to the first that does not hold: none of their handlers
raises. -/
def ChecksReturn (input : AuthorizationInput) : List (String × Value) → Prop
  | [] => True
  | (key, value) :: checks =>
      HandlerReturns limits key value input ∧ (Holds key value input → ChecksReturn input checks)

/-- A policy all of whose conditions the engine without limits finds to hold. -/
def PolicyHolds (input : AuthorizationInput) (policy : PolicyDefinition) : Prop :=
  ∃ reason, evaluateConditions policy.checked input = .ok (true, reason)

variable (limits) in
/-- The policies up to the first that holds: none of their handlers raises. -/
def PoliciesReturn (input : AuthorizationInput) : List PolicyDefinition → Prop
  | [] => True
  | policy :: policies => ChecksReturn limits input policy.checked ∧
      (¬ PolicyHolds input policy → PoliciesReturn input policies)

/-- The nodes of a compiled graph up to the first that holds: none of those for the action of the
request raises. -/
def NodesReturn (input : AuthorizationInput) : List CompiledPolicyNode → Prop
  | [] => True
  | node :: nodes =>
      if node.action ≠ input.action then NodesReturn input nodes
      else ∃ matched reason, node.evaluate input = .ok (matched, reason) ∧
        (matched = false → NodesReturn input nodes)

variable (limits) in
/-- The stage of the policies returns: none of the engine's policies raises that is tried, or
none of the nodes of the request's own graph. -/
def PolicyStageReturns (policies : List PolicyDefinition) (input : AuthorizationInput) :
    Option DecisionGraph → Prop
  | none => PoliciesReturn limits input (candidates policies input.action)
  | some graph => NodesReturn input graph.nodes

variable (limits) in
/-- The stages up to the first that decides: none of their operations is refused. -/
def StagesReturn : List (List Operation × Outcome) → Prop → Prop
  | [], last => last
  | (ops, outcome) :: stages, last =>
      Allowed limits ops ∧ (outcome = .abstain → StagesReturn stages last)

variable (limits) in
/-- A decision returns: the subjects have texts, and so have the values that the stages reach;
where no stage before the policies decides, no policy raises that is tried. -/
def Returns (policies : List PolicyDefinition) (input : AuthorizationInput)
    (override : Option DecisionGraph := none) : Prop :=
  let userSubjects := KeyNetra.subjectDescriptors input
  Allowed limits (subjectOps input.user) ∧ StagesReturn limits
    [([], (KeyNetra.evaluateDirectPermissions input).outcome),
      (aclOps input userSubjects, (KeyNetra.evaluateAcl input userSubjects).outcome),
      ([], (KeyNetra.evaluateRolePermissions input).outcome),
      (relationshipOps input userSubjects,
        (KeyNetra.evaluateRelationshipIndex input userSubjects).outcome),
      (graphOps input, (KeyNetra.evaluatePermissionGraph input).outcome)]
    (PolicyStageReturns limits policies input override)

theorem evaluateChecks_agrees (input : AuthorizationInput) (checks : List (String × Value)) :
    Agrees (evaluateChecks limits input checks) (evaluateConditions checks input)
      (ChecksReturn limits input checks) := by
  induction checks with
  | nil => exact agrees_ok trivial
  | cons check checks ih =>
      rcases check with ⟨key, value⟩
      rw [evaluateChecks, evaluateConditions, ChecksReturn]
      rcases @conditionHandler_agrees _ limits key value input with
        ⟨hnone, hnone', hreturns⟩ | ⟨handler, handler', hhandler, hhandler', hagrees⟩
      · rw [hnone, hnone']
        refine agrees_ok ⟨hreturns, ?_⟩
        rintro ⟨handler, reason, hhandler, -⟩
        rw [hnone'] at hhandler
        cases hhandler
      · rw [hhandler, hhandler']
        dsimp only
        -- the limits can only turn an answer into an exception
        rcases hresult : handler value input with e | ⟨passed, reason⟩
        · refine agrees_error ?_
          rintro ⟨hreturns, -⟩
          rcases hagrees.returns_iff.mpr hreturns with ⟨r, hr⟩
          rw [hresult] at hr
          cases hr
        · have hreturns := hagrees.returns_iff.mp ⟨_, hresult⟩
          have hsame := hagrees.same _ hresult
          rw [hsame, Lib.ok_bind, Lib.ok_bind]
          rcases passed with - | -
          · refine agrees_ok ⟨hreturns, ?_⟩
            rintro ⟨held, reason', hheld, hholds⟩
            rw [hhandler'] at hheld
            cases hheld
            rw [hsame] at hholds
            cases hholds
          · refine ih.congr ?_
            constructor
            · exact fun hchecks => ⟨hreturns, fun _ => hchecks⟩
            · exact fun hchecks => hchecks.2 ⟨handler', reason, hhandler', hsame⟩

/-- The loop over policies of the action, beside the loop without limits. -/
theorem evaluateNodes_agrees {input : AuthorizationInput} {policies : List PolicyDefinition}
    (haction : ∀ policy ∈ policies, policy.action = input.action) (reason : Option String) :
    ((∃ decision, evaluateNodes input (policies.map (node limits)) reason = .ok decision) ↔
        PoliciesReturn limits input policies) ∧
      ∀ decision, evaluateNodes input (policies.map (node limits)) reason = .ok decision →
        evaluateNodes input (policies.map PolicyDefinition.node) reason = .ok decision := by
  induction policies generalizing reason with
  | nil =>
      refine ⟨?_, fun _ h => h⟩
      rcases reason with _ | reason
      · exact ⟨fun _ => trivial, fun _ => ⟨_, rfl⟩⟩
      · exact ⟨fun _ => trivial, fun _ => ⟨_, rfl⟩⟩
  | cons policy policies ih =>
      have hrest := ih fun other hother => haction other (List.mem_cons_of_mem _ hother)
      have hpolicy : (node limits policy).action = input.action :=
        haction policy List.mem_cons_self
      have hpolicy' : policy.node.action = input.action := haction policy List.mem_cons_self
      have hagrees := @evaluateChecks_agrees _ limits input policy.checked
      rw [← node_evaluate] at hagrees
      rw [List.map_cons, List.map_cons, PoliciesReturn]
      rcases hresult : (node limits policy).evaluate input with e | ⟨matched, why⟩
      · rw [evaluateNodes_raised hpolicy hresult]
        refine ⟨?_, fun _ h => nomatch h⟩
        constructor
        · rintro ⟨decision, hdecision⟩
          cases hdecision
        · rintro ⟨hchecks, -⟩
          rcases hagrees.returns_iff.mpr hchecks with ⟨r, hr⟩
          have hraised : evaluateChecks limits input policy.checked = .error e := hresult
          rw [hraised] at hr
          cases hr
      · have hchecks := hagrees.returns_iff.mp ⟨_, hresult⟩
        have hsame := hagrees.same _ hresult
        rcases matched with - | -
        · rw [evaluateNodes_failed hpolicy hresult, evaluateNodes_failed hpolicy' hsame]
          refine ⟨(hrest _).1.trans ?_, (hrest _).2⟩
          -- the policies behind one that fails are evaluated as well
          have hfails : ¬ PolicyHolds input policy := by
            rintro ⟨reason', hholds⟩
            rw [← node_evaluate, hsame] at hholds
            cases hholds
          constructor
          · exact fun hpolicies => ⟨hchecks, fun _ => hpolicies⟩
          · exact fun hpolicies => hpolicies.2 hfails
        · rw [evaluateNodes_held hpolicy hresult, evaluateNodes_held hpolicy' hsame]
          refine ⟨?_, fun _ h => h⟩
          -- the first that holds ends the walk
          have hholds : PolicyHolds input policy := by
            refine ⟨why, ?_⟩
            rw [← node_evaluate]
            exact hsame
          constructor
          · exact fun _ => ⟨hchecks, fun hfails => absurd hholds hfails⟩
          · exact fun _ => ⟨_, rfl⟩

omit [PyRuntime] in
/-- The loop over any nodes. -/
theorem evaluateNodes_returns_iff (input : AuthorizationInput) (nodes : List CompiledPolicyNode)
    (reason : Option String) :
    (∃ decision, evaluateNodes input nodes reason = .ok decision) ↔ NodesReturn input nodes := by
  induction nodes generalizing reason with
  | nil =>
      cases reason with
      | none => exact ⟨fun _ => trivial, fun _ => ⟨_, rfl⟩⟩
      | some reason => exact ⟨fun _ => trivial, fun _ => ⟨_, rfl⟩⟩
  | cons node nodes ih =>
      rw [evaluateNodes, NodesReturn]
      -- a policy of another action is skipped
      split
      · exact ih reason
      · rcases hresult : node.evaluate input with e | ⟨matched, why⟩
        · -- a policy that raises ends the stage
          rw [Lib.error_bind]
          constructor
          · rintro ⟨decision, hdecision⟩
            cases hdecision
          · rintro ⟨matched, why, hok, -⟩
            cases hok
        · rw [Lib.ok_bind]
          dsimp only
          cases matched with
          | false =>
              -- a policy that does not match hands on to the rest
              rw [if_neg Bool.false_ne_true, ih]
              constructor
              · exact fun hnodes => ⟨false, why, rfl, fun _ => hnodes⟩
              · rintro ⟨matched, why', hok, hnodes⟩
                cases hok
                exact hnodes rfl
          | true =>
              -- a policy that matches ends the stage with a decision
              rw [if_pos rfl]
              refine iff_of_true ⟨_, rfl⟩ ⟨true, why, rfl, ?_⟩
              intro hfalse
              cases hfalse

/-- The graph of the engine's policies, beside that without limits. -/
theorem policyGraph_agrees (policies : List PolicyDefinition) (input : AuthorizationInput) :
    ((∃ decision, (policyGraph limits policies).evaluate input = .ok decision) ↔
        PoliciesReturn limits input (candidates policies input.action)) ∧
      ∀ decision, (policyGraph limits policies).evaluate input = .ok decision →
        (listEngine policies).compiledGraph.evaluate input = .ok decision := by
  have haction : ∀ policy ∈ candidates policies input.action, policy.action = input.action := by
    intro policy hpolicy
    have hmem := Lib.mem_sortOn.mp hpolicy
    exact of_decide_eq_true (List.mem_filter.mp hmem).2
  -- nodes of other actions are skipped before anything is evaluated
  have hfilter : ((Lib.sortOn PolicyDefinition.priority policies).map (node limits)).filter
      (fun node => node.action = input.action) =
        (candidates policies input.action).map (node limits) := by
    rw [List.filter_map, candidates, ← Lib.sortOn_filter]
    rfl
  have hnodes := @evaluateNodes_agrees _ limits input _ haction none
  have hlimited : evaluateNodes input ((Lib.sortOn PolicyDefinition.priority policies).map
      (node limits)) none = evaluateNodes input
        ((candidates policies input.action).map (node limits)) none := by
    rw [evaluateNodes_filter, hfilter]
  have hengine := evaluate_listEngine policies input
  unfold policyGraph DecisionGraph.evaluate at *
  dsimp only at *
  rw [hlimited, hengine]
  exact hnodes

/-- A graph compiled from policies is one whose nodes are those of the policies. -/
theorem nodesReturn_policyGraph (policies : List PolicyDefinition) (input : AuthorizationInput) :
    NodesReturn input (policyGraph limits policies).nodes ↔
      PoliciesReturn limits input (candidates policies input.action) :=
  (evaluateNodes_returns_iff input _ none).symm.trans (policyGraph_agrees policies input).1

/-- The stage of the policies, beside the stage without limits. -/
theorem policyStage_agrees (policies : List PolicyDefinition) (input : AuthorizationInput)
    (override : Option DecisionGraph) :
    ((∃ stage, policyStage limits policies input override = .ok stage) ↔
        PolicyStageReturns limits policies input override) ∧
      ∀ stage, policyStage limits policies input override = .ok stage →
        ((listEngine policies).evaluateCompiledPolicies input override).map Stage.ofResult =
          .ok stage := by
  -- the graph that is evaluated, and the one without limits
  have hgraph : ∃ graph graph' : DecisionGraph,
      override.getD (policyGraph limits policies) = graph ∧
      override.getD (listEngine policies).compiledGraph = graph' ∧
      ((∃ decision, graph.evaluate input = .ok decision) ↔
        PolicyStageReturns limits policies input override) ∧
      ∀ decision, graph.evaluate input = .ok decision → graph'.evaluate input = .ok decision := by
    cases override with
    | none => exact ⟨_, _, rfl, rfl, policyGraph_agrees policies input⟩
    | some graph =>
        exact ⟨graph, graph, rfl, rfl, evaluateNodes_returns_iff input graph.nodes none,
          fun _ h => h⟩
  rcases hgraph with ⟨graph, graph', hlimited, hunlimited, hreturns, hsame⟩
  unfold policyStage KeyNetraEngine.evaluateCompiledPolicies
  rw [hlimited, hunlimited, ← hreturns]
  constructor
  · constructor
    · rintro ⟨stage, hstage⟩
      rcases Lib.bind_eq_ok.mp hstage with ⟨decision, hdecision, -⟩
      exact ⟨decision, hdecision⟩
    · rintro ⟨decision, hdecision⟩
      rw [hdecision]
      exact ⟨_, rfl⟩
  · intro stage hstage
    rcases Lib.bind_eq_ok.mp hstage with ⟨decision, hdecision, hstage⟩
    rw [hsame decision hdecision]
    exact hstage

/-- A stage, the operations it performs, and its result without limits. -/
structure StageRun where
  run : Except PyError Stage
  ops : List Operation
  stage : Stage

omit [PyRuntime] in
/-- The stages before the policies, and these, without limits. -/
def runAll (stages : List Stage) (policy : Except PyError Stage)
    (trace : List ExplainTraceStep) :
    Except PyError (Sum AuthorizationDecision (List ExplainTraceStep)) :=
  match KeyNetra.runStages stages trace with
  | .inl decision => .ok (.inl decision)
  | .inr trace => policy.map fun stage => KeyNetra.runStages [stage] trace

omit [PyRuntime] in
/-- A stage that is the last one. -/
theorem runStages_single (stage : Stage) (trace : List ExplainTraceStep) :
    runStages [.ok stage] trace = .ok (KeyNetra.runStages [stage] trace) := by
  rw [runStages, KeyNetra.runStages, Lib.ok_bind]
  split
  · rfl
  · rfl

omit [PyRuntime] in
/-- The policies run as the last stage. -/
theorem runStages_last (policy : Except PyError Stage) (trace : List ExplainTraceStep) :
    runStages [policy] trace = policy.map fun stage => KeyNetra.runStages [stage] trace := by
  cases policy with
  | error e => rfl
  | ok stage => exact runStages_single stage trace

omit [PyRuntime] in
/-- A stage that raises ends the run. -/
theorem runStages_raised {stage : Except PyError Stage} (hraised : ∀ ran, stage ≠ .ok ran)
    (stages : List (Except PyError Stage)) (trace : List ExplainTraceStep)
    (r : Sum AuthorizationDecision (List ExplainTraceStep)) :
    runStages (stage :: stages) trace ≠ .ok r := by
  intro hr
  rcases Lib.bind_eq_ok.mp hr with ⟨ran, hran, -⟩
  exact hraised ran hran

omit [PyRuntime] in
/-- The stages before the policies, and these, beside the stages without limits. -/
theorem runStages_agrees {runs : List StageRun}
    (hruns : ∀ r ∈ runs, Lib.Performs limits r.run r.ops r.stage)
    {policy policy' : Except PyError Stage} {last : Prop}
    (hpolicy : ((∃ stage, policy = .ok stage) ↔ last) ∧
      ∀ stage, policy = .ok stage → policy' = .ok stage) (trace : List ExplainTraceStep) :
    ((∃ r, runStages (runs.map StageRun.run ++ [policy]) trace = .ok r) ↔
        StagesReturn limits (runs.map fun r => (r.ops, r.stage.result.outcome)) last) ∧
      ∀ r, runStages (runs.map StageRun.run ++ [policy]) trace = .ok r →
        runAll (runs.map StageRun.stage) policy' trace = .ok r := by
  induction runs generalizing trace with
  | nil =>
      show ((∃ r, runStages [policy] trace = .ok r) ↔ last) ∧
        ∀ r, runStages [policy] trace = .ok r →
          policy'.map (fun stage => KeyNetra.runStages [stage] trace) = .ok r
      rw [runStages_last, ← hpolicy.1]
      cases policy with
      | error e =>
          refine ⟨⟨?_, ?_⟩, ?_⟩
          · rintro ⟨r, hr⟩
            cases hr
          · rintro ⟨stage, hstage⟩
            cases hstage
          · intro r hr
            cases hr
      | ok stage =>
          rw [hpolicy.2 stage rfl]
          exact ⟨iff_of_true ⟨_, rfl⟩ ⟨stage, rfl⟩, fun _ hr => hr⟩
  | cons run runs ih =>
      have hrun := hruns run List.mem_cons_self
      have hrest := fun trace => ih (fun r hr => hruns r (List.mem_cons_of_mem _ hr)) trace
      unfold runAll at hrest ⊢
      rw [List.map_cons, List.map_cons, List.map_cons, List.cons_append, StagesReturn,
        KeyNetra.runStages]
      by_cases hops : Allowed limits run.ops
      · rw [runStages, hrun.eq_ok hops, Lib.ok_bind]
        by_cases habstain : run.stage.result.outcome = .abstain
        · rw [if_neg (not_not.mpr habstain), if_neg (not_not.mpr habstain)]
          refine ⟨(hrest _).1.trans ?_, (hrest _).2⟩
          constructor
          · exact fun h => ⟨hops, fun _ => h⟩
          · exact fun h => h.2 habstain
        · rw [if_pos habstain, if_pos habstain]
          refine ⟨?_, fun _ h => h⟩
          constructor
          · exact fun _ => ⟨hops, fun h => absurd h habstain⟩
          · exact fun _ => ⟨_, rfl⟩
      · -- the operations go over a limit, and what the stage raises is not caught
        have hraised : ∀ stage, run.run ≠ .ok stage :=
          fun stage hstage => hops (hrun.returns_iff.mp ⟨stage, hstage⟩)
        constructor
        · apply iff_of_false
          · rintro ⟨r, hr⟩
            exact runStages_raised hraised _ _ r hr
          · rintro ⟨h, -⟩
            exact hops h
        · intro r hr
          exact absurd hr (runStages_raised hraised _ _ r)

variable (limits) in
/-- The stages before the policies, as the engine runs them. -/
def dataRuns (input : AuthorizationInput) (userSubjects : List String) : List StageRun :=
  [⟨.ok ⟨KeyNetra.evaluateDirectPermissions input, some "rbac:permissions", ["rbac:permissions"]⟩,
      [], ⟨KeyNetra.evaluateDirectPermissions input, some "rbac:permissions",
        ["rbac:permissions"]⟩⟩,
    ⟨(evaluateAcl limits input userSubjects).map .ofResult, aclOps input userSubjects,
      .ofResult (KeyNetra.evaluateAcl input userSubjects)⟩,
    ⟨.ok ⟨KeyNetra.evaluateRolePermissions input, some "rbac:role", ["rbac:role"]⟩, [],
      ⟨KeyNetra.evaluateRolePermissions input, some "rbac:role", ["rbac:role"]⟩⟩,
    ⟨(evaluateRelationshipIndex limits input userSubjects).map fun result =>
        ⟨result, some "relationship:index", ["relationship:index"]⟩,
      relationshipOps input userSubjects,
      ⟨KeyNetra.evaluateRelationshipIndex input userSubjects, some "relationship:index",
        ["relationship:index"]⟩⟩,
    ⟨(evaluatePermissionGraph limits input).map .ofResult, graphOps input,
      .ofResult (KeyNetra.evaluatePermissionGraph input)⟩]

omit [PyRuntime] in
/-- What a stage computes, with what it reports. -/
theorem Performs.stage {x : Except PyError StageResult} {ops : List Operation} {r : StageResult}
    (h : Lib.Performs limits x ops r) (f : StageResult → Stage) :
    Lib.Performs limits (x.map f) ops (f r) := by
  have hbind : x.map f = x >>= fun r => .ok (f r) := by
    rcases x with e | r
    · rfl
    · rfl
  rw [hbind]
  exact h.map rfl

theorem performs_dataRuns (input : AuthorizationInput) (userSubjects : List String) :
    ∀ r ∈ dataRuns limits input userSubjects, Lib.Performs limits r.run r.ops r.stage := by
  simp only [dataRuns, List.forall_mem_cons]
  refine ⟨Lib.performs_ok _, ?_, Lib.performs_ok _, ?_, ?_, ?_⟩
  · exact Performs.stage (performs_evaluateAcl input userSubjects) _
  · exact Performs.stage (performs_evaluateRelationshipIndex input userSubjects) _
  · exact Performs.stage (performs_evaluatePermissionGraph input) _
  · intro r hr
    cases hr

/-- How the engine without limits ends its stages. -/
theorem decide_of_runAll {engine : KeyNetraEngine} {input : AuthorizationInput}
    {override : Option DecisionGraph} {r : Sum AuthorizationDecision (List ExplainTraceStep)}
    (h : runAll (dataStages input) ((engine.evaluateCompiledPolicies input override).map
      Stage.ofResult) (startTrace input) = .ok r) :
    engine.decide input override = .ok (r.elim id defaultDecision) := by
  unfold runAll at h
  unfold KeyNetraEngine.decide
  rcases hrun : KeyNetra.runStages (dataStages input) (startTrace input) with decided | trace
  · rw [hrun] at h
    rw [← Except.ok.inj h]
    rfl
  · rw [hrun] at h
    dsimp only at h ⊢
    cases hpolicies : engine.evaluateCompiledPolicies input override with
    | error e =>
        rw [hpolicies] at h
        cases h
    | ok result =>
        rw [hpolicies] at h
        rw [← Except.ok.inj h, Lib.ok_bind]
        show _ = Except.ok ((KeyNetra.runStages [.ofResult result] trace).elim id defaultDecision)
        rcases KeyNetra.runStages [.ofResult result] trace with decided | trace
        · rfl
        · rfl

/-- The engine, beside the engine without limits. -/
theorem decide_agrees (policies : List PolicyDefinition) (input : AuthorizationInput)
    (override : Option DecisionGraph) :
    ((∃ decision, decide limits policies input override = .ok decision) ↔
        Returns limits policies input override) ∧
      ∀ decision, decide limits policies input override = .ok decision →
        (listEngine policies).decide input override = .ok decision := by
  have hsubjects := @performs_subjectDescriptors _ limits input
  have hruns := @performs_dataRuns _ limits input (KeyNetra.subjectDescriptors input)
  have hpolicy := @policyStage_agrees _ limits policies input override
  have hstages := runStages_agrees hruns hpolicy (startTrace input)
  have hallowed : (∃ userSubjects, subjectDescriptors limits input.user = .ok userSubjects) ↔
      Allowed limits (subjectOps input.user) := hsubjects.returns_iff
  have hlist : stages limits policies input override (KeyNetra.subjectDescriptors input) =
      (dataRuns limits input (KeyNetra.subjectDescriptors input)).map StageRun.run ++
        [policyStage limits policies input override] := rfl
  have hdata : (dataRuns limits input (KeyNetra.subjectDescriptors input)).map StageRun.stage =
      dataStages input := rfl
  unfold decide Returns
  -- the descriptors of the user come first, outside of any stage
  by_cases hops : Allowed limits (subjectOps input.user)
  · rw [hsubjects.eq_ok hops, Lib.ok_bind]
    constructor
    · constructor
      · rintro ⟨decision, hdecision⟩
        rcases Lib.bind_eq_ok.mp hdecision with ⟨r, hr, -⟩
        exact ⟨hops, hstages.1.mp ⟨r, hr⟩⟩
      · rintro ⟨-, hreturns⟩
        rcases hstages.1.mpr hreturns with ⟨r, hr⟩
        rw [hlist, hr, Lib.ok_bind]
        rcases r with decision | trace
        · exact ⟨_, rfl⟩
        · exact ⟨_, rfl⟩
    · intro decision hdecision
      rcases Lib.bind_eq_ok.mp hdecision with ⟨r, hr, hdecide⟩
      have hall := hstages.2 r hr
      rw [hdata] at hall
      rw [decide_of_runAll hall]
      rcases r with decided | trace
      · exact hdecide
      · exact hdecide
  · constructor
    · constructor
      · rintro ⟨decision, hdecision⟩
        rcases Lib.bind_eq_ok.mp hdecision with ⟨userSubjects, hsome, -⟩
        exact absurd (hallowed.mp ⟨userSubjects, hsome⟩) hops
      · rintro ⟨h, -⟩
        exact absurd h hops
    · intro decision hdecision
      rcases Lib.bind_eq_ok.mp hdecision with ⟨userSubjects, hsome, -⟩
      exact absurd (hallowed.mp ⟨userSubjects, hsome⟩) hops

/-- A decision returns exactly when the interpreter grants every text, comparison and nested call
it reaches, and no policy raises that it tries, whether they are the engine's or those of the
request's own graph. -/
theorem decide_returns_iff (limits : Limits) (policies : List PolicyDefinition)
    (input : AuthorizationInput) (override : Option DecisionGraph) :
    (∃ decision, decide limits policies input override = .ok decision) ↔
      Returns limits policies input override :=
  (decide_agrees policies input override).1

/-- And then it is that of the engine without limits. -/
theorem decide_eq_unlimited {policies : List PolicyDefinition} {input : AuthorizationInput}
    {override : Option DecisionGraph} {decision : AuthorizationDecision}
    (h : decide limits policies input override = .ok decision) :
    (listEngine policies).decide input override = .ok decision :=
  (decide_agrees policies input override).2 decision h

/-! ## Without limits -/

/-- Without limits the handlers are those of the engine without limits. -/
theorem conditionHandler_noLimits (key : String) :
    conditionHandler noLimits key = KeyNetra.conditionHandler key := by
  have hrole : handleRole noLimits = KeyNetra.handleRole := by
    funext value input
    have hagrees := @handleRole_agrees noLimits value input
    rcases hagrees.returns_iff.mpr (fun _ _ => rfl) with ⟨r, hr⟩
    rw [hr, hagrees.same r hr]
  have howner : handleOwnerOnly noLimits = KeyNetra.handleOwnerOnly := rfl
  have hgeo : handleGeoMatch noLimits = KeyNetra.handleGeoMatch := rfl
  have hrelation : handleHasRelation noLimits = KeyNetra.handleHasRelation := by
    funext value input
    have hagrees := @handleHasRelation_agrees _ noLimits value input
    rcases hagrees.returns_iff.mpr (fun _ _ => rfl) with ⟨r, hr⟩
    rw [hr, hagrees.same r hr]
  unfold conditionHandler
  rw [hrole, howner, hgeo, hrelation]
  rfl

theorem node_noLimits (policy : PolicyDefinition) : node noLimits policy = policy.node := by
  have hevaluate : (node noLimits policy).evaluate = policy.node.evaluate := by
    funext input
    rw [node_evaluate, ← evaluateChecks_eq]
    show evaluateChecks noLimits input policy.checked = _
    generalize policy.checked = checks
    induction checks with
    | nil => rfl
    | cons check checks ih =>
        rcases check with ⟨key, value⟩
        rw [evaluateChecks, conditionHandler_noLimits, ih]
        rfl
  unfold node at hevaluate ⊢
  dsimp only at hevaluate
  rw [hevaluate]

omit [PyRuntime] in
/-- Stages none of whose operations is refused. -/
theorem runStages_granted {runs : List StageRun} (hruns : ∀ r ∈ runs, r.run = .ok r.stage)
    (policy : Except PyError Stage) (trace : List ExplainTraceStep) :
    runStages (runs.map StageRun.run ++ [policy]) trace =
      runAll (runs.map StageRun.stage) policy trace := by
  induction runs generalizing trace with
  | nil =>
      rcases policy with e | stage
      · rfl
      · show runStages [.ok stage] trace = .ok (KeyNetra.runStages [stage] trace)
        rw [runStages, KeyNetra.runStages, Lib.ok_bind]
        split
        · rfl
        · rfl
  | cons run runs ih =>
      have hrest := fun trace => ih (fun r hr => hruns r (List.mem_cons_of_mem _ hr)) trace
      unfold runAll at hrest ⊢
      rw [List.map_cons, List.map_cons, List.cons_append, runStages, KeyNetra.runStages,
        hruns run List.mem_cons_self, Lib.ok_bind]
      split
      · rfl
      · exact hrest _

/-- The engine without limits is the engine of the other modules. -/
theorem decide_noLimits (policies : List PolicyDefinition) (input : AuthorizationInput)
    (override : Option DecisionGraph) :
    decide noLimits policies input override = (listEngine policies).decide input override := by
  -- without limits every operation is allowed, so every stage runs
  have hgranted : ∀ ops, Allowed noLimits ops := fun _ _ _ => rfl
  have hruns : ∀ r ∈ dataRuns noLimits input (KeyNetra.subjectDescriptors input),
      r.run = .ok r.stage := by
    intro r hr
    exact (performs_dataRuns input _ r hr).eq_ok (hgranted r.ops)
  have hpolicy : policyStage noLimits policies input override =
      ((listEngine policies).evaluateCompiledPolicies input override).map Stage.ofResult := by
    have hgraph : policyGraph noLimits policies = (listEngine policies).compiledGraph := by
      unfold policyGraph
      rw [funext node_noLimits]
      rfl
    unfold policyStage KeyNetraEngine.evaluateCompiledPolicies
    rw [hgraph]
    rcases (override.getD (listEngine policies).compiledGraph).evaluate input with e | decision
    · rfl
    · rfl
  have hstages := runStages_granted hruns
    (((listEngine policies).evaluateCompiledPolicies input override).map Stage.ofResult)
    (startTrace input)
  have hlist : stages noLimits policies input override (KeyNetra.subjectDescriptors input) =
      (dataRuns noLimits input (KeyNetra.subjectDescriptors input)).map StageRun.run ++
        [policyStage noLimits policies input override] := rfl
  have hdata : (dataRuns noLimits input (KeyNetra.subjectDescriptors input)).map StageRun.stage =
      dataStages input := rfl
  unfold decide KeyNetraEngine.decide
  rw [(performs_subjectDescriptors input).eq_ok (hgranted _), Lib.ok_bind, hlist, hpolicy, hstages,
    hdata]
  unfold runAll
  rcases KeyNetra.runStages (dataStages input) (startTrace input) with decided | trace
  · rfl
  · rcases (listEngine policies).evaluateCompiledPolicies input override with e | result
    · rfl
    · rfl

end Engine


/-! ## Requests that raise -/

section Concrete

attribute [local instance] plainRuntime

/-- At most a hundred may be spent. -/
def spendPolicy : PolicyDefinition :=
  { action := "spend", effect := .allow, conditions := [("max_amount", .int 100)] }

/-- An amount that no float holds. -/
def spendFortune : AuthorizationInput where
  user := [("id", .int 7)]
  resource := [("amount", .int ((10 ^ 400 : Nat) : Int))]
  action := "spend"

/-- A condition whose field is a list. -/
def listedField : PolicyDefinition :=
  { action := "spend", effect := .allow,
    conditions := [("geo_match", .dict [("user_field", .list [.str "country"])])] }

/-- A user whose id has 4301 digits. -/
def longId : AuthorizationInput where
  user := [("id", .int ((10 ^ 4300 : Nat) : Int))]
  resource := []
  action := "spend"

/-- A permission of so many alternatives, none of which the user has. -/
def alternatives : Nat → Expr
  | 0 => .identifier "owner"
  | n + 1 => .or (alternatives n) (.identifier "owner")

/-- A user who may spend as one of a thousand owners. -/
def manyOwners : AuthorizationInput where
  user := [("id", .int 7)]
  resource := [("type", .str "budget")]
  action := "spend"
  permissionGraph := some
    { tenantKey := "default"
      model :=
        { version := 1, types := ["user", "budget"], relations := [("owner", ["user"])]
          permissions := [("spend", ⟨"spend", alternatives 1000⟩)], raw := "" } }

/-- A huge amount raises an `OverflowError`, a listed field a `TypeError`, a user id beyond the
default limit of digits a `ValueError` whatever the policies, and a permission of a thousand
alternatives beyond the default recursion limit a `RecursionError`. -/
theorem engine_raises :
    ¬ (∀ limits policies input, ∃ decision, decide limits policies input = .ok decision) ∧
    (∀ decision, decide noLimits [spendPolicy] spendFortune ≠ .ok decision) ∧
    (∀ decision, decide noLimits [listedField] spendFortune ≠ .ok decision) ∧
    (∀ decision, decide (digitLimit 4300) [] longId ≠ .ok decision) ∧
    (∀ decision, decide (recursionLimit 1000) [] manyOwners ≠ .ok decision) := by
  have hraises : (decide noLimits [spendPolicy] spendFortune).isOk = false ∧
      (decide noLimits [listedField] spendFortune).isOk = false ∧
      (decide (digitLimit 4300) [] longId).isOk = false ∧
      (decide (recursionLimit 1000) [] manyOwners).isOk = false := by
    decide +kernel
  have hnever : ∀ x : Except PyError AuthorizationDecision, x.isOk = false →
      ∀ decision, x ≠ .ok decision := by
    rintro x hx decision rfl
    cases hx
  refine ⟨?_, hnever _ hraises.1, hnever _ hraises.2.1, hnever _ hraises.2.2.1,
    hnever _ hraises.2.2.2⟩
  intro hreturns
  rcases hreturns noLimits [spendPolicy] spendFortune with ⟨decision, hdecision⟩
  exact hnever _ hraises.1 decision hdecision

end Concrete

end Limited

end KeyNetra
