import KeyNetra.Modeling.Schema

/-!
# KeyNetra.Engine.Conditions — requests and policy conditions

The explicit input of the decision engine, and the evaluator of a policy's
conditions.

* `AuthorizationInput` — the request with the data resolved for it;
* `handleRole` … `handleHasRelation` — one handler per condition key;
* `evaluateConditions` — the conditions in order, up to the first that fails.

A handler can raise (a huge integer has no float, a list is no dictionary key),
so it returns in `Except`.
-/

namespace KeyNetra

/-- The effect of a policy. -/
inductive Effect where
  | allow
  | deny
deriving DecidableEq, Repr

/-- The effect as the text the code stores. -/
def Effect.text : Effect → String
  | .allow => "allow"
  | .deny => "deny"

/-- `"allow" if text == "allow" else "deny"`. -/
def Effect.ofText (text : String) : Effect := if text = "allow" then .allow else .deny

@[simp] theorem Effect.ofText_text (e : Effect) : Effect.ofText e.text = e := by
  cases e <;> rfl

/-- What a stage of the engine can answer. -/
inductive Outcome where
  | allow
  | deny
  | abstain
deriving DecidableEq, Repr

def Outcome.text : Outcome → String
  | .allow => "allow"
  | .deny => "deny"
  | .abstain => "abstain"

def Effect.outcome : Effect → Outcome
  | .allow => .allow
  | .deny => .deny

/-- A compiled authorization model, with the tenant it belongs to. -/
structure CompiledPermissionGraph where
  tenantKey : String
  model : CompiledAuthorizationModel
deriving DecidableEq, Repr

/-- The explicit request supplied to the engine. The source's optional
`compiled_graph` is an argument of the policy stage instead. -/
structure AuthorizationInput where
  user : Dict
  resource : Dict
  action : String
  context : Dict := []
  aclEntries : List Dict := []
  accessIndexEntries : List Dict := []
  permissionGraph : Option CompiledPermissionGraph := none
  tenantKey : Option String := none

/-! ## Condition handlers -/

/-- Whether the condition holds, and the reason when it does not. -/
abbrev ConditionResult := Bool × Option String

/-- `return ok, None if ok else reason`. -/
def conditionResult (ok : Bool) (reason : String) : ConditionResult :=
  (ok, if ok then none else some reason)

variable [PyRuntime]

def handleRole (value : Value) (input : AuthorizationInput) : Except PyError ConditionResult :=
  if Value.eq (Dict.get input.user "role") value then .ok (true, none)
  else
    match Dict.getD input.user "roles" (.list []) with
    | .list roles => .ok (conditionResult (value.isIn roles) "role mismatch")
    | _ => .ok (false, some "role mismatch")

/-- A `TypeError` or `ValueError` of `float` is caught, an `OverflowError` is not. -/
def handleMaxAmount (value : Value) (input : AuthorizationInput) :
    Except PyError ConditionResult :=
  let amount := Dict.getD input.resource "amount" (.int 0)
  match (do .ok ((← amount.toFloat), (← value.toFloat))) with
  | .ok (x, y) => .ok (conditionResult (x.le y) "max_amount exceeded")
  | .error (.typeError _) | .error (.valueError _) => .ok (false, some "invalid amount")
  | .error e => .error e

def handleOwnerOnly (value : Value) (input : AuthorizationInput) :
    Except PyError ConditionResult :=
  if !value.truthy then .ok (true, none)
  else .ok (conditionResult
    (Value.eq (Dict.get input.resource "owner_id") (Dict.get input.user "id")) "owner mismatch")

/-- The two fields of `%H:%M`: one or two digits each, at most 23 and at most 59. -/
def parseTimeField (first : List Char) (bounded : Char → Char → Bool) : List Char → Option Nat
  | [d] => PyRuntime.decimal d
  | [c, d] =>
      if c ∈ first ∧ bounded c d then do
        let tens ← PyRuntime.decimal c
        let units ← PyRuntime.decimal d
        some (10 * tens + units)
      else none
  | _ => none

/-- `datetime.strptime(text, "%H:%M").time()`, in minutes. -/
def parseTime (text : String) : Option Nat :=
  match text.toList.span (· ≠ ':') with
  | (hours, ':' :: minutes) => do
      let h ← parseTimeField ['0', '1', '2']
        (fun c d => c ≠ '2' || d ∈ ['0', '1', '2', '3']) hours
      let m ← parseTimeField ['0', '1', '2', '3', '4', '5'] (fun _ _ => true) minutes
      some (60 * h + m)
  | _ => none

def handleTimeRange (value : Value) (input : AuthorizationInput) :
    Except PyError ConditionResult :=
  match value with
  | .dict range =>
      match Dict.get range "start", Dict.get range "end" with
      | .str start, .str stop =>
          match Dict.get input.context "current_time" with
          | .str current =>
              match parseTime start, parseTime stop, parseTime current with
              | some startValue, some endValue, some currentValue =>
                  if startValue ≤ endValue then
                    .ok (conditionResult
                      (startValue ≤ currentValue && currentValue ≤ endValue) "time_range mismatch")
                  else
                    -- the range runs over midnight
                    .ok (conditionResult
                      (startValue ≤ currentValue || currentValue ≤ endValue) "time_range mismatch")
              | _, _, _ => .ok (false, some "invalid time_range")
          | _ => .ok (false, some "missing context.current_time")
      | _, _ => .ok (false, some "invalid time_range")
  | _ => .ok (false, some "invalid time_range")

def handleGeoMatch (value : Value) (input : AuthorizationInput) :
    Except PyError ConditionResult :=
  match value with
  | .dict fields => do
      let userField := Dict.getD fields "user_field" (.str "country")
      let resourceField := Dict.getD fields "resource_field" (.str "country")
      match ← Dict.getValue input.user userField with
      | .null => .ok (false, some "geo mismatch")
      | there =>
          let here ← Dict.getValue input.resource resourceField
          .ok (conditionResult (Value.eq there here) "geo mismatch")
  | _ => .ok (false, some "invalid geo_match")

def handleHasRelation (value : Value) (input : AuthorizationInput) :
    Except PyError ConditionResult :=
  match value with
  | .dict fields =>
      let objectId :=
        match Dict.get fields "object_id", Dict.get fields "object_id_from_resource" with
        | .null, .str field => Dict.get input.resource field
        | objectId, _ => objectId
      match Dict.get fields "relation", Dict.get fields "object_type", objectId with
      | _, _, .null => .ok (false, some "invalid has_relation")
      | .str relation, .str objectType, objectId =>
          match Dict.getD input.user "relations" (.list []) with
          | .list relations =>
              let linked := relations.any fun
                | .dict edge =>
                    Value.eq (Dict.get edge "relation") (.str relation) &&
                      Value.eq (Dict.get edge "object_type") (.str objectType) &&
                      (Dict.get edge "object_id").text == objectId.text
                | _ => false
              .ok (conditionResult linked "relation mismatch")
          | _ => .ok (false, some "no relations")
      | _, _, _ => .ok (false, some "invalid has_relation")
  | _ => .ok (false, some "invalid has_relation")

/-- `getattr(evaluator, f"handle_{key}", None)`. -/
def conditionHandler (key : String) :
    Option (Value → AuthorizationInput → Except PyError ConditionResult) :=
  match key with
  | "role" => some handleRole
  | "max_amount" => some handleMaxAmount
  | "owner_only" => some handleOwnerOnly
  | "time_range" => some handleTimeRange
  | "geo_match" => some handleGeoMatch
  | "has_relation" => some handleHasRelation
  | _ => none

/-! ## The evaluator -/

/-- `ConditionEvaluator.evaluate`. -/
def evaluateConditions (conditions : Dict) (input : AuthorizationInput) :
    Except PyError ConditionResult :=
  match conditions with
  | [] => .ok (true, none)
  | (key, value) :: rest =>
      match conditionHandler key with
      | none => .ok (false, some s!"unknown condition: {key}")
      | some handler => do
          let (ok, reason) ← handler value input
          if ok then evaluateConditions rest input
          else .ok (false, some (orText reason s!"{key} mismatch"))

/-- A failure carries a reason, a success none. -/
theorem evaluateConditions_reason {conditions : Dict} {input : AuthorizationInput} {ok : Bool}
    {reason : Option String} (h : evaluateConditions conditions input = .ok (ok, reason)) :
    ok = true ∧ reason = none ∨ ∃ r, ok = false ∧ reason = some r := by
  induction conditions with
  | nil =>
      cases h
      exact Or.inl ⟨rfl, rfl⟩
  | cons item rest ih =>
      obtain ⟨key, value⟩ := item
      rw [evaluateConditions] at h
      cases hk : conditionHandler key with
      | none =>
          rw [hk] at h
          cases h
          exact Or.inr ⟨_, rfl, rfl⟩
      | some handler =>
          simp only [hk] at h
          obtain ⟨⟨passed, why⟩, -, h⟩ := Lib.bind_eq_ok.mp h
          cases passed with
          | true => exact ih h
          | false =>
              cases h
              exact Or.inr ⟨_, rfl, rfl⟩

end KeyNetra
