import KeyNetra.Engine.PolicyGraph

/-!
# KeyNetra.Services.PolicyDsl — a policy change written as text

`dsl_to_policy` reads a change from a YAML text: one block, `allow:` or `deny:`, with an
action, a priority, a policy key and conditions.

The YAML reader is a parameter; the values it gives are JSON-shaped.
-/

namespace KeyNetra

variable [PyRuntime]

/-- `yaml.safe_load`. -/
abbrev YamlReader := String → Except PyError Value

/-- What `dsl_to_policy` returns. -/
structure DslPolicy where
  action : String
  effect : Effect
  priority : Int
  conditions : Dict

/-- The block of a change, with its effect. -/
def dslBlock (data : Dict) : Except PyError (Value × Effect) :=
  if data.contains "allow" then .ok (Dict.get data "allow", .allow)
  else if data.contains "deny" then .ok (Dict.get data "deny", .deny)
  else .error (.valueError "dsl must start with allow: or deny:")

/-- `dsl_to_policy`. -/
def dslToPolicy (yaml : YamlReader) (dslText : String) : Except PyError DslPolicy := do
  let data ←
    match ← yaml dslText with
    | .dict (item :: items) => .ok (item :: items)
    | _ => .error (.valueError "invalid dsl")
  let (block, effect) ← dslBlock data
  let block ←
    match block with
    | .dict block => .ok block
    | _ => .error (.valueError "invalid dsl block")
  let action ←
    match Dict.get block "action" with
    | .str action => if action = "" then .error (.valueError "missing action") else .ok action
    | _ => .error (.valueError "missing action")
  let conditions : Dict ←
    match (Dict.get block "when").pyOr (.dict []) with
    | .dict conditions => .ok conditions
    | _ => .error (.valueError "when must be an object")
  let priority ← (Dict.getD block "priority" (.int 100)).toInt
  let policyKey := (Dict.get block "policy_key").pyOr (.str action)
  .ok ⟨action, effect, priority, conditions.set "policy_key" (.str policyKey.text)⟩

/-- The dictionary a changed policy is tried as. -/
def DslPolicy.raw (policy : DslPolicy) : Dict :=
  [("action", .str policy.action), ("effect", .str policy.effect.text),
    ("priority", .int policy.priority), ("conditions", .dict policy.conditions),
    ("policy_id", Dict.get policy.conditions "policy_key")]

/-- The policy the engine reads from it. -/
def DslPolicy.definition (policy : DslPolicy) : PolicyDefinition where
  action := policy.action
  effect := policy.effect
  conditions := policy.conditions
  priority := policy.priority
  policyId := (Dict.get policy.conditions "policy_key").optText

theorem parse_raw (policy : DslPolicy) :
    (PolicySource.raw policy.raw).parse = .ok policy.definition := by
  show PolicyDefinition.fromDict policy.raw = _
  have hpriority : Dict.getD policy.raw "priority" (.int 100) = .int policy.priority := rfl
  have hconditions : Dict.get policy.raw "conditions" = .dict policy.conditions := rfl
  have haction : Dict.getD policy.raw "action" (.str "") = .str policy.action := rfl
  have heffect : Dict.getD policy.raw "effect" (.str "deny") = .str policy.effect.text := rfl
  have hid : Dict.get policy.raw "policy_id" = Dict.get policy.conditions "policy_key" := rfl
  unfold PolicyDefinition.fromDict
  rw [hpriority, hconditions, haction, heffect, hid]
  simp [Value.toInt, DslPolicy.definition]

end KeyNetra
