import KeyNetra.Engine.SinglePolicy
import KeyNetra.Services.PolicyDsl

/-!
# KeyNetra.Services.PolicyReaders — the readers of a policy object

A policy reaches the engine as an object: in a policy file, in the text of a change, in a policy
test, or in `KEYNETRA_POLICIES_JSON`. Each has a reader of its own. An object is a block, `allow:` or
`deny:` with the rest below it, or flat, with an action and an effect.

* `policyFromEffectBlock`, `flatPolicy`, `normalizePolicyPayload` — the file loader;
* `dslToPolicy` — the text of a change, and `parsePolicyEntry` — a policy test;
* `policyFromEffectBlock_iff`, `dslToPolicy_iff`, `flatPolicy_iff`, `parsePolicyEntry_flat` — what
  each accepts, and the policy that it makes of it.
-/

namespace KeyNetra

section Readers

variable [PyRuntime]

/-! ## The file loader -/

/-- An element of `dict(pairs)`: two items in order, the first hashable. A key that is not a text has
no handler, and stands by its text. -/
def pairOf : Value → Except PyError (String × Value)
  | .list [.list _, _] | .list [.dict _, _] => .error (.typeError "unhashable type")
  | .list [key, value] => .ok (key.text, value)
  | .dict [(key, _), (value, _)] => .ok (key, .str value)
  | .str text =>
      match text.toList with
      | [key, value] => .ok (String.singleton key, .str (String.singleton value))
      | _ => .error (.valueError "dictionary update sequence element is not of length 2")
  | .list _ | .dict _ =>
      .error (.valueError "dictionary update sequence element is not of length 2")
  | _ => .error (.typeError "cannot convert dictionary update sequence element to a sequence")

/-- `dict(value)`. -/
def pyDict : Value → Except PyError Dict
  | .dict items => .ok items
  | .list elements => do
      let pairs ← elements.mapM pairOf
      .ok (pairs.foldl (fun items (key, value) => items.set key value) [])
  | .str text =>
      -- the elements are characters
      if text = "" then .ok []
      else .error (.valueError "dictionary update sequence element is not of length 2")
  | _ => .error (.typeError "object is not iterable")

/-- `_policy_from_effect_block`. -/
def policyFromEffectBlock (payload : Dict) : Except PyError Dict := do
  let (effect, block) :=
    if payload.contains "allow" then (Effect.allow, Dict.get payload "allow")
    else (Effect.deny, Dict.get payload "deny")
  let block ←
    match block with
    | .dict block => .ok block
    | _ => .error (.valueError "policy block must be an object")
  let action := pyStrip (Dict.getD block "action" (.str "")).text
  if action = "" then .error (.valueError "policy action is required")
  else do
    let conditions : Dict ←
      match (Dict.get block "when").pyOr ((Dict.get block "conditions").pyOr (.dict [])) with
      | .dict conditions => .ok conditions
      | _ => .error (.valueError "policy conditions must be an object")
    let priority ← (Dict.getD block "priority" (.int 100)).toInt
    .ok (PolicyDefinition.toDict
      { action, effect, priority, conditions
        policyId := (Dict.get block "policy_id").optText })

/-- The part of `_normalize_policy_payload` for an object with an action. -/
def flatPolicy (payload : Dict) : Except PyError Dict := do
  let effect := pyLower (Dict.getD payload "effect" (.str "deny")).text
  let priority ← (Dict.getD payload "priority" (.int 100)).toInt
  let conditions ← pyDict ((Dict.get payload "conditions").pyOr (.dict []))
  .ok (PolicyDefinition.toDict
    { action := (Dict.getD payload "action" (.str "")).text
      effect := .ofText effect
      priority, conditions
      policyId := (Dict.get payload "policy_id").optText })

omit [PyRuntime] in
/-- What an object holds is smaller than the object. -/
theorem sizeOf_get_lt {fields : Dict} {key : String} {items : List Value}
    (h : Dict.get fields key = .list items) :
    sizeOf (Value.list items) < sizeOf (Value.dict fields) := by
  induction fields with
  | nil => cases h
  | cons field fields ih =>
      rcases field with ⟨name, value⟩
      simp only [Dict.get, Assoc.get?_cons] at h
      by_cases hname : name = key
      · rw [if_pos hname] at h
        have hvalue : value = .list items := h
        rw [hvalue]
        simp
        omega
      · rw [if_neg hname] at h
        have hrest := ih h
        simp at hrest ⊢
        omega

/-- `_normalize_policy_payload`. -/
def normalizePolicyPayload (payload : Value) : Except PyError (List Dict) :=
  match payload with
  | .null => .ok []
  | .list items => do
      let policies ← items.attach.mapM fun ⟨item, _⟩ => normalizePolicyPayload item
      .ok policies.flatten
  | .dict fields =>
      match _h : Dict.get fields "policies" with
      | .list items => normalizePolicyPayload (.list items)
      | _ =>
          if Assoc.contains fields "allow" || Assoc.contains fields "deny" then do
            .ok [← policyFromEffectBlock fields]
          else if Assoc.contains fields "action" then do .ok [← flatPolicy fields]
          else .error (.valueError "invalid policy payload")
  | _ => .error (.valueError "invalid policy payload")
termination_by payload
decreasing_by
  · rename_i hitem
    have hless := List.sizeOf_lt_of_mem hitem
    simp
    omega
  · exact sizeOf_get_lt _h

/-! ## The policy test -/

/-- What `dsl_to_policy` returns, as a dictionary. -/
def DslPolicy.dict (policy : DslPolicy) : Dict :=
  [("action", .str policy.action), ("effect", .str policy.effect.text),
    ("priority", .int policy.priority), ("conditions", .dict policy.conditions)]

/-- The checks of `_parse_policy_entry` on the fields of a flat object. -/
def testedAction (index : Nat) (fields : Dict) : Except PyError String :=
  match Dict.get fields "action" with
  | .str action =>
      if action = "" then .error (.valueError s!"policy #{index} is missing action")
      else .ok action
  | _ => .error (.valueError s!"policy #{index} is missing action")

def testedEffect (index : Nat) (fields : Dict) : Except PyError Effect :=
  match Dict.get fields "effect" with
  | .str effect =>
      if effect = "allow" then .ok .allow
      else if effect = "deny" then .ok .deny
      else .error (.valueError s!"policy #{index} effect must be allow or deny")
  | .list _ | .dict _ => .error (.typeError "unhashable type")
  | _ => .error (.valueError s!"policy #{index} effect must be allow or deny")

def testedConditions (index : Nat) (fields : Dict) : Except PyError Dict :=
  match (Dict.get fields "conditions").pyOr (.dict []) with
  | .dict conditions => .ok conditions
  | _ => .error (.valueError s!"policy #{index} conditions must be an object")

def testedPolicyId (index : Nat) (fields : Dict) : Except PyError String :=
  match Dict.get fields "policy_id" with
  | .null => .ok s!"policy-{index}"
  | .str policyId => .ok (if policyId = "" then s!"policy-{index}" else policyId)
  | _ => .error (.valueError s!"policy #{index} policy_id must be a string")

/-- The id of a block of a policy test: its key. -/
def blockPolicyId (index : Nat) (conditions : Dict) : String :=
  match Dict.get conditions "policy_key" with
  | .str policyKey => policyKey
  | _ => s!"policy-{index}"

/-- `_parse_policy_entry`; a block is written out as YAML and read as the text of a change. -/
def parsePolicyEntry (yaml : YamlReader) (dump : Dict → String) (index : Nat) (entry : Value) :
    Except PyError Dict :=
  match entry with
  | .dict fields =>
      if Assoc.contains fields "allow" || Assoc.contains fields "deny" then do
        let parsed ← dslToPolicy yaml (dump fields)
        .ok (PolicyDefinition.toDict
          { action := parsed.action
            effect := parsed.effect
            priority := parsed.priority
            conditions := parsed.conditions.filter fun (key, _) => key ≠ "policy_key"
            policyId := some (blockPolicyId index parsed.conditions) })
      else do
        let action ← testedAction index fields
        let effect ← testedEffect index fields
        let priority ← (Dict.getD fields "priority" (.int 100)).toInt
        let conditions ← testedConditions index fields
        let policyId ← testedPolicyId index fields
        .ok (PolicyDefinition.toDict
          { action, effect, priority, conditions, policyId := some policyId })
  | _ => .error (.valueError s!"policy #{index} must be an object")

/-! ## What a block is read as -/

/-- The fields of a block that its readers share. -/
structure BlockFields (payload block : Dict) (effect : Effect) (action : String)
    (priority : Int) : Prop where
  found : dslBlock payload = .ok (.dict block, effect)
  action : Dict.get block "action" = .str action
  priority : (Dict.getD block "priority" (.int 100)).toInt = .ok priority

/-- An object with a block. -/
def IsBlock (payload : Dict) : Prop :=
  payload.contains "allow" = true ∨ payload.contains "deny" = true

variable {payload block : Dict} {effect : Effect} {action : String} {priority : Int}

/-- The block and its effect, as the file loader takes them. -/
theorem BlockFields.pair (h : BlockFields payload block effect action priority) :
    (if payload.contains "allow" then (Effect.allow, Dict.get payload "allow")
      else (Effect.deny, Dict.get payload "deny")) = (effect, .dict block) := by
  have hblock := h.found
  unfold dslBlock at hblock
  split_ifs at hblock with hallow hdeny
  · have hpair := Prod.mk.inj (Except.ok.inj hblock)
    rw [if_pos hallow, hpair.1, hpair.2]
  · have hpair := Prod.mk.inj (Except.ok.inj hblock)
    rw [if_neg hallow, hpair.1, hpair.2]

theorem BlockFields.isBlock (h : BlockFields payload block effect action priority) :
    IsBlock payload := by
  have hblock := h.found
  unfold dslBlock at hblock
  split_ifs at hblock with hallow hdeny
  · exact .inl hallow
  · exact .inr hdeny

omit [PyRuntime] in
/-- A field that holds a text is there, whatever the default. -/
theorem getD_of_get {fields : Dict} {key held : String} (h : Dict.get fields key = .str held)
    (default : Value) : Dict.getD fields key default = .str held := by
  unfold Dict.get at h
  unfold Dict.getD
  cases hfound : Assoc.get? fields key with
  | none =>
      rw [hfound] at h
      cases h
  | some value =>
      rw [hfound] at h
      exact h

/-- The file loader strips the action, and takes `conditions` where there is no `when`. -/
theorem policyFromEffectBlock_iff (h : BlockFields payload block effect action priority)
    {raw : Dict} :
    policyFromEffectBlock payload = .ok raw ↔
      pyStrip action ≠ "" ∧ ∃ conditions,
        (Dict.get block "when").pyOr ((Dict.get block "conditions").pyOr (.dict [])) =
          .dict conditions ∧
        raw = PolicyDefinition.toDict
          { action := pyStrip action, effect, priority, conditions
            policyId := (Dict.get block "policy_id").optText } := by
  unfold policyFromEffectBlock
  rw [h.pair]
  dsimp only
  rw [Lib.ok_bind, getD_of_get h.action, Value.text_str]
  by_cases haction : pyStrip action = ""
  · rw [if_pos haction]
    constructor
    · intro hraw
      cases hraw
    · intro hread
      exact absurd haction hread.1
  · rw [if_neg haction]
    cases hconditions : (Dict.get block "when").pyOr
        ((Dict.get block "conditions").pyOr (.dict [])) with
    | dict conditions =>
        dsimp only
        rw [Lib.ok_bind, h.priority, Lib.ok_bind]
        constructor
        · intro hraw
          cases hraw
          exact ⟨haction, conditions, rfl, rfl⟩
        · rintro ⟨_, conditions', hsame, rfl⟩
          cases hsame
          rfl
    | _ =>
        -- whatever is no object is refused
        constructor
        · intro hraw
          cases hraw
        · rintro ⟨_, conditions', hsame, _⟩
          cases hsame

variable {yaml : YamlReader} {text : String}

/-- What the text of a change gives: the action as it is, and `when` only. -/
theorem dslToPolicy_ok (hyaml : yaml text = .ok (.dict payload)) {policy : DslPolicy}
    (h : dslToPolicy yaml text = .ok policy) :
    ∃ block effect action priority conditions,
      BlockFields payload block effect action priority ∧ action ≠ "" ∧
      (Dict.get block "when").pyOr (.dict []) = .dict conditions ∧
      policy = ⟨action, effect, priority, Assoc.set conditions "policy_key"
        (.str ((Dict.get block "policy_key").pyOr (.str action)).text)⟩ := by
  unfold dslToPolicy at h
  rw [hyaml, Lib.ok_bind] at h
  rcases payload with _ | ⟨item, items⟩
  · cases h
  dsimp only at h
  rw [Lib.ok_bind] at h
  have ⟨⟨found, effect⟩, hfound, h⟩ := Lib.bind_eq_ok.mp h
  dsimp only at h
  cases found with
  | dict block =>
      dsimp only at h
      rw [Lib.ok_bind] at h
      cases haction : Dict.get block "action" with
      | str action =>
          rw [haction] at h
          dsimp only at h
          -- each check that fails raises, and the block has passed them all
          by_cases hempty : action = ""
          · rw [if_pos hempty] at h
            cases h
          · rw [if_neg hempty, Lib.ok_bind] at h
            cases hwhen : (Dict.get block "when").pyOr (.dict []) with
            | dict conditions =>
                rw [hwhen] at h
                dsimp only at h
                rw [Lib.ok_bind] at h
                have ⟨priority, hpriority, h⟩ := Lib.bind_eq_ok.mp h
                cases h
                exact ⟨block, effect, action, priority, conditions,
                  ⟨hfound, haction, hpriority⟩, hempty, hwhen, rfl⟩
            | _ =>
                rw [hwhen] at h
                cases h
      | _ =>
          rw [haction] at h
          cases h
  | _ => cases h

/-- And it accepts every such block. -/
theorem dslToPolicy_of (hyaml : yaml text = .ok (.dict payload))
    (h : BlockFields payload block effect action priority) (haction : action ≠ "")
    {conditions : Dict} (hwhen : (Dict.get block "when").pyOr (.dict []) = .dict conditions) :
    dslToPolicy yaml text = .ok ⟨action, effect, priority, conditions.set "policy_key"
      (.str ((Dict.get block "policy_key").pyOr (.str action)).text)⟩ := by
  rcases payload with _ | ⟨item, items⟩
  · have hfound := h.found
    cases hfound
  unfold dslToPolicy
  rw [hyaml, Lib.ok_bind]
  dsimp only
  rw [Lib.ok_bind, h.found, Lib.ok_bind]
  dsimp only
  rw [Lib.ok_bind, h.action]
  dsimp only
  rw [if_neg haction, Lib.ok_bind, hwhen]
  dsimp only
  rw [Lib.ok_bind, h.priority, Lib.ok_bind]

/-- The conditions that the engine checks: the key of the policy is none of them. -/
def unkeyed (conditions : Dict) : Dict := conditions.filter fun (key, _) => key ≠ "policy_key"

omit [PyRuntime] in
theorem checked_eq (p : PolicyDefinition) : p.checked = unkeyed p.conditions := rfl

omit [PyRuntime] in
theorem unkeyed_unkeyed (conditions : Dict) : unkeyed (unkeyed conditions) = unkeyed conditions := by
  unfold unkeyed
  rw [List.filter_filter]
  simp only [Bool.and_self]

omit [PyRuntime] in
/-- Setting the key of the policy adds no condition. -/
theorem unkeyed_set (conditions : Dict) (value : Value) :
    unkeyed (conditions.set "policy_key" value) = unkeyed conditions := by
  unfold unkeyed
  induction conditions with
  | nil => rfl
  | cons condition rest ih =>
      rcases condition with ⟨key, held⟩
      by_cases hkey : key = "policy_key"
      · subst hkey
        rw [Assoc.set, if_pos rfl, List.filter_cons_of_neg (by simp),
          List.filter_cons_of_neg (by simp)]
      · rw [Assoc.set, if_neg hkey, List.filter_cons_of_pos (by simp [hkey]),
          List.filter_cons_of_pos (by simp [hkey]), ih]

/-- The policy test reads a block as the text of a change, and takes its key for an id. -/
theorem parsePolicyEntry_block {dump : Dict → String} {index : Nat} (hblock : IsBlock payload)
    {raw : Dict} (h : parsePolicyEntry yaml dump index (.dict payload) = .ok raw) :
    ∃ parsed policyId, dslToPolicy yaml (dump payload) = .ok parsed ∧
      raw = PolicyDefinition.toDict
        { action := parsed.action, effect := parsed.effect, priority := parsed.priority
          conditions := unkeyed parsed.conditions, policyId := some policyId } := by
  have hshape : (Assoc.contains payload "allow" || Assoc.contains payload "deny") = true := by
    rw [Bool.or_eq_true]
    exact hblock
  unfold parsePolicyEntry at h
  dsimp only at h
  rw [if_pos hshape] at h
  have ⟨parsed, hparsed, h⟩ := Lib.bind_eq_ok.mp h
  cases h
  exact ⟨parsed, _, hparsed, rfl⟩

/-! ## What a flat object is read as -/

/-- An object with an action, which is neither a block nor a document with a list of policies. -/
structure IsFlat (payload : Dict) (action : String) : Prop where
  noBlock : ¬ IsBlock payload
  noList : ∀ items, Dict.get payload "policies" ≠ .list items
  action : Dict.get payload "action" = .str action

/-- The effect of a flat object, as text. -/
def effectText (payload : Dict) : String := (Dict.getD payload "effect" (.str "deny")).text

/-- The file loader reads the effect in any letter case, and `dict(...)` of the conditions. -/
theorem flatPolicy_iff (h : IsFlat payload action) {raw : Dict} :
    flatPolicy payload = .ok raw ↔ ∃ priority conditions,
      (Dict.getD payload "priority" (.int 100)).toInt = .ok priority ∧
      pyDict ((Dict.get payload "conditions").pyOr (.dict [])) = .ok conditions ∧
      raw = PolicyDefinition.toDict
        { action, effect := .ofText (pyLower (effectText payload)), priority, conditions
          policyId := (Dict.get payload "policy_id").optText } := by
  unfold flatPolicy
  dsimp only
  rw [getD_of_get h.action, Value.text_str]
  constructor
  · intro hraw
    have ⟨priority, hpriority, hraw⟩ := Lib.bind_eq_ok.mp hraw
    have ⟨conditions, hconditions, hraw⟩ := Lib.bind_eq_ok.mp hraw
    cases hraw
    exact ⟨priority, conditions, hpriority, hconditions, rfl⟩
  · rintro ⟨priority, conditions, hpriority, hconditions, rfl⟩
    rw [hpriority, Lib.ok_bind, hconditions, Lib.ok_bind]
    rfl

/-- The loader takes a flat object for one policy. -/
theorem normalizePolicyPayload_flat (h : IsFlat payload action) :
    normalizePolicyPayload (.dict payload) = (flatPolicy payload).map fun raw => [raw] := by
  have hblock : (Assoc.contains payload "allow" || Assoc.contains payload "deny") = false := by
    rw [Bool.or_eq_false_iff, ← Bool.not_eq_true, ← Bool.not_eq_true]
    exact not_or.mp h.noBlock
  have haction : Assoc.contains payload "action" = true := by
    have hfound := h.action
    unfold Dict.get at hfound
    unfold Assoc.contains
    cases hget : Assoc.get? payload "action" with
    | none =>
        rw [hget] at hfound
        cases hfound
    | some value => rfl
  rw [normalizePolicyPayload]
  split
  · rename_i items hlist
    exact absurd hlist (h.noList items)
  · rw [hblock, haction]
    cases flatPolicy payload <;> rfl

theorem testedEffect_ok {index : Nat} (h : testedEffect index payload = .ok effect) :
    effectText payload = effect.text := by
  unfold testedEffect at h
  unfold effectText
  cases hfound : Dict.get payload "effect" with
  | str text =>
      rw [hfound] at h
      rw [getD_of_get hfound, Value.text_str]
      dsimp only at h
      by_cases hallow : text = "allow"
      · rw [if_pos hallow] at h
        cases h
        exact hallow
      · rw [if_neg hallow] at h
        by_cases hdeny : text = "deny"
        · rw [if_pos hdeny] at h
          cases h
          exact hdeny
        · rw [if_neg hdeny] at h
          cases h
  | _ =>
      rw [hfound] at h
      cases h

omit [PyRuntime] in
theorem testedConditions_ok {index : Nat} {conditions : Dict}
    (h : testedConditions index payload = .ok conditions) :
    (Dict.get payload "conditions").pyOr (.dict []) = .dict conditions := by
  unfold testedConditions at h
  cases hfound : (Dict.get payload "conditions").pyOr (.dict []) with
  | dict found =>
      rw [hfound] at h
      cases h
      rfl
  | _ =>
      rw [hfound] at h
      cases h

/-- The policy test takes an effect in lower case only, and an object as conditions. -/
theorem parsePolicyEntry_flat {dump : Dict → String} {index : Nat} (hflat : IsFlat payload action)
    {raw : Dict} (h : parsePolicyEntry yaml dump index (.dict payload) = .ok raw) :
    ∃ effect priority conditions policyId, effectText payload = effect.text ∧
      (Dict.getD payload "priority" (.int 100)).toInt = .ok priority ∧
      (Dict.get payload "conditions").pyOr (.dict []) = .dict conditions ∧
      raw = PolicyDefinition.toDict
        { action, effect, priority, conditions, policyId := some policyId } := by
  have hblock : (Assoc.contains payload "allow" || Assoc.contains payload "deny") = false := by
    rw [Bool.or_eq_false_iff, ← Bool.not_eq_true, ← Bool.not_eq_true]
    exact not_or.mp hflat.noBlock
  unfold parsePolicyEntry at h
  dsimp only at h
  rw [hblock, if_neg Bool.false_ne_true] at h
  -- the five fields, in the order in which they are checked
  have ⟨found, haction, h⟩ := Lib.bind_eq_ok.mp h
  have ⟨effect, heffect, h⟩ := Lib.bind_eq_ok.mp h
  have ⟨priority, hpriority, h⟩ := Lib.bind_eq_ok.mp h
  have ⟨conditions, hconditions, h⟩ := Lib.bind_eq_ok.mp h
  have ⟨policyId, _, h⟩ := Lib.bind_eq_ok.mp h
  cases h
  have hfound : found = action := by
    unfold testedAction at haction
    rw [hflat.action] at haction
    dsimp only at haction
    split at haction
    · cases haction
    · cases haction
      rfl
  rw [hfound]
  exact ⟨effect, priority, conditions, policyId, testedEffect_ok heffect, hpriority,
    testedConditions_ok hconditions, rfl⟩

end Readers

end KeyNetra
