import KeyNetra.Engine.PolicyLists

/-!
# KeyNetra.Engine.SinglePolicy — what one policy answers

An engine of one policy allows what its data stages allow, and of the requests that they leave to
the policies those of the policy's action that meet its conditions, if its effect is allow.

* `PolicyDefinition.answer` — what the policy makes of a request that is left to it;
* `single_agree_iff` — two engines of one policy decide alike exactly when their policies answer
  every such request alike;
* `vacuous_iff` — the conditions that every request meets;
* `agree_of_effects` … `agree_of_unconditional` — the answers compared, for policies that differ in
  one respect.
-/

namespace KeyNetra

section SinglePolicy

variable [PyRuntime]

variable {p p' : PolicyDefinition} {input : AuthorizationInput}

/-! ## The answer -/

/-- No data stage decides the request. -/
def LeftToPolicies (input : AuthorizationInput) : Prop := verdict (dataStages input) = .abstain

/-- The allowed value of a decision. -/
def KeyNetraEngine.allows (engine : KeyNetraEngine) (input : AuthorizationInput) :
    Except PyError Bool :=
  (engine.decide input).map AuthorizationDecision.allowed

/-- What a policy makes of a request that is left to it. -/
def PolicyDefinition.answer (p : PolicyDefinition) (input : AuthorizationInput) :
    Except PyError Bool :=
  (p.holds input).map fun held => held && p.effect == .allow

/-- The engine of one policy gives its answer. -/
theorem single_allows (hleft : LeftToPolicies input) (p : PolicyDefinition) :
    (listEngine [p]).allows input = p.answer input := by
  have hengine : engineOfRows id [p] = listEngine [p] := engineOfRows_eq id [p]
  -- of one policy the first that holds is that one, if it does
  have hfirst : firstHeld id input [p] =
      (p.holds input).map fun held => if held then some p else none := by
    show [p].findM? (fun row => row.holds input) = _
    rcases hholds : p.holds input with e | held
    · exact Lib.findM?_raised hholds
    · rcases held with _ | _
      · exact Lib.findM?_failed hholds
      · exact Lib.findM?_passed hholds
  have hdecide := decide_firstHeld hleft id [p]
  rw [hfirst, hengine] at hdecide
  unfold KeyNetraEngine.allows PolicyDefinition.answer
  rcases hholds : p.holds input with e | held
  · -- the policy raises, and so does the engine
    rw [hholds] at hdecide
    rw [show (listEngine [p]).decide input = .error e from hdecide]
    rfl
  · -- it is decided, and allowed only if it holds and allows
    rw [hholds] at hdecide
    have ⟨decision, hdecision, hallowed⟩ := hdecide
    rw [hdecision]
    show Except.ok decision.allowed = Except.ok (held && p.effect == .allow)
    rw [Except.ok.injEq, Bool.eq_iff_iff, hallowed]
    cases held <;> simp

/-- The two policies decide every request alike, each as the only policy of an engine. -/
def SinglesAgree (p p' : PolicyDefinition) : Prop :=
  ∀ input, (listEngine [p]).allows input = (listEngine [p']).allows input

/-- Only the requests left to the policies can tell two policies apart. -/
theorem single_agree_iff :
    SinglesAgree p p' ↔ ∀ input, LeftToPolicies input → p.answer input = p'.answer input := by
  constructor
  · intro h input hleft
    rw [← single_allows hleft p, ← single_allows hleft p']
    exact h input
  · intro h input
    by_cases hleft : LeftToPolicies input
    · rw [single_allows hleft p, single_allows hleft p']
      exact h input hleft
    · have ⟨decision, hdecide, _⟩ := decide_of_decisive hleft
      unfold KeyNetraEngine.allows
      rw [hdecide, hdecide]

theorem SinglesAgree.symm (h : SinglesAgree p p') : SinglesAgree p' p := fun input => (h input).symm

theorem answer_of_action (h : p.action = input.action) :
    p.answer input =
      (evaluateConditions p.checked input).map fun result => result.1 && p.effect == .allow := by
  unfold PolicyDefinition.answer PolicyDefinition.holds
  rw [if_pos h]
  cases evaluateConditions p.checked input <;> rfl

theorem answer_other (h : p.action ≠ input.action) : p.answer input = .ok false := by
  unfold PolicyDefinition.answer PolicyDefinition.holds
  rw [if_neg h]
  rfl

/-! ## Conditions that no request shows -/

/-- No request for the action that is left to the policies meets the conditions. -/
def NeverMet (action : String) (conditions : Dict) : Prop :=
  ∀ input, LeftToPolicies input → input.action = action →
    ∀ reason, evaluateConditions conditions input ≠ .ok (true, reason)

/-- No such request makes a handler raise. -/
def NeverRaises (action : String) (conditions : Dict) : Prop :=
  ∀ input, LeftToPolicies input → input.action = action →
    ∃ result, evaluateConditions conditions input = .ok result

/-- A policy with these conditions never allows, and never raises. -/
def Mute (effect : Effect) (action : String) (conditions : Dict) : Prop :=
  NeverRaises action conditions ∧ (effect = .allow → NeverMet action conditions)

/-- Conditions that ask nothing: `owner_only`, switched off. -/
def Vacuous (conditions : Dict) : Prop :=
  ∀ condition ∈ conditions, condition.1 = "owner_only" ∧ condition.2.truthy = false

/-- A policy with these conditions is one without any. -/
def Inert (effect : Effect) (action : String) (conditions : Dict) : Prop :=
  match effect with
  | .allow => Vacuous conditions
  | .deny => NeverRaises action conditions

/-- What never allows and never raises answers nothing. -/
theorem mute_iff : (∀ input, LeftToPolicies input → p.answer input = .ok false) ↔
    Mute p.effect p.action p.checked := by
  constructor
  · intro h
    constructor
    · -- a policy that raises has no answer
      intro input hleft haction
      have hanswer := h input hleft
      rw [answer_of_action haction.symm] at hanswer
      rcases heval : evaluateConditions p.checked input with e | result
      · rw [heval] at hanswer
        cases hanswer
      · exact ⟨result, rfl⟩
    · -- an allow policy that holds answers yes
      intro hallow input hleft haction reason hmet
      have hanswer := h input hleft
      rw [answer_of_action haction.symm, hmet, hallow] at hanswer
      cases hanswer
  · rintro ⟨hraises, hmet⟩ input hleft
    -- asked about another action, no policy answers yes
    by_cases haction : p.action = input.action
    · have ⟨⟨met, reason⟩, heval⟩ := hraises input hleft haction.symm
      rw [answer_of_action haction, heval]
      show Except.ok (met && p.effect == .allow) = _
      rcases heffect : p.effect with _ | _
      · rcases met with _ | _
        · rfl
        · exact absurd heval (hmet heffect input hleft haction.symm reason)
      · cases met <;> rfl
    · exact answer_other haction

/-! ## Conditions that every request meets -/

/-- A request that is left to the policies, and meets next to nothing. -/
def bareRequest (action : String) (role : Value) : AuthorizationInput where
  user := [("role", role)]
  resource := [("owner_id", .int 1), ("amount", .list [])]
  action := action

theorem bareRequest_left (action : String) (role : Value) :
    LeftToPolicies (bareRequest action role) := rfl

/-- A role that is not the one asked for. -/
def otherRole : Value → Value
  | .null => .str ""
  | _ => .null

omit [PyRuntime] in
theorem handleRole_bare (action : String) (value : Value) :
    handleRole value (bareRequest action (otherRole value)) =
      .ok (false, some "role mismatch") := by
  have hrole : Value.eq (Dict.get (bareRequest action (otherRole value)).user "role") value =
      false := by
    show Value.eq (otherRole value) value = false
    cases value <;> simp [otherRole, Value.eq, numberEq, Value.number?]
  unfold handleRole
  rw [hrole]
  rfl

theorem handleMaxAmount_bare (action : String) (value : Value) :
    handleMaxAmount value (bareRequest action .null) = .ok (false, some "invalid amount") := rfl

omit [PyRuntime] in
theorem handleOwnerOnly_bare (action : String) {value : Value} (hon : value.truthy = true) :
    handleOwnerOnly value (bareRequest action .null) = .ok (false, some "owner mismatch") := by
  unfold handleOwnerOnly
  rw [hon]
  rfl

theorem handleTimeRange_bare (action : String) (value : Value) (reason : Option String) :
    handleTimeRange value (bareRequest action .null) ≠ .ok (true, reason) := by
  unfold handleTimeRange
  intro hmet
  split at hmet
  · split at hmet
    · cases hmet
    · cases hmet
  · cases hmet

omit [PyRuntime] in
/-- The bare request has no attribute of the user but a role that is not there. -/
theorem getValue_bare {action : String} {field value : Value}
    (h : Dict.getValue (bareRequest action .null).user field = .ok value) : value = .null := by
  rcases field with _ | b | n | x | key | items | fields
  case str =>
    have hget : Dict.get [("role", Value.null)] key = .null := by
      simp only [Dict.get, Assoc.get?_cons, Assoc.get?_nil]
      split <;> rfl
    cases h
    exact hget
  case list => cases h
  case dict => cases h
  all_goals
    cases h
    rfl

omit [PyRuntime] in
theorem handleGeoMatch_bare (action : String) (value : Value) (reason : Option String) :
    handleGeoMatch value (bareRequest action .null) ≠ .ok (true, reason) := by
  unfold handleGeoMatch
  intro hmet
  split at hmet
  · have ⟨there, hthere, hmatch⟩ := Lib.bind_eq_ok.mp hmet
    rw [getValue_bare hthere] at hmatch
    cases hmatch
  · cases hmet

theorem handleHasRelation_bare (action : String) (value : Value) (reason : Option String) :
    handleHasRelation value (bareRequest action .null) ≠ .ok (true, reason) := by
  have hrelations : Dict.getD (bareRequest action .null).user "relations" (.list []) =
      .list [] := rfl
  unfold handleHasRelation
  intro hmet
  split at hmet
  · dsimp only at hmet
    split at hmet
    · cases hmet
    · rw [hrelations] at hmet
      cases hmet
    · cases hmet
  · cases hmet

/-- The bare request does not meet a condition that asks something. -/
theorem bareRequest_fails {key : String} {value : Value}
    (h : ¬ (key = "owner_only" ∧ value.truthy = false)) (action : String)
    {handler : Value → AuthorizationInput → Except PyError ConditionResult}
    (hhandler : conditionHandler key = some handler) :
    ∃ role, ∀ reason, handler value (bareRequest action role) ≠ .ok (true, reason) := by
  unfold conditionHandler at hhandler
  split at hhandler
  · -- role: a role that is not the one asked for
    cases hhandler
    refine ⟨otherRole value, fun reason => ?_⟩
    rw [handleRole_bare]
    simp
  · -- max_amount: no amount is above nothing
    cases hhandler
    refine ⟨.null, fun reason => ?_⟩
    rw [handleMaxAmount_bare]
    simp
  · cases hhandler
    -- a falsy `owner_only` asks for nothing
    have hon : value.truthy = true := by
      rw [← Bool.not_eq_false]
      exact fun hoff => h ⟨rfl, hoff⟩
    refine ⟨.null, fun reason => ?_⟩
    rw [handleOwnerOnly_bare action hon]
    simp
  · -- time_range, geo_match, has_relation: nothing to compare with
    cases hhandler
    exact ⟨.null, handleTimeRange_bare action value⟩
  · cases hhandler
    exact ⟨.null, handleGeoMatch_bare action value⟩
  · cases hhandler
    exact ⟨.null, handleHasRelation_bare action value⟩
  · cases hhandler

/-- A condition switched off is passed. -/
theorem evaluateConditions_off {value : Value} (hoff : value.truthy = false) (rest : Dict)
    (input : AuthorizationInput) :
    evaluateConditions (("owner_only", value) :: rest) input = evaluateConditions rest input := by
  have hhandler : conditionHandler "owner_only" = some handleOwnerOnly := rfl
  have hpassed : handleOwnerOnly value input = .ok (true, none) := by
    unfold handleOwnerOnly
    rw [hoff]
    rfl
  rw [evaluateConditions, hhandler]
  dsimp only
  rw [hpassed, Lib.ok_bind]
  rfl

/-- The conditions that every request for an action meets ask nothing; by induction on them. -/
theorem vacuous_iff {action : String} {conditions : Dict} :
    (∀ input, LeftToPolicies input → input.action = action →
      ∃ reason, evaluateConditions conditions input = .ok (true, reason)) ↔
      Vacuous conditions := by
  induction conditions with
  | nil =>
      constructor
      · intro _ condition hmem
        cases hmem
      · intro _ input _ _
        exact ⟨none, rfl⟩
  | cons condition rest ih =>
      rcases condition with ⟨key, value⟩
      by_cases hoff : key = "owner_only" ∧ value.truthy = false
      · have hkey := hoff.1
        subst hkey
        simp only [evaluateConditions_off hoff.2, ih]
        constructor
        · intro hrest condition hmem
          rcases List.mem_cons.mp hmem with rfl | hmem
          · exact hoff
          · exact hrest condition hmem
        · intro hall condition hmem
          exact hall condition (List.mem_cons_of_mem _ hmem)
      · constructor
        · -- some bare request fails the first condition
          intro hmet
          exfalso
          rcases hhandler : conditionHandler key with _ | handler
          · obtain ⟨reason, heval⟩ := hmet _ (bareRequest_left action .null) rfl
            rw [evaluateConditions, hhandler] at heval
            cases heval
          · obtain ⟨role, hfails⟩ := bareRequest_fails hoff action hhandler
            obtain ⟨reason, heval⟩ := hmet _ (bareRequest_left action role) rfl
            rw [evaluateConditions, hhandler] at heval
            obtain ⟨⟨passed, why⟩, hpassed, hrest⟩ := Lib.bind_eq_ok.mp heval
            rcases passed with _ | _
            · cases hrest
            · exact hfails why hpassed
        · intro hall
          exact absurd (hall _ List.mem_cons_self) hoff

/-! ## Policies that differ in one respect -/

/-- Policies alike in action, effect and conditions; the rest tells no request apart. -/
theorem agree_of_alike (haction : p.action = p'.action) (heffect : p.effect = p'.effect)
    (hchecked : p.checked = p'.checked) : SinglesAgree p p' := by
  apply single_agree_iff.mpr
  intro input _
  unfold PolicyDefinition.answer PolicyDefinition.holds
  rw [haction, heffect, hchecked]

/-- An allow and a deny under the same conditions. -/
theorem agree_of_effects (haction : p.action = p'.action) (hchecked : p.checked = p'.checked)
    (hallow : p.effect = .allow) (hdeny : p'.effect = .deny) :
    SinglesAgree p p' ↔ NeverMet p.action p.checked := by
  rw [single_agree_iff]
  constructor
  · intro h input hleft hsame reason hmet
    have hanswer := h input hleft
    rw [answer_of_action hsame.symm, answer_of_action (haction.symm.trans hsame.symm), ← hchecked,
      hmet, hallow, hdeny] at hanswer
    cases hanswer
  · intro h input hleft
    by_cases hsame : p.action = input.action
    · rw [answer_of_action hsame, answer_of_action (haction.symm.trans hsame), ← hchecked, hallow,
        hdeny]
      rcases heval : evaluateConditions p.checked input with e | ⟨met, reason⟩
      · rfl
      · rcases met with _ | _
        · rfl
        · exact absurd heval (h input hleft hsame.symm reason)
    · rw [answer_other hsame, answer_other fun hother => hsame (haction.trans hother)]

/-- A policy against an allow of its action that asks nothing. -/
theorem agree_of_granted (haction : p.action = p'.action) (hallow : p.effect = .allow)
    (hallow' : p'.effect = .allow) (hnone : p'.checked = []) :
    SinglesAgree p p' ↔ Vacuous p.checked := by
  -- without conditions the other policy answers yes to all of its action
  have hgranted : ∀ input : AuthorizationInput, p.action = input.action →
      p'.answer input = .ok true := by
    intro input hsame
    rw [answer_of_action (haction.symm.trans hsame), hnone, hallow']
    rfl
  rw [single_agree_iff, ← @vacuous_iff _ p.action]
  constructor
  · -- so the first has to hold for each of them
    intro h input hleft hsame
    have hanswer := h input hleft
    rw [hgranted input hsame.symm, answer_of_action hsame.symm, hallow] at hanswer
    rcases heval : evaluateConditions p.checked input with e | ⟨met, reason⟩
    · rw [heval] at hanswer
      cases hanswer
    · rw [heval] at hanswer
      rcases met with _ | _
      · cases hanswer
      · exact ⟨reason, rfl⟩
  · intro h input hleft
    -- and to nothing else
    by_cases hsame : p.action = input.action
    · have ⟨reason, hmet⟩ := h input hleft hsame.symm
      rw [hgranted input hsame, answer_of_action hsame, hmet, hallow]
      rfl
    · rw [answer_other hsame, answer_other fun hother => hsame (haction.trans hother)]

/-- A policy against a deny that asks nothing. -/
theorem agree_of_denied (hdeny : p'.effect = .deny) (hnone : p'.checked = []) :
    SinglesAgree p p' ↔ Mute p.effect p.action p.checked := by
  have hdenied : ∀ input : AuthorizationInput, p'.answer input = .ok false := by
    intro input
    by_cases hsame : p'.action = input.action
    · rw [answer_of_action hsame, hnone, hdeny]
      rfl
    · exact answer_other hsame
  rw [single_agree_iff, ← mute_iff]
  simp only [hdenied]

/-- A policy against one of its effect that asks nothing. -/
theorem agree_of_unconditional (haction : p.action = p'.action) (heffect : p.effect = p'.effect)
    (hnone : p'.checked = []) : SinglesAgree p p' ↔ Inert p.effect p.action p.checked := by
  cases hp : p.effect with
  | allow => exact agree_of_granted haction hp (heffect.symm.trans hp) hnone
  | deny =>
      have hdeny : p'.effect = .deny := heffect.symm.trans hp
      rw [agree_of_denied hdeny hnone, hp]
      constructor
      · intro h
        exact h.1
      · intro h
        refine ⟨h, ?_⟩
        intro hallow
        cases hallow

/-- Policies of different actions. -/
theorem agree_of_actions (haction : p.action ≠ p'.action) :
    SinglesAgree p p' ↔
      Mute p.effect p.action p.checked ∧ Mute p'.effect p'.action p'.checked := by
  rw [single_agree_iff, ← mute_iff, ← mute_iff]
  constructor
  · intro h
    constructor
    · intro input hleft
      by_cases hsame : p.action = input.action
      · rw [h input hleft]
        exact answer_other fun hother => haction (hsame.trans hother.symm)
      · exact answer_other hsame
    · intro input hleft
      by_cases hsame : p'.action = input.action
      · rw [← h input hleft]
        exact answer_other fun hother => haction (hother.trans hsame.symm)
      · exact answer_other hsame
  · rintro ⟨hmute, hmute'⟩ input hleft
    rw [hmute input hleft, hmute' input hleft]

end SinglePolicy

end KeyNetra
