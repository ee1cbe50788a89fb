import KeyNetra.Services.PolicyReaders

/-!
# KeyNetra.Services.FrontEnds — one policy object, several engines

Whether an engine built by one reader of a policy object allows what an engine built by another one
does.

* `FrontEnd.engine` — the engine of an object, by each reader of its shape;
* `BlockClear`, `FlatClear` — the object is written as all its readers read it, or no request shows
  the difference;
* `front_ends_agree_iff` — the readers that accept an object agree on it exactly then.
-/

namespace KeyNetra

section FrontEnds

variable [PyRuntime]

/-! ## The front ends -/

/-- The readers of a policy object. -/
inductive FrontEnd where
  | fileLoader
  | dsl
  | policyTest
  | policiesJson
deriving DecidableEq, Repr

instance (payload : Dict) : Decidable (IsBlock payload) := by
  unfold IsBlock
  infer_instance

/-- The shapes that a front end is for. -/
def FrontEnd.Reads (payload : Dict) : FrontEnd → Prop
  | .fileLoader | .policyTest => IsBlock payload ∨ ∃ action, IsFlat payload action
  | .dsl => IsBlock payload
  | .policiesJson => ∃ action, IsFlat payload action

variable (yaml : YamlReader) (dump : Dict → String) (index : Nat)

/-- The policies that a front end hands to the engine. -/
def FrontEnd.read (payload : Dict) : FrontEnd → Except PyError (List Dict)
  | .fileLoader =>
      if IsBlock payload then (policyFromEffectBlock payload).map fun raw => [raw]
      else normalizePolicyPayload (.dict payload)
  | .dsl => (dslToPolicy yaml (dump payload)).map fun policy => [policy.dict]
  | .policyTest => (parsePolicyEntry yaml dump index (.dict payload)).map fun raw => [raw]
  | .policiesJson => .ok [payload]

/-- The engine built from what a front end reads; an error where one of them refuses the object. -/
def FrontEnd.engine (frontEnd : FrontEnd) (payload : Dict) : Except PyError KeyNetraEngine := do
  let policies ← frontEnd.read yaml dump index payload
  KeyNetraEngine.new (policies.map .raw)

/-- The two front ends, where both accept the object, allow the same requests. -/
def AgreeOn (payload : Dict) (frontEnd frontEnd' : FrontEnd) : Prop :=
  ∀ engine engine', frontEnd.engine yaml dump index payload = .ok engine →
    frontEnd'.engine yaml dump index payload = .ok engine' →
      ∀ input, engine.allows input = engine'.allows input

/-- Any two front ends for the shape of an object agree on it. -/
def FrontEndsAgree (payload : Dict) : Prop :=
  ∀ frontEnd frontEnd' : FrontEnd, frontEnd.Reads payload → frontEnd'.Reads payload →
    AgreeOn yaml dump index payload frontEnd frontEnd'

/-! ## Objects that are clear -/

/-- A block that is accepted by the file loader and as the text of a change: its action has no space
around it, and `when` has its conditions, or none that a request shows; or the action has, and no
request shows either policy. -/
def BlockClear (payload : Dict) : Prop :=
  ∀ block effect action priority conditions whenOnly,
    BlockFields payload block effect action priority → pyStrip action ≠ "" →
    (Dict.get block "when").pyOr ((Dict.get block "conditions").pyOr (.dict [])) =
      .dict conditions →
    (Dict.get block "when").pyOr (.dict []) = .dict whenOnly →
    (pyStrip action = action →
      (Dict.get block "when").truthy = true ∨ Inert effect action (unkeyed conditions)) ∧
    (pyStrip action ≠ action →
      Mute effect (pyStrip action) (unkeyed conditions) ∧ Mute effect action (unkeyed whenOnly))

/-- A flat object that the file loader accepts, and `PolicyDefinition.from_dict`: its effect is not
`allow` in another letter case, and its conditions are an object or none; or no request shows it. -/
def FlatClear (payload : Dict) : Prop :=
  ∀ action priority conditions, IsFlat payload action →
    (Dict.getD payload "priority" (.int 100)).toInt = .ok priority →
    pyDict ((Dict.get payload "conditions").pyOr (.dict [])) = .ok conditions →
    match Dict.get payload "conditions" with
    | .list (_ :: _) =>
        if effectText payload = "allow" then Vacuous (unkeyed conditions)
        else Mute (.ofText (pyLower (effectText payload))) action (unkeyed conditions)
    | _ =>
        effectText payload = "allow" ∨ pyLower (effectText payload) ≠ "allow" ∨
          NeverMet action (unkeyed conditions)

/-! ## The engine of a reading -/

variable {yaml dump index} {payload block : Dict} {effect : Effect} {action : String}
  {priority : Int} {engine engine' : KeyNetraEngine}

/-- The engine of one object. -/
theorem new_single_iff {raw : Dict} :
    KeyNetraEngine.new [.raw raw] = .ok engine ↔
      ∃ p, PolicyDefinition.fromDict raw = .ok p ∧ engine = listEngine [p] := by
  have hparse : [PolicySource.raw raw].mapM PolicySource.parse =
      (PolicyDefinition.fromDict raw).map fun p => [p] := by
    rw [List.mapM_cons, List.mapM_nil]
    show (do
      let p ← PolicyDefinition.fromDict raw
      pure [p]) = _
    cases PolicyDefinition.fromDict raw <;> rfl
  rw [new_ok_iff, hparse]
  cases PolicyDefinition.fromDict raw with
  | error e => simp [Except.map]
  | ok p => simp [Except.map]

/-- A front end that reads one policy, as the engine parses it. -/
theorem engine_iff {frontEnd : FrontEnd} {read : Except PyError Dict}
    (hread : frontEnd.read yaml dump index payload = read.map fun raw => [raw]) :
    frontEnd.engine yaml dump index payload = .ok engine ↔
      ∃ raw p, read = .ok raw ∧ PolicyDefinition.fromDict raw = .ok p ∧
        engine = listEngine [p] := by
  unfold FrontEnd.engine
  rw [hread]
  cases read with
  | error e => simp [Except.map]
  | ok raw =>
      rw [Except.map, Lib.ok_bind, List.map_cons, List.map_nil, new_single_iff]
      simp

/-! ## Blocks -/

/-- The policy that the file loader makes of a block. -/
def loadedBlock (block : Dict) (effect : Effect) (action : String) (priority : Int)
    (conditions : Dict) : PolicyDefinition where
  action := pyStrip action
  effect := effect
  priority := priority
  conditions := conditions
  policyId := (Dict.get block "policy_id").optText

/-- The file loader on a block. -/
theorem fileLoader_block (hfields : BlockFields payload block effect action priority) :
    FrontEnd.fileLoader.engine yaml dump index payload = .ok engine ↔
      pyStrip action ≠ "" ∧ ∃ conditions,
        (Dict.get block "when").pyOr ((Dict.get block "conditions").pyOr (.dict [])) =
          .dict conditions ∧
        engine = listEngine [loadedBlock block effect action priority conditions] := by
  have hread : FrontEnd.fileLoader.read yaml dump index payload =
      (policyFromEffectBlock payload).map fun raw => [raw] := if_pos hfields.isBlock
  rw [engine_iff hread]
  constructor
  · rintro ⟨raw, p, hraw, hp, hengine⟩
    have ⟨haction, conditions, hconditions, hdict⟩ := (policyFromEffectBlock_iff hfields).mp hraw
    rw [hdict, PolicyDefinition.fromDict_toDict] at hp
    cases hp
    exact ⟨haction, conditions, hconditions, hengine⟩
  · rintro ⟨haction, conditions, hconditions, hengine⟩
    refine ⟨_, _, (policyFromEffectBlock_iff hfields).mpr ⟨haction, conditions, hconditions, rfl⟩,
      PolicyDefinition.fromDict_toDict _, hengine⟩

/-- What the text of a change, and a policy test, make of a block. -/
structure DslReading (payload block : Dict) (effect : Effect) (action : String) (priority : Int)
    (whenOnly : Dict) (p : PolicyDefinition) : Prop where
  fields : BlockFields payload block effect action priority
  nonempty : action ≠ ""
  when : (Dict.get block "when").pyOr (.dict []) = .dict whenOnly
  action : p.action = action
  effect : p.effect = effect
  checked : p.checked = unkeyed whenOnly

/-- The policy of the text of a change. -/
theorem fromDict_dsl (policy : DslPolicy) :
    PolicyDefinition.fromDict policy.dict =
      .ok { action := policy.action, effect := policy.effect, priority := policy.priority
            conditions := policy.conditions } := by
  rcases policy with ⟨action, effect, priority, conditions⟩
  cases effect <;> rfl

theorem dsl_read (yaml : YamlReader) (dump : Dict → String) (index : Nat) (payload : Dict) :
    FrontEnd.dsl.read yaml dump index payload =
      ((dslToPolicy yaml (dump payload)).map DslPolicy.dict).map fun raw => [raw] := by
  show (dslToPolicy yaml (dump payload)).map (fun policy => [policy.dict]) = _
  cases dslToPolicy yaml (dump payload) <;> rfl

theorem dsl_block (hyaml : yaml (dump payload) = .ok (.dict payload))
    (h : FrontEnd.dsl.engine yaml dump index payload = .ok engine) :
    ∃ p block effect action priority whenOnly, engine = listEngine [p] ∧
      DslReading payload block effect action priority whenOnly p := by
  have ⟨raw, p, hraw, hp, hengine⟩ := (engine_iff (dsl_read yaml dump index payload)).mp h
  cases hpolicy : dslToPolicy yaml (dump payload) with
  | error e =>
      rw [hpolicy] at hraw
      cases hraw
  | ok policy =>
      rw [hpolicy] at hraw
      cases hraw
      rw [fromDict_dsl] at hp
      cases hp
      have ⟨block, effect, action, priority, whenOnly, hfields, hnonempty, hwhen, hsame⟩ :=
        dslToPolicy_ok hyaml hpolicy
      refine ⟨_, block, effect, action, priority, whenOnly, hengine, hfields, hnonempty, hwhen,
        ?_, ?_, ?_⟩
      · rw [hsame]
      · rw [hsame]
      · rw [checked_eq, hsame]
        exact unkeyed_set whenOnly _

theorem dsl_of (hyaml : yaml (dump payload) = .ok (.dict payload))
    (hfields : BlockFields payload block effect action priority) (hnonempty : action ≠ "")
    {whenOnly : Dict} (hwhen : (Dict.get block "when").pyOr (.dict []) = .dict whenOnly) :
    ∃ p, FrontEnd.dsl.engine yaml dump index payload = .ok (listEngine [p]) ∧
      DslReading payload block effect action priority whenOnly p := by
  have hpolicy := dslToPolicy_of hyaml hfields hnonempty hwhen
  refine ⟨{ action, effect, priority
            conditions := Assoc.set whenOnly "policy_key"
              (.str ((Dict.get block "policy_key").pyOr (.str action)).text) },
    ?_, hfields, hnonempty, hwhen, rfl, rfl, unkeyed_set whenOnly _⟩
  rw [engine_iff (dsl_read yaml dump index payload), hpolicy]
  exact ⟨_, _, rfl, fromDict_dsl _, rfl⟩

theorem policyTest_block (hyaml : yaml (dump payload) = .ok (.dict payload))
    (hblock : IsBlock payload)
    (h : FrontEnd.policyTest.engine yaml dump index payload = .ok engine) :
    ∃ p block effect action priority whenOnly, engine = listEngine [p] ∧
      DslReading payload block effect action priority whenOnly p := by
  have ⟨raw, p, hraw, hp, hengine⟩ := (engine_iff (show FrontEnd.policyTest.read yaml dump index
    payload = _ from rfl)).mp h
  have ⟨parsed, policyId, hparsed, hdict⟩ := parsePolicyEntry_block hblock hraw
  have ⟨block, effect, action, priority, whenOnly, hfields, hnonempty, hwhen, hsame⟩ :=
    dslToPolicy_ok hyaml hparsed
  rw [hdict, PolicyDefinition.fromDict_toDict] at hp
  cases hp
  refine ⟨_, block, effect, action, priority, whenOnly, hengine, hfields, hnonempty, hwhen,
    ?_, ?_, ?_⟩
  · rw [hsame]
  · rw [hsame]
  · rw [checked_eq, hsame]
    show unkeyed (unkeyed _) = _
    rw [unkeyed_unkeyed, unkeyed_set]

/-- An object has one block, with one action. -/
theorem BlockFields.unique {block' : Dict} {effect' : Effect} {action' : String} {priority' : Int}
    (h : BlockFields payload block effect action priority)
    (h' : BlockFields payload block' effect' action' priority') :
    block = block' ∧ effect = effect' ∧ action = action' := by
  have hpair := Prod.mk.inj (Except.ok.inj (h.found.symm.trans h'.found))
  have hblock := Value.dict.inj hpair.1
  have haction : action = action' := by
    have hfound := h.action
    rw [hblock, h'.action] at hfound
    exact (Value.str.inj hfound).symm
  exact ⟨hblock, hpair.2, haction⟩

/-- Two readings of the second kind. -/
theorem DslReading.agree {block' whenOnly whenOnly' : Dict} {effect' : Effect} {action' : String}
    {priority' : Int} {p p' : PolicyDefinition}
    (h : DslReading payload block effect action priority whenOnly p)
    (h' : DslReading payload block' effect' action' priority' whenOnly' p') :
    SinglesAgree p p' := by
  have ⟨hblock, heffect, haction⟩ := h.fields.unique h'.fields
  have hwhen : whenOnly = whenOnly' := by
    have hfound := h.when
    rw [hblock, h'.when] at hfound
    exact (Value.dict.inj hfound).symm
  apply agree_of_alike
  · rw [h.action, h'.action, haction]
  · rw [h.effect, h'.effect, heffect]
  · rw [h.checked, h'.checked, hwhen]

/-- What it takes for the file loader's policy of a block to be that of the others. -/
theorem block_pair_iff {conditions whenOnly : Dict} {priority' : Int} {p : PolicyDefinition}
    (h : DslReading payload block effect action priority' whenOnly p)
    (hconditions : (Dict.get block "when").pyOr ((Dict.get block "conditions").pyOr (.dict [])) =
      .dict conditions) :
    SinglesAgree (loadedBlock block effect action priority conditions) p ↔
      (pyStrip action = action →
        (Dict.get block "when").truthy = true ∨ Inert effect action (unkeyed conditions)) ∧
      (pyStrip action ≠ action →
        Mute effect (pyStrip action) (unkeyed conditions) ∧
          Mute effect action (unkeyed whenOnly)) := by
  have haction : (loadedBlock block effect action priority conditions).action = pyStrip action :=
    rfl
  have heffect : (loadedBlock block effect action priority conditions).effect = effect := rfl
  have hchecked : (loadedBlock block effect action priority conditions).checked =
      unkeyed conditions := rfl
  have hsameEffect := heffect.trans h.effect.symm
  have hwhen := h.when
  unfold Value.pyOr at hconditions hwhen
  by_cases hstrip : pyStrip action = action
  · have hsameAction := haction.trans (hstrip.trans h.action.symm)
    by_cases htruthy : (Dict.get block "when").truthy = true
    · -- both take `when`
      rw [if_pos htruthy] at hconditions hwhen
      have hsame := Value.dict.inj (hconditions.symm.trans hwhen)
      constructor
      · intro _
        exact ⟨fun _ => .inl htruthy, fun hother => absurd hstrip hother⟩
      · intro _
        apply agree_of_alike hsameAction hsameEffect
        rw [hchecked, h.checked, hsame]
    · -- the text of a change has no conditions
      rw [if_neg htruthy] at hwhen
      have hnone : p.checked = [] := by
        rw [h.checked, ← Value.dict.inj hwhen]
        rfl
      rw [agree_of_unconditional hsameAction hsameEffect hnone, haction, heffect, hchecked, hstrip]
      constructor
      · intro hinert
        exact ⟨fun _ => .inr hinert, fun hother => absurd rfl hother⟩
      · intro hclear
        exact (hclear.1 rfl).resolve_left htruthy
  · have hother : (loadedBlock block effect action priority conditions).action ≠ p.action := by
      rw [haction, h.action]
      exact hstrip
    rw [agree_of_actions hother, haction, heffect, hchecked, h.effect, h.action, h.checked]
    constructor
    · intro hmute
      exact ⟨fun hsame => absurd hsame hstrip, fun _ => hmute⟩
    · intro hclear
      exact hclear.2 hstrip

/-! ## Flat objects -/

/-- The conditions that `PolicyDefinition.from_dict` takes. -/
def jsonConditions (payload : Dict) : Dict :=
  match Dict.get payload "conditions" with
  | .dict conditions => conditions
  | _ => []

/-- The policy that the file loader makes of a flat object. -/
def loadedFlat (payload : Dict) (action : String) (priority : Int) (conditions : Dict) :
    PolicyDefinition where
  action := action
  effect := .ofText (pyLower (effectText payload))
  priority := priority
  conditions := conditions
  policyId := (Dict.get payload "policy_id").optText

/-- The policy that `PolicyDefinition.from_dict` makes of it. -/
def jsonPolicy (payload : Dict) (action : String) (priority : Int) : PolicyDefinition where
  action := action
  effect := .ofText (effectText payload)
  priority := priority
  conditions := jsonConditions payload
  policyId := (Dict.get payload "policy_id").optText

theorem loadedFlat_effect (payload : Dict) (action : String) (priority : Int) (conditions : Dict) :
    (loadedFlat payload action priority conditions).effect =
      .ofText (pyLower (effectText payload)) := by
  rw [loadedFlat]

theorem jsonPolicy_effect (payload : Dict) (action : String) (priority : Int) :
    (jsonPolicy payload action priority).effect = .ofText (effectText payload) := by
  rw [jsonPolicy]

/-- The file loader on a flat object. -/
theorem fileLoader_flat (hflat : IsFlat payload action) :
    FrontEnd.fileLoader.engine yaml dump index payload = .ok engine ↔
      ∃ priority conditions,
        (Dict.getD payload "priority" (.int 100)).toInt = .ok priority ∧
        pyDict ((Dict.get payload "conditions").pyOr (.dict [])) = .ok conditions ∧
        engine = listEngine [loadedFlat payload action priority conditions] := by
  have hread : FrontEnd.fileLoader.read yaml dump index payload =
      (flatPolicy payload).map fun raw => [raw] := by
    show (if IsBlock payload then _ else _) = _
    rw [if_neg hflat.noBlock, normalizePolicyPayload_flat hflat]
  rw [engine_iff hread]
  constructor
  · rintro ⟨raw, p, hraw, hp, hengine⟩
    have ⟨priority, conditions, hpriority, hconditions, hdict⟩ := (flatPolicy_iff hflat).mp hraw
    rw [hdict, PolicyDefinition.fromDict_toDict] at hp
    cases hp
    exact ⟨priority, conditions, hpriority, hconditions, hengine⟩
  · rintro ⟨priority, conditions, hpriority, hconditions, hengine⟩
    exact ⟨_, _, (flatPolicy_iff hflat).mpr ⟨priority, conditions, hpriority, hconditions, rfl⟩,
      PolicyDefinition.fromDict_toDict _, hengine⟩

/-- `PolicyDefinition.from_dict` on a flat object. -/
theorem policiesJson_flat (hflat : IsFlat payload action) :
    FrontEnd.policiesJson.engine yaml dump index payload = .ok engine ↔
      ∃ priority, (Dict.getD payload "priority" (.int 100)).toInt = .ok priority ∧
        engine = listEngine [jsonPolicy payload action priority] := by
  have hread : FrontEnd.policiesJson.read yaml dump index payload =
      (Except.ok payload : Except PyError Dict).map fun raw => [raw] := rfl
  have hparse : PolicyDefinition.fromDict payload = (do
      let priority ← (Dict.getD payload "priority" (.int 100)).toInt
      .ok (jsonPolicy payload action priority)) := by
    unfold PolicyDefinition.fromDict
    rw [getD_of_get hflat.action, Value.text_str]
    rfl
  rw [engine_iff hread]
  constructor
  · rintro ⟨raw, p, hraw, hp, hengine⟩
    rw [← Except.ok.inj hraw, hparse] at hp
    have ⟨priority, hpriority, hdefinition⟩ := Lib.bind_eq_ok.mp hp
    cases hdefinition
    exact ⟨priority, hpriority, hengine⟩
  · rintro ⟨priority, hpriority, hengine⟩
    refine ⟨payload, _, rfl, ?_, hengine⟩
    rw [hparse, hpriority, Lib.ok_bind]

theorem policyTest_flat (hflat : IsFlat payload action)
    (h : FrontEnd.policyTest.engine yaml dump index payload = .ok engine) :
    ∃ p effect conditions, engine = listEngine [p] ∧ effectText payload = effect.text ∧
      (Dict.get payload "conditions").pyOr (.dict []) = .dict conditions ∧
      p.action = action ∧ p.effect = effect ∧ p.checked = unkeyed conditions := by
  have ⟨raw, p, hraw, hp, hengine⟩ := (engine_iff (show FrontEnd.policyTest.read yaml dump index
    payload = _ from rfl)).mp h
  have ⟨effect, priority, conditions, policyId, heffect, _, hconditions, hdict⟩ :=
    parsePolicyEntry_flat hflat hraw
  rw [hdict, PolicyDefinition.fromDict_toDict] at hp
  cases hp
  exact ⟨_, effect, conditions, hengine, heffect, hconditions, rfl, rfl, rfl⟩

/-- Where the conditions are no list, `dict(...)` of them is what `from_dict` takes. -/
theorem conditions_of_noList {conditions : Dict}
    (hconditions : pyDict ((Dict.get payload "conditions").pyOr (.dict [])) = .ok conditions)
    (hlist : ∀ element elements, Dict.get payload "conditions" ≠ .list (element :: elements)) :
    conditions = jsonConditions payload := by
  unfold jsonConditions
  unfold Value.pyOr at hconditions
  cases hfound : Dict.get payload "conditions" with
  | dict found =>
      rw [hfound] at hconditions
      split_ifs at hconditions with htruthy
      · cases hconditions
        rfl
      · -- an empty object
        have hempty : found = [] := by simpa [Value.truthy] using htruthy
        cases hconditions
        exact hempty.symm
  | list elements =>
      rcases elements with _ | ⟨element, elements⟩
      · rw [hfound] at hconditions
        cases hconditions
        rfl
      · exact absurd hfound (hlist element elements)
  | str text =>
      rw [hfound] at hconditions
      split_ifs at hconditions with htruthy
      · have htext : text ≠ "" := by simpa [Value.truthy] using htruthy
        unfold pyDict at hconditions
        dsimp only at hconditions
        rw [if_neg htext] at hconditions
        cases hconditions
      · cases hconditions
        rfl
  | _ =>
      rw [hfound] at hconditions
      split_ifs at hconditions with htruthy
      · cases hconditions
      · cases hconditions
        rfl

omit [PyRuntime] in
theorem ofText_allow {text : String} : Effect.ofText text = .allow ↔ text = "allow" := by
  unfold Effect.ofText
  by_cases htext : text = "allow"
  · simp [htext]
  · simp [htext]

omit [PyRuntime] in
theorem ofText_deny {text : String} : Effect.ofText text = .deny ↔ text ≠ "allow" := by
  unfold Effect.ofText
  by_cases htext : text = "allow"
  · simp [htext]
  · simp [htext]

/-- What it takes for the file loader's policy of a flat object to be that of `from_dict`. -/
theorem flat_pair_iff {conditions : Dict} {priority' : Int}
    (hconditions : pyDict ((Dict.get payload "conditions").pyOr (.dict [])) = .ok conditions) :
    SinglesAgree (loadedFlat payload action priority conditions)
        (jsonPolicy payload action priority') ↔
      match Dict.get payload "conditions" with
      | .list (_ :: _) =>
          if effectText payload = "allow" then Vacuous (unkeyed conditions)
          else Mute (.ofText (pyLower (effectText payload))) action (unkeyed conditions)
      | _ =>
          effectText payload = "allow" ∨ pyLower (effectText payload) ≠ "allow" ∨
            NeverMet action (unkeyed conditions) := by
  have haction : (loadedFlat payload action priority conditions).action = action := rfl
  have heffect := loadedFlat_effect payload action priority conditions
  have hchecked : (loadedFlat payload action priority conditions).checked =
      unkeyed conditions := rfl
  have haction' : (jsonPolicy payload action priority').action = action := rfl
  have heffect' := jsonPolicy_effect payload action priority'
  have hchecked' : (jsonPolicy payload action priority').checked =
      unkeyed (jsonConditions payload) := rfl
  have hsameAction := haction.trans haction'.symm
  have hlower : pyLower "allow" = "allow" := by decide
  split
  · -- the pairs of a list are no conditions to `from_dict`
    rename_i element elements hlist
    have hnone : (jsonPolicy payload action priority').checked = [] := by
      rw [hchecked']
      unfold jsonConditions
      rw [hlist]
      rfl
    by_cases hallow : effectText payload = "allow"
    · rw [if_pos hallow]
      have hlowered : (loadedFlat payload action priority conditions).effect = .allow := by
        rw [heffect, ofText_allow, hallow, hlower]
      have hallowed : (jsonPolicy payload action priority').effect = .allow := by
        rw [heffect', ofText_allow, hallow]
      rw [agree_of_granted hsameAction hlowered hallowed hnone, hchecked]
    · rw [if_neg hallow]
      have hdenied : (jsonPolicy payload action priority').effect = .deny := by
        rw [heffect', ofText_deny]
        exact hallow
      rw [agree_of_denied hdenied hnone, haction, heffect, hchecked]
  · rename_i hlist
    have hsame := conditions_of_noList hconditions fun element elements => hlist element elements
    rw [← hsame] at hchecked'
    have hsameChecked := hchecked.trans hchecked'.symm
    by_cases hallow : effectText payload = "allow"
    · -- both allow
      constructor
      · intro _
        exact .inl hallow
      · intro _
        apply agree_of_alike hsameAction _ hsameChecked
        rw [heffect, heffect', hallow, hlower]
    · by_cases hlowered : pyLower (effectText payload) = "allow"
      · -- the file loader allows, `from_dict` denies
        have hallowed : (loadedFlat payload action priority conditions).effect = .allow := by
          rw [heffect, ofText_allow, hlowered]
        have hdenied : (jsonPolicy payload action priority').effect = .deny := by
          rw [heffect', ofText_deny]
          exact hallow
        rw [agree_of_effects hsameAction hsameChecked hallowed hdenied, haction, hchecked]
        constructor
        · intro hmet
          exact .inr (.inr hmet)
        · intro hclear
          exact (hclear.resolve_left hallow).resolve_left fun hother => hother hlowered
      · -- both deny
        constructor
        · intro _
          exact .inr (.inl hlowered)
        · intro _
          apply agree_of_alike hsameAction _ hsameChecked
          rw [heffect, heffect', ofText_deny.mpr hlowered, ofText_deny.mpr hallow]

/-! ## The result -/

theorem AgreeOn.refl (payload : Dict) (frontEnd : FrontEnd) :
    AgreeOn yaml dump index payload frontEnd frontEnd := by
  intro engine engine' hengine hengine' input
  rw [Except.ok.inj (hengine.symm.trans hengine')]

theorem AgreeOn.symm {frontEnd frontEnd' : FrontEnd}
    (h : AgreeOn yaml dump index payload frontEnd frontEnd') :
    AgreeOn yaml dump index payload frontEnd' frontEnd := by
  intro engine engine' hengine hengine' input
  exact (h engine' engine hengine' hengine input).symm

/-- The file loader and the text of a change agree on the clear blocks. -/
theorem block_agree_iff (hyaml : yaml (dump payload) = .ok (.dict payload)) :
    AgreeOn yaml dump index payload .fileLoader .dsl ↔ BlockClear payload := by
  constructor
  · intro hagree block effect action priority conditions whenOnly hfields haction hconditions hwhen
    have hnonempty : action ≠ "" := by
      intro hempty
      rw [hempty] at haction
      exact haction (by decide)
    -- both accept it
    have ⟨p, hdsl, hreading⟩ := @dsl_of _ yaml dump index _ _ _ _ _ hyaml hfields hnonempty _ hwhen
    have hloader := (@fileLoader_block _ yaml dump index _ _ _ _ _ _ hfields).mpr
      ⟨haction, conditions, hconditions, rfl⟩
    exact (block_pair_iff hreading hconditions).mp (hagree _ _ hloader hdsl)
  · intro hclear engine engine' hloader hdsl
    have ⟨p, block, effect, action, priority, whenOnly, hengine', hreading⟩ := dsl_block hyaml hdsl
    have ⟨haction, conditions, hconditions, hengine⟩ := (fileLoader_block hreading.fields).mp hloader
    rw [hengine, hengine']
    apply (block_pair_iff hreading hconditions).mpr
    exact hclear block effect action priority conditions whenOnly hreading.fields haction
      hconditions hreading.when

/-- A policy test takes a block as the text of a change. -/
theorem policyTest_dsl_agree (hyaml : yaml (dump payload) = .ok (.dict payload))
    (hblock : IsBlock payload) : AgreeOn yaml dump index payload .policyTest .dsl := by
  intro engine engine' htest hdsl
  have ⟨p, block, effect, action, priority, whenOnly, hengine, hreading⟩ :=
    policyTest_block hyaml hblock htest
  have ⟨p', block', effect', action', priority', whenOnly', hengine', hreading'⟩ :=
    dsl_block hyaml hdsl
  rw [hengine, hengine']
  exact hreading.agree hreading'

/-- What a policy test accepts, the text of a change does too. -/
theorem dsl_of_policyTest (hyaml : yaml (dump payload) = .ok (.dict payload))
    (hblock : IsBlock payload)
    (h : FrontEnd.policyTest.engine yaml dump index payload = .ok engine) :
    ∃ engine', FrontEnd.dsl.engine yaml dump index payload = .ok engine' := by
  have ⟨_, block, effect, action, priority, whenOnly, _, hreading⟩ :=
    policyTest_block hyaml hblock h
  have ⟨p, hdsl, _⟩ := @dsl_of _ yaml dump index _ _ _ _ _ hyaml hreading.fields hreading.nonempty
    _ hreading.when
  exact ⟨_, hdsl⟩

/-- The readers of a block agree exactly on the clear ones. -/
theorem agree_block_iff (hyaml : yaml (dump payload) = .ok (.dict payload))
    (hblock : IsBlock payload) :
    FrontEndsAgree yaml dump index payload ↔ BlockClear payload := by
  rw [← @block_agree_iff _ yaml dump index payload hyaml]
  constructor
  · intro hagree
    exact hagree .fileLoader .dsl (.inl hblock) hblock
  · intro hloader
    have htest := @policyTest_dsl_agree _ yaml dump index payload hyaml hblock
    -- the file loader and the policy test, by way of the text of a change
    have hloaderTest : AgreeOn yaml dump index payload .fileLoader .policyTest := by
      intro engine engine' hengine hengine' input
      have ⟨other, hdsl⟩ := dsl_of_policyTest hyaml hblock hengine'
      rw [hloader _ _ hengine hdsl, htest _ _ hengine' hdsl]
    intro frontEnd frontEnd' hreads hreads'
    cases frontEnd with
    | policiesJson =>
        have ⟨_, hflat⟩ := hreads
        exact absurd hblock hflat.noBlock
    | fileLoader =>
        cases frontEnd' with
        | fileLoader => exact .refl payload _
        | dsl => exact hloader
        | policyTest => exact hloaderTest
        | policiesJson =>
            have ⟨_, hflat⟩ := hreads'
            exact absurd hblock hflat.noBlock
    | dsl =>
        cases frontEnd' with
        | fileLoader => exact hloader.symm
        | dsl => exact .refl payload _
        | policyTest => exact htest.symm
        | policiesJson =>
            have ⟨_, hflat⟩ := hreads'
            exact absurd hblock hflat.noBlock
    | policyTest =>
        cases frontEnd' with
        | fileLoader => exact hloaderTest.symm
        | dsl => exact htest
        | policyTest => exact .refl payload _
        | policiesJson =>
            have ⟨_, hflat⟩ := hreads'
            exact absurd hblock hflat.noBlock

/-- The file loader and `PolicyDefinition.from_dict` agree on the clear flat objects. -/
theorem flat_agree_iff (hflat : IsFlat payload action) :
    AgreeOn yaml dump index payload .fileLoader .policiesJson ↔ FlatClear payload := by
  constructor
  · intro hagree action' priority conditions hflat' hpriority hconditions
    have hloader := (@fileLoader_flat _ yaml dump index _ _ _ hflat').mpr
      ⟨priority, conditions, hpriority, hconditions, rfl⟩
    have hjson := (@policiesJson_flat _ yaml dump index _ _ _ hflat').mpr
      ⟨priority, hpriority, rfl⟩
    exact (flat_pair_iff hconditions).mp (hagree _ _ hloader hjson)
  · intro hclear engine engine' hloader hjson
    have ⟨priority, conditions, hpriority, hconditions, hengine⟩ := (fileLoader_flat hflat).mp hloader
    have ⟨priority', _, hengine'⟩ := (policiesJson_flat hflat).mp hjson
    rw [hengine, hengine']
    apply (flat_pair_iff hconditions).mpr
    exact hclear action priority conditions hflat hpriority hconditions

omit [PyRuntime] in
theorem ofText_lower (effect : Effect) : Effect.ofText (pyLower effect.text) = effect := by
  cases effect <;> decide

/-- A policy test accepts only what no reader takes in another way. -/
theorem policyTest_flat_agree (hflat : IsFlat payload action) :
    AgreeOn yaml dump index payload .policyTest .fileLoader ∧
      AgreeOn yaml dump index payload .policyTest .policiesJson := by
  constructor
  · intro engine engine' htest hloader
    have ⟨p, effect, conditions, hengine, heffect, hread, haction, hsame, hchecked⟩ :=
      policyTest_flat hflat htest
    have ⟨priority, conditions', _, hconditions, hengine'⟩ := (fileLoader_flat hflat).mp hloader
    rw [hread] at hconditions
    rw [hengine, hengine']
    apply agree_of_alike haction
    · rw [loadedFlat_effect, hsame, heffect, ofText_lower]
    · show p.checked = unkeyed conditions'
      rw [hchecked, Except.ok.inj hconditions]
  · intro engine engine' htest hjson
    have ⟨p, effect, conditions, hengine, heffect, hread, haction, hsame, hchecked⟩ :=
      policyTest_flat hflat htest
    have ⟨priority, _, hengine'⟩ := (policiesJson_flat hflat).mp hjson
    have hdict : pyDict ((Dict.get payload "conditions").pyOr (.dict [])) = .ok conditions := by
      rw [hread]
      rfl
    -- the test loader refuses a list, the others read it
    have hnoList : ∀ element elements,
        Dict.get payload "conditions" ≠ .list (element :: elements) := by
      intro element elements hlist
      rw [hlist] at hread
      cases hread
    rw [hengine, hengine']
    apply agree_of_alike haction
    · rw [jsonPolicy_effect, hsame, heffect, Effect.ofText_text]
    · show p.checked = unkeyed (jsonConditions payload)
      rw [hchecked, conditions_of_noList hdict hnoList]

/-- The readers of a flat object agree exactly on the clear ones. -/
theorem agree_flat_iff (hflat : IsFlat payload action) :
    FrontEndsAgree yaml dump index payload ↔ FlatClear payload := by
  rw [← @flat_agree_iff _ yaml dump index payload action hflat]
  constructor
  · intro hagree
    exact hagree .fileLoader .policiesJson (.inr ⟨action, hflat⟩) ⟨action, hflat⟩
  · intro hloader
    have ⟨htestLoader, htestJson⟩ := @policyTest_flat_agree _ yaml dump index payload action hflat
    intro frontEnd frontEnd' hreads hreads'
    -- of the pairs only one is in doubt; a flat object is none of the dsl's
    cases frontEnd with
    | dsl => exact absurd hreads hflat.noBlock
    | fileLoader =>
        cases frontEnd' with
        | dsl => exact absurd hreads' hflat.noBlock
        | fileLoader => exact .refl payload _
        | policyTest => exact htestLoader.symm
        | policiesJson => exact hloader
    | policyTest =>
        cases frontEnd' with
        | dsl => exact absurd hreads' hflat.noBlock
        | fileLoader => exact htestLoader
        | policyTest => exact .refl payload _
        | policiesJson => exact htestJson
    | policiesJson =>
        cases frontEnd' with
        | dsl => exact absurd hreads' hflat.noBlock
        | fileLoader => exact hloader.symm
        | policyTest => exact htestJson.symm
        | policiesJson => exact .refl payload _

/-- The front ends agree on an object exactly when it is clear. -/
theorem front_ends_agree_iff (hyaml : yaml (dump payload) = .ok (.dict payload)) :
    FrontEndsAgree yaml dump index payload ↔ BlockClear payload ∧ FlatClear payload := by
  by_cases hblock : IsBlock payload
  · rw [agree_block_iff hyaml hblock]
    constructor
    · intro hclear
      refine ⟨hclear, ?_⟩
      intro action priority conditions hflat
      exact absurd hblock hflat.noBlock
    · intro hclear
      exact hclear.1
  · have hclearBlock : BlockClear payload := by
      intro block effect action priority conditions whenOnly hfields
      exact absurd hfields.isBlock hblock
    by_cases hflat : ∃ action, IsFlat payload action
    · have ⟨action, hflat⟩ := hflat
      rw [agree_flat_iff hflat]
      constructor
      · intro hclear
        exact ⟨hclearBlock, hclear⟩
      · intro hclear
        exact hclear.2
    · -- the object has no reader
      constructor
      · intro _
        refine ⟨hclearBlock, ?_⟩
        intro action priority conditions hshape
        exact absurd ⟨action, hshape⟩ hflat
      · intro _ frontEnd frontEnd' hreads
        exfalso
        cases frontEnd with
        | fileLoader | policyTest => exact hreads.elim hblock hflat
        | dsl => exact hblock hreads
        | policiesJson => exact hflat hreads

end FrontEnds

/-! ## A clear block, and one that is not -/

section Concrete

attribute [local instance] plainRuntime

/-- What the tests write, with its conditions under `when`. -/
def clearBlock : Dict :=
  [("allow", .dict [("action", .str "read"), ("when", .dict [("role", .str "admin")])])]

/-- The same with its conditions under `conditions`. -/
def conditionsBlock : Dict :=
  [("allow", .dict [("action", .str "read"), ("conditions", .dict [("role", .str "admin")])])]

/-- A YAML text of each, and what `yaml.safe_load` makes of it. -/
def blockDump (key : String) (_ : Dict) : String :=
  "allow:\n  action: read\n  " ++ key ++ ":\n    role: admin\n"

theorem clearBlock_clear : BlockClear clearBlock ∧ FlatClear clearBlock := by
  constructor
  · intro block effect action priority conditions whenOnly hfields haction hconditions hwhen
    have hpair := Prod.mk.inj (Except.ok.inj hfields.found)
    have hblock := Value.dict.inj hpair.1
    subst hblock
    have hread := Value.str.inj hfields.action
    subst hread
    have hstrip : pyStrip "read" = "read" := by decide
    exact ⟨fun _ => .inl rfl, fun hother => absurd hstrip hother⟩
  · intro action priority conditions hflat
    exact absurd (.inl rfl) hflat.noBlock

theorem clear_block_same :
    (∀ input, (listEngine [{ action := "read", effect := .allow, priority := 100
                             conditions := [("role", .str "admin")] }]).allows input =
      (listEngine [{ action := "read", effect := .allow, priority := 100
                     conditions := [("role", .str "admin"), ("policy_key", .str "read")] }]).allows
        input) ∧
    FrontEndsAgree (fun _ => .ok (.dict clearBlock)) (blockDump "when") 1 clearBlock := by
  have hagree := (@front_ends_agree_iff plainRuntime (fun _ => .ok (.dict clearBlock))
    (blockDump "when") 1 clearBlock rfl).mpr clearBlock_clear
  refine ⟨?_, hagree⟩
  exact hagree .fileLoader .dsl (.inl (.inl rfl)) (.inl rfl) _ _ rfl rfl

/-- A user without a role reads. -/
def readRequest : AuthorizationInput where
  user := [("id", .str "u1")]
  resource := []
  action := "read"

/-- The file loader asks for the role, and the text of a change does not. -/
theorem conditions_key_unread :
    let yaml : YamlReader := fun _ => .ok (.dict conditionsBlock)
    let dump := blockDump "conditions"
    (FrontEnd.fileLoader.engine yaml dump 1 conditionsBlock).bind (·.allows readRequest) =
      .ok false ∧
    (FrontEnd.dsl.engine yaml dump 1 conditionsBlock).bind (·.allows readRequest) = .ok true ∧
    ¬ FrontEndsAgree yaml dump 1 conditionsBlock := by
  intro yaml dump
  refine ⟨rfl, rfl, ?_⟩
  intro hagree
  have hsame := hagree .fileLoader .dsl (.inl (.inl rfl)) (.inl rfl) _ _ rfl rfl readRequest
  have hdenied : (listEngine [{ action := "read", effect := .allow, priority := 100
                                conditions := [("role", .str "admin")] }]).allows readRequest =
      .ok false := rfl
  have hallowed : (listEngine [{ action := "read", effect := .allow, priority := 100
                                 conditions := [("policy_key", .str "read")] }]).allows
      readRequest = .ok true := rfl
  cases hdenied.symm.trans (hsame.trans hallowed)

end Concrete

end KeyNetra
