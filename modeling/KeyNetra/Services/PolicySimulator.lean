import KeyNetra.Services.Drafts
import KeyNetra.Services.ImpactAnalysis

/-!
# KeyNetra.Services.PolicySimulator — a change tried before it is stored

`PolicySimulator.simulate_policy_change` and `ImpactAnalyzer` try a change behind the current
policies. Storing it puts it in the place of the policy of its key, so what is tried has one
policy more than what is decided over afterwards.

* `simulatePolicyChange` — the simulator, `DslPolicy.submitted` the change as it is stored;
* `Grants` — the first policy of a list that holds allows, or the fallback of an exception does;
* `Foreseen` — what is tried is what is decided once the change is stored;
* `foreseen_iff` — so it is unless the policy that the change replaces decides the trial and
  those that remain decide otherwise, or an exception ends the trial.
-/

namespace KeyNetra

section Simulator

variable [PyRuntime]

/-! ## The simulator -/

/-- The arguments of `simulate_policy_change` but the change. -/
structure SimulationRequest where
  tenantKey : String
  user : Dict
  action : String
  resource : Dict
  context : Dict

/-- The request it resolves and authorizes. -/
def SimulationRequest.asked (request : SimulationRequest) : AuthorizeRequest where
  tenantKey := request.tenantKey
  user := request.user
  action := request.action
  resource := request.resource
  context := request.context

omit [PyRuntime] in
@[simp] theorem asked_tenantKey (request : SimulationRequest) :
    request.asked.tenantKey = request.tenantKey := rfl

/-- `SimulationResult`. -/
structure SimulationResult where
  decisionBefore : AuthorizationDecision
  decisionAfter : AuthorizationDecision

/-- The engine of the current policies and the change behind them, `after_engine` of the analyzer
too. -/
def triedEngine (currentPolicies : List PolicyRecord) (changedPolicy : DslPolicy) :
    Except PyError KeyNetraEngine :=
  KeyNetraEngine.new ((currentPolicies.map fun policy => .definition policy.definition) ++
    [.raw changedPolicy.raw])

/-- `PolicySimulator.simulate_policy_change`. -/
def simulatePolicyChange (settings : Settings) (yaml : YamlReader) (w : World)
    (request : SimulationRequest) (policyChange : String) :
    Except PyError SimulationResult × World :=
  let tenant := w.tenant request.tenantKey
  match buildInput (w.ensureTenant request.tenantKey) request.asked with
  | (.error e, w) => (.error e, w)
  | (.ok (input, _), w) =>
      let (before, w) := authorize settings w request.asked
      let after := do
        let changedPolicy ← dslToPolicy yaml policyChange
        let engine ← triedEngine (w.db.policies.listCurrentPolicies tenant.id) changedPolicy
        engine.decide input
      (after.map fun after => ⟨before.decision, after⟩, w)

/-- The arguments `create_policy_from_dsl` gives to `create_policy`. -/
def DslPolicy.submitted (policy : DslPolicy) (createdBy : Option String) : PolicyChange where
  policyKey := ((Dict.get policy.conditions "policy_key").pyOr (.str policy.action)).text
  action := policy.action
  effect := policy.effect.text
  priority := policy.priority
  conditions := policy.conditions
  createdBy := createdBy

/-! ## Rows that grant -/

section Grants

variable {α : Type} {input : AuthorizationInput} {rows : List (PolicyVersion × Policy)}

/-- The list grants: the first policy that holds allows, or the fallback does where one raises
before it. -/
def Grants (settings : Settings) (definition : α → PolicyDefinition) (input : AuthorizationInput)
    (rows : List α) : Prop :=
  match firstHeld definition input rows with
  | .ok held => ∃ row, held = some row ∧ (definition row).effect = .allow
  | .error _ => settings.FallbackAllows input

/-- When the data stages abstain, a request is allowed over the rows that grant. -/
theorem decisionOver_allowed {settings : Settings} {w : World} {request : AuthorizeRequest}
    {rows : List (PolicyVersion × Policy)} (hinput : w.storeInput request = .ok input)
    (hverdict : verdict (dataStages input) = .abstain) (hrows : rows ≠ []) :
    (w.decisionOver settings request (rows.map policyRecord)).allowed = true ↔
      Grants settings rowDefinition input rows := by
  have hengine : currentEngine settings (rows.map policyRecord) =
      .ok (engineOfRows rowDefinition rows) := by
    unfold currentEngine
    rw [if_neg (by simpa using hrows)]
    exact engineOf_rows rows
  have hdecide := decide_firstHeld hverdict rowDefinition rows
  unfold World.decisionOver Grants
  rw [hinput]
  dsimp only
  rw [hengine, Lib.ok_bind]
  rcases hfirst : firstHeld rowDefinition input rows with e | held
  · rw [hfirst] at hdecide
    rw [hdecide]
    exact fallbackDecision_allowed settings input _
  · rw [hfirst] at hdecide
    rcases hdecide with ⟨decision, hdecision, hallowed⟩
    rw [hdecision]
    exact hallowed

/-- A data stage that decides does so over any rows. -/
theorem decisionOver_decisive {settings : Settings} {w : World} {request : AuthorizeRequest}
    {decision : AuthorizationDecision} {rows : List (PolicyVersion × Policy)}
    (hinput : w.storeInput request = .ok input) (hrows : rows ≠ [])
    (hdecide : ∀ engine : KeyNetraEngine, engine.decide input = .ok decision) :
    w.decisionOver settings request (rows.map policyRecord) = decision := by
  unfold World.decisionOver
  rw [hinput]
  dsimp only
  unfold currentEngine
  rw [if_neg (by simpa using hrows), engineOf_rows, Lib.ok_bind, hdecide]

end Grants

/-! ## The two lists -/

/-- The rows a change is tried with: the current ones, and the change. -/
def triedRows (rows : List (PolicyVersion × Policy)) : List (Option (PolicyVersion × Policy)) :=
  rows.map some ++ [none]

/-- Their policies. -/
def DslPolicy.tried (change : DslPolicy) : Option (PolicyVersion × Policy) → PolicyDefinition
  | some row => rowDefinition row
  | none => change.definition

/-- Such a row is listed once the change is stored: it is the change, or of another key. -/
def outlives (policyKey : String) : Option (PolicyVersion × Policy) → Bool
  | some row => row.2.policyKey ≠ policyKey
  | none => true

variable {settings : Settings} {yaml : YamlReader} {w : World} {request : SimulationRequest}
  {policyChange : String} {change : DslPolicy} {createdBy : Option String}
  {policies : PolicyStore} {input : AuthorizationInput}

/-- The engine of a trial is that of its rows. -/
theorem triedEngine_eq (rows : List (PolicyVersion × Policy)) (change : DslPolicy) :
    triedEngine (rows.map policyRecord) change =
      .ok (engineOfRows change.tried (triedRows rows)) := by
  have hengine := (impact_engines (rows.map policyRecord) change).2
  unfold triedEngine
  rw [hengine, engineOfRows_eq]
  congr 2
  unfold triedRows
  rw [List.map_append, List.map_map, List.map_map]
  rfl

/-- What the rows grant once the change is stored is what those of the trial do that outlive
it. -/
theorem grants_stored {tenantId : Int} {s : PolicyStore}
    (hstored : (PolicyWrite.create (change.submitted createdBy)).commit s tenantId =
      .ok policies) :
    policies.currentPolicyRows tenantId "active" ≠ [] ∧
      (Grants settings rowDefinition input (policies.currentPolicyRows tenantId "active") ↔
        Grants settings change.tried input ((triedRows (s.currentPolicyRows tenantId
          "active")).filter (outlives (change.submitted createdBy).policyKey))) := by
  rcases Lib.bind_eq_ok.mp hstored with ⟨⟨result, s'⟩, hcreate, hpolicies⟩
  have hsame : s' = policies := Except.ok.inj hpolicies
  subst hsame
  rcases currentRows_create_listed hcreate normalizedPolicySet_active.symm with
    ⟨v, p, hv, hkey, hrows⟩
  -- the new row takes the place of the change
  let stored : Option (PolicyVersion × Policy) → PolicyVersion × Policy := fun row =>
    row.getD (v, p)
  have hlisted : ((triedRows (s.currentPolicyRows tenantId "active")).filter
      (outlives (change.submitted createdBy).policyKey)).map stored =
      ((s.currentPolicyRows tenantId "active").filter fun row =>
        row.2.policyKey ≠ (change.submitted createdBy).policyKey) ++ [(v, p)] := by
    unfold triedRows
    rw [List.filter_append, List.map_append, List.filter_map, List.map_map]
    congr 1
    exact List.map_id _
  have hdefinition : ∀ row, (rowDefinition (stored row)).action = (change.tried row).action ∧
      (rowDefinition (stored row)).effect = (change.tried row).effect ∧
      (rowDefinition (stored row)).priority = (change.tried row).priority ∧
      (rowDefinition (stored row)).conditions = (change.tried row).conditions := by
    intro row
    rcases row with _ | row
    · rw [show stored none = (v, p) from rfl, hv]
      exact ⟨rfl, Effect.ofText_text _, rfl, rfl⟩
    · exact ⟨rfl, rfl, rfl, rfl⟩
  have hholds : ∀ row, (rowDefinition (stored row)).holds input = (change.tried row).holds input := by
    intro row
    have hrow := hdefinition row
    unfold PolicyDefinition.holds PolicyDefinition.checked
    rw [hrow.1, hrow.2.2.2]
  have hfirst : firstHeld rowDefinition input (s'.currentPolicyRows tenantId "active") =
      (firstHeld change.tried input ((triedRows (s.currentPolicyRows tenantId "active")).filter
        (outlives (change.submitted createdBy).policyKey))).map (Option.map stored) := by
    rw [← firstHeld_map (fun row => (hdefinition row).2.2.1) hholds, hlisted, hrows]
    unfold firstHeld
    exact congrArg _ (Lib.sortOn_sortOn _ _)
  constructor
  · intro hnone
    rw [hrows] at hnone
    have hmem : (v, p) ∈ ([] : List (PolicyVersion × Policy)) := by
      rw [← hnone, Lib.mem_sortOn]
      exact List.mem_append_right _ (List.mem_singleton_self _)
    cases hmem
  · unfold Grants
    rw [hfirst]
    rcases firstHeld change.tried input _ with e | _ | row
    · exact Iff.rfl
    · simp [Except.map]
    · simp [Except.map, (hdefinition row).2.1]

/-! ## What a trial foresees -/

/-- A request asked after the change is stored. -/
def World.allowedAfter (settings : Settings) (w : World) (request : SimulationRequest)
    (change : PolicyChange) : Bool :=
  (authorize settings ((PolicyWrite.create change).run request.tenantKey w)
    request.asked).1.decision.allowed

/-- The trial foresees the change: the simulator's decision, and that of the analyzer's engine on
the request's input, allow what `authorize` does right after the change is stored. -/
structure Foreseen (settings : Settings) (yaml : YamlReader) (w : World)
    (request : SimulationRequest) (policyChange : String) (change : DslPolicy)
    (createdBy : Option String) : Prop where
  simulated : ∃ result, (simulatePolicyChange settings yaml w request policyChange).1 = .ok result ∧
    result.decisionAfter.allowed =
      (simulatePolicyChange settings yaml w request policyChange).2.allowedAfter settings request
        (change.submitted createdBy)
  analyzed : ∃ engine input tenant decision,
    triedEngine (w.db.policies.listCurrentPolicies (w.tenant request.tenantKey).id) change =
      .ok engine ∧ (buildInput w request.asked).1 = .ok (input, tenant) ∧
    engine.decide input = .ok decision ∧
    decision.allowed = w.allowedAfter settings request (change.submitted createdBy)

/-- The request is resolved, and a data stage decides it, or the first policy of the trial that
holds is found; and if the change replaces that policy, the policies that remain grant just when
it does. -/
def World.Foreseeable (settings : Settings) (w : World) (request : SimulationRequest)
    (change : DslPolicy) (policyKey : String) : Prop :=
  let rows := triedRows (w.activeRows request.asked)
  ∃ input, w.storeInput request.asked = .ok input ∧
    (verdict (dataStages input) ≠ .abstain ∨
      ∃ held, firstHeld change.tried input rows = .ok held ∧
        ∀ row, held = some row → outlives policyKey row = false →
          ((change.tried row).effect = .allow ↔
            Grants settings change.tried input (rows.filter (outlives policyKey))))

/-- Over truthful caches with the same tables, a request asked after the change is stored is
decided over the rows it leaves. -/
theorem allowedAfter_eq {w' : World} (hsame : SameTables request.tenantKey w w')
    (h : Truthful settings request.asked w')
    (hstored : (PolicyWrite.create (change.submitted createdBy)).commit w.db.policies
      (w.tenant request.tenantKey).id = .ok policies) :
    w'.allowedAfter settings request (change.submitted createdBy) =
      (w.decisionOver settings request.asked ((policies.currentPolicyRows
        (w.tenant request.tenantKey).id "active").map policyRecord)).allowed := by
  have hset : policySetKey request.asked.policySet = "active" := policySetKey_active
  have hcommit : (PolicyWrite.create (change.submitted createdBy)).commit w'.db.policies
      (w'.tenant request.asked.tenantKey).id = .ok policies := by
    rw [asked_tenantKey, hsame.policies, hsame.tenant]
    exact hstored
  have hdecided := authorize_after_write h hcommit
  have hover : w'.decisionOver settings request.asked (w'.requestRows policies request.asked) =
      w.decisionOver settings request.asked (w'.requestRows policies request.asked) :=
    SameTables.decisionOver hsame _
  rw [hover, requestRows_active hset, asked_tenantKey, hsame.tenant] at hdecided
  unfold World.allowedAfter
  rw [hdecided]

/-- A request that is not resolved is not simulated. -/
theorem simulate_unresolved (yaml : YamlReader) (policyChange : String)
    (h : Truthful settings request.asked w) {e : PyError}
    (hinput : w.storeInput request.asked = .error e) :
    (simulatePolicyChange settings yaml w request policyChange).1 = .error e ∧
      (buildInput w request.asked).1 = .error e := by
  have hbuilt := (buildInput_spec h.fresh (distinct_singleton _) (Set.mem_singleton _)).1
  have hensured : w.ensureTenant request.tenantKey = w := ensureTenant_of_registered h.registered
  rw [hinput] at hbuilt
  unfold simulatePolicyChange
  rw [hensured]
  rcases hpair : buildInput w request.asked with ⟨result, w₁⟩
  rw [hpair] at hbuilt
  have herror : result = .error e := hbuilt
  rw [herror]
  exact ⟨rfl, rfl⟩

/-- A simulation of a request that is resolved ends as the engine of the trial does. -/
theorem simulate_resolved (hdsl : dslToPolicy yaml policyChange = .ok change)
    (h : Truthful settings request.asked w) (hinput : w.storeInput request.asked = .ok input) :
    ∃ before w', simulatePolicyChange settings yaml w request policyChange =
        (((engineOfRows change.tried (triedRows (w.activeRows request.asked))).decide input).map
          fun after => ⟨before, after⟩, w') ∧
      SameTables request.tenantKey w w' ∧ Truthful settings request.asked w' := by
  have hspec := buildInput_spec h.fresh (distinct_singleton _) (Set.mem_singleton _)
  have hanswered := h.built.answered
  have hwarmed := (authorize_warmed settings h.built.fresh (distinct_singleton _)
    (Set.mem_singleton _)).tables
  have htables := hspec.2.tables.trans hwarmed
  have hbuilt := hspec.1
  have hensured : w.ensureTenant request.tenantKey = w := ensureTenant_of_registered h.registered
  rw [hinput] at hbuilt
  unfold simulatePolicyChange
  rw [hensured]
  rcases hpair : buildInput w request.asked with ⟨result, w₁⟩
  rw [hpair] at hbuilt hanswered htables
  have hresult : result = .ok (input, w.tenant request.tenantKey) := hbuilt
  rw [hresult]
  dsimp only at hanswered htables ⊢
  rcases hauthorize : authorize settings w₁ request.asked with ⟨answer, w₂⟩
  rw [hauthorize] at hanswered htables
  refine ⟨answer.decision, w₂, ?_, htables, hanswered⟩
  -- the request before the change touches no policy
  have hrows : w₂.db.policies.listCurrentPolicies (w.tenant request.tenantKey).id =
      (w.activeRows request.asked).map policyRecord := by
    rw [htables.policies]
    rfl
  dsimp only
  rw [hdsl, Lib.ok_bind, hrows, triedEngine_eq, Lib.ok_bind]

/-- For a request that is resolved, a change is foreseen when the engine of the trial allows what
is allowed over the rows stored. -/
theorem foreseen_resolved (hdsl : dslToPolicy yaml policyChange = .ok change)
    (h : Truthful settings request.asked w)
    (hstored : (PolicyWrite.create (change.submitted createdBy)).commit w.db.policies
      (w.tenant request.tenantKey).id = .ok policies)
    (hinput : w.storeInput request.asked = .ok input) :
    Foreseen settings yaml w request policyChange change createdBy ↔
      ∃ decision,
        (engineOfRows change.tried (triedRows (w.activeRows request.asked))).decide input =
          .ok decision ∧
        decision.allowed = (w.decisionOver settings request.asked ((policies.currentPolicyRows
          (w.tenant request.tenantKey).id "active").map policyRecord)).allowed := by
  rcases @simulate_resolved _ settings yaml w request policyChange change input hdsl h hinput with
    ⟨before, w', hsimulate, hsame, htruthful⟩
  -- the write is run in two worlds: the one the simulation left, and the analyzed one
  have hsimulated := @allowedAfter_eq _ settings w request change createdBy policies w' hsame
    htruthful hstored
  have hanalyzed := @allowedAfter_eq _ settings w request change createdBy policies w
    (.refl w) h hstored
  have hengine := triedEngine_eq (w.activeRows request.asked) change
  have hbuilt := (buildInput_spec h.fresh (distinct_singleton _) (Set.mem_singleton _)).1
  rw [hinput] at hbuilt
  constructor
  · intro hforeseen
    rcases hforeseen.simulated with ⟨result, hresult, hallowed⟩
    rw [hsimulate] at hresult hallowed
    rw [hsimulated] at hallowed
    rcases hdecide : (engineOfRows change.tried (triedRows (w.activeRows request.asked))).decide
      input with e | decision
    · rw [hdecide] at hresult
      cases hresult
    · rw [hdecide] at hresult
      refine ⟨decision, rfl, ?_⟩
      rw [← hallowed, ← Except.ok.inj hresult]
  · rintro ⟨decision, hdecide, hallowed⟩
    constructor
    · rw [hsimulate, hsimulated, hdecide]
      exact ⟨_, rfl, hallowed⟩
    · rw [hanalyzed]
      exact ⟨_, input, _, decision, hengine, hbuilt, hdecide, hallowed⟩

/-- When the data stages abstain, a request is allowed over the rows stored when those of the trial
that outlive the change grant. -/
theorem allowed_stored (settings : Settings) (hinput : w.storeInput request.asked = .ok input)
    (hverdict : verdict (dataStages input) = .abstain)
    (hstored : (PolicyWrite.create (change.submitted createdBy)).commit w.db.policies
      (w.tenant request.tenantKey).id = .ok policies) :
    (w.decisionOver settings request.asked ((policies.currentPolicyRows
        (w.tenant request.tenantKey).id "active").map policyRecord)).allowed = true ↔
      Grants settings change.tried input ((triedRows (w.activeRows request.asked)).filter
        (outlives (change.submitted createdBy).policyKey)) := by
  have hrows := @grants_stored _ settings change createdBy policies input _ _ hstored
  rw [decisionOver_allowed hinput hverdict hrows.1]
  exact hrows.2

/-- A change that is stored is foreseen, for a request over truthful caches, exactly when the
request is resolved, the trial raises nothing, and the policy that decides it is none that the
change replaces, or one in whose place the policies that remain grant just when it does. -/
theorem foreseen_iff (hdsl : dslToPolicy yaml policyChange = .ok change)
    (h : Truthful settings request.asked w)
    (hstored : (PolicyWrite.create (change.submitted createdBy)).commit w.db.policies
      (w.tenant request.tenantKey).id = .ok policies) :
    Foreseen settings yaml w request policyChange change createdBy ↔
      w.Foreseeable settings request change (change.submitted createdBy).policyKey := by
  rcases hinput : w.storeInput request.asked with e | input
  · have hunresolved := simulate_unresolved yaml policyChange h hinput
    constructor
    · intro hforeseen
      rcases hforeseen.simulated with ⟨result, hresult, -⟩
      rw [hunresolved.1] at hresult
      cases hresult
    · rintro ⟨input, hresolved, -⟩
      rw [hinput] at hresolved
      cases hresolved
  · rw [foreseen_resolved hdsl h hstored hinput]
    constructor
    · rintro ⟨decision, hdecide, hallowed⟩
      refine ⟨input, hinput, ?_⟩
      by_cases hverdict : verdict (dataStages input) = .abstain
      · right
        have hfirst := decide_firstHeld hverdict change.tried (triedRows (w.activeRows request.asked))
        have hafter := allowed_stored settings hinput hverdict hstored
        rcases hheld : firstHeld change.tried input (triedRows (w.activeRows request.asked)) with
          e | held
        · rw [hheld] at hfirst
          rw [hfirst] at hdecide
          cases hdecide
        · refine ⟨held, rfl, ?_⟩
          rintro row rfl -
          rw [hheld] at hfirst
          rcases hfirst with ⟨decision', hdecide', hallows⟩
          rw [hdecide] at hdecide'
          rw [← hafter, ← hallowed, Except.ok.inj hdecide', hallows]
          simp
      · exact .inl hverdict
    · rintro ⟨input', hinput', hforeseeable⟩
      rw [hinput] at hinput'
      have hsame : input = input' := Except.ok.inj hinput'
      subst hsame
      by_cases hverdict : verdict (dataStages input) = .abstain
      · rcases hforeseeable with hdecisive | ⟨held, hheld, hreplaced⟩
        · exact absurd hverdict hdecisive
        · have hfirst := decide_firstHeld hverdict change.tried
            (triedRows (w.activeRows request.asked))
          rw [hheld] at hfirst
          rcases hfirst with ⟨decision, hdecide, hallows⟩
          refine ⟨decision, hdecide, ?_⟩
          rw [Bool.eq_iff_iff, hallows, allowed_stored settings hinput hverdict hstored]
          by_cases hkept : ∀ row, held = some row →
              outlives (change.submitted createdBy).policyKey row = true
          · -- the change replaces another policy, or none
            have hremain := firstHeld_filter hheld hkept
            unfold Grants
            rw [hremain]
          · push Not at hkept
            rcases hkept with ⟨row, rfl, hrow⟩
            rw [← hreplaced row rfl (by simpa using hrow)]
            simp
      · rcases decide_of_decisive hverdict with ⟨decision, hdecide, -⟩
        refine ⟨decision, hdecide _ none, ?_⟩
        have hrows := @grants_stored _ settings change createdBy policies input _ _ hstored
        rw [decisionOver_decisive hinput hrows.1 (hdecide · none)]

end Simulator

section Concrete

attribute [local instance] plainRuntime

attribute [local semireducible] cacheKey

/-- A change as text. -/
def denyReadText : String := "deny:\n  action: read\n"

/-- A reader of that text. -/
def denyRead : YamlReader := fun text =>
  if text = denyReadText then .ok (.dict [("deny", .dict [("action", .str "read")])])
  else .error (.valueError "invalid dsl")

/-- What the text says: nobody may read, under the action as its key. -/
def denyReadPolicy : DslPolicy where
  action := "read"
  effect := .deny
  priority := 100
  conditions := [("policy_key", .str "read")]

/-- User 7 reads document 1. -/
def readSimulated : SimulationRequest where
  tenantKey := "default"
  user := [("id", .int 7)]
  action := "read"
  resource := [("type", .str "doc"), ("id", .str "1")]
  context := []

/-- A policy that allows reading, under the key the change has. -/
def readPolicyOfKey : PolicyChange := { readersPolicy with policyKey := "read" }

/-- Beside an allow of another key and a smaller priority, the deny is foreseen to change
nothing. -/
theorem deny_foreseen : Foreseen plainSettings denyRead (policyWorld [readersPolicy]) readSimulated
    denyReadText denyReadPolicy none := by
  have htruthful : Truthful plainSettings readSimulated.asked (policyWorld [readersPolicy]) :=
    truthful_rested plainSettings readSimulated.asked _
  have hcommit : ((PolicyWrite.create (denyReadPolicy.submitted none)).commit
      (policyWorld [readersPolicy]).db.policies
      ((policyWorld [readersPolicy]).tenant readSimulated.tenantKey).id).isOk = true := by
    decide +kernel
  -- the first policy held is one that the denial outlives
  have hfirst : (do
      let input ← (policyWorld [readersPolicy]).storeInput readSimulated.asked
      let held ← firstHeld denyReadPolicy.tried input
        (triedRows ((policyWorld [readersPolicy]).activeRows readSimulated.asked))
      .ok (held.map (outlives "read")) : Except PyError (Option Bool)).toOption = some (some true) := by
    decide +kernel
  rcases Lib.isOk_iff.mp hcommit with ⟨policies, hstored⟩
  refine (foreseen_iff rfl htruthful hstored).mpr ?_
  rcases hinput : (policyWorld [readersPolicy]).storeInput readSimulated.asked with e | input
  · rw [hinput] at hfirst
    cases hfirst
  · rcases hheld : firstHeld denyReadPolicy.tried input
      (triedRows ((policyWorld [readersPolicy]).activeRows readSimulated.asked)) with e | held
    · rw [hinput, Lib.ok_bind, hheld] at hfirst
      cases hfirst
    · rw [hinput, Lib.ok_bind, hheld, Lib.ok_bind] at hfirst
      have hkept : held.map (outlives "read") = some true := Option.some.inj hfirst
      refine ⟨input, hinput, .inr ⟨held, hheld, ?_⟩⟩
      rintro row rfl hreplaced
      have hrow : outlives "read" row = true := Option.some.inj hkept
      have hsame : outlives "read" row = false := hreplaced
      rw [hrow] at hsame
      cases hsame

/-- In the place of an allow of its own key, the deny is tried behind it, and the request is
allowed; once the change is stored, it is denied. -/
theorem replacement_unforeseen :
    dslToPolicy denyRead denyReadText = .ok denyReadPolicy ∧
      ((PolicyWrite.create (denyReadPolicy.submitted none)).commit
        (policyWorld [readPolicyOfKey]).db.policies
        ((policyWorld [readPolicyOfKey]).tenant readSimulated.tenantKey).id).isOk = true ∧
      ¬ Foreseen plainSettings denyRead (policyWorld [readPolicyOfKey]) readSimulated denyReadText
        denyReadPolicy none := by
  refine ⟨rfl, by decide +kernel, ?_⟩
  have hfacts : (simulatePolicyChange plainSettings denyRead (policyWorld [readPolicyOfKey])
        readSimulated denyReadText).1.toOption.map (fun result => result.decisionAfter.allowed) =
          some true ∧
      (simulatePolicyChange plainSettings denyRead (policyWorld [readPolicyOfKey])
        readSimulated denyReadText).2.allowedAfter plainSettings readSimulated
          (denyReadPolicy.submitted none) = false := by
    decide +kernel
  intro hforeseen
  rcases hforeseen.simulated with ⟨result, hresult, hallowed⟩
  rw [hfacts.2] at hallowed
  have hdecided := hfacts.1
  rw [hresult] at hdecided
  have hsome : result.decisionAfter.allowed = true := Option.some.inj hdecided
  rw [hallowed] at hsome
  cases hsome

end Concrete

end KeyNetra
