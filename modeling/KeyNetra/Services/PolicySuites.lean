import KeyNetra.Services.PolicyReaders
import KeyNetra.Services.SeedReset
import KeyNetra.Engine.PolicyLists

/-!
# KeyNetra.Services.PolicySuites — policy test suites

A suite is a document of policies and of requests, each with the decision that is expected of it. It
is run before the policies are deployed, against an engine of the suite's policies alone.

* `parsePolicyTestSuite` — the document, checked entry by entry;
* `runPolicyTestSuite` — the decisions on its requests;
* `deploy_lists` — the suite's policies, stored for a tenant, as its engine is given them;
* `suite_foretells` — the tenant's engine then decides each request as the suite's run says.
-/

namespace KeyNetra

/-! ## Suites -/

structure PolicyTestCase where
  name : String
  authorizationInput : AuthorizationInput
  expect : Effect

structure PolicyTestSuite where
  policies : List Dict
  tests : List PolicyTestCase

structure PolicyTestResult where
  name : String
  passed : Bool
  expected : Effect
  actual : Effect
  reason : Option String
  policyId : Option String
  explainTrace : List ExplainTraceStep

section Suites

variable [PyRuntime]

/-- The fields of a test that have to be non-empty texts. -/
def testText (fields : Dict) (key message : String) : Except PyError String :=
  match Dict.get fields key with
  | .str text => if text = "" then .error (.valueError message) else .ok text
  | _ => .error (.valueError message)

/-- `expect not in {"allow", "deny"}`: a list or an object cannot be hashed. -/
def testExpect (name : String) (fields : Dict) : Except PyError Effect :=
  match Dict.get fields "expect" with
  | .str expect =>
      if expect = "allow" then .ok .allow
      else if expect = "deny" then .ok .deny
      else .error (.valueError s!"test '{name}' expect must be allow or deny")
  | .list _ | .dict _ => .error (.typeError "unhashable type")
  | _ => .error (.valueError s!"test '{name}' expect must be allow or deny")

/-- An object of a test's input, `{}` in place of what is false. -/
def testObject (name : String) (rawInput : Dict) (key : String) : Except PyError Dict :=
  match (Dict.get rawInput key).pyOr (.dict []) with
  | .dict items => .ok items
  | _ => .error (.valueError s!"test '{name}' {key} must be an object")

/-- `_parse_test_case`. -/
def parseTestCase (index : Nat) (entry : Value) : Except PyError PolicyTestCase :=
  match entry with
  | .dict fields => do
      let name ← testText fields "name" s!"test #{index} is missing name"
      let expect ← testExpect name fields
      let rawInput ←
        match Dict.get fields "input" with
        | .dict rawInput => .ok rawInput
        | _ => .error (.valueError s!"test '{name}' input must be an object")
      let user ← testObject name rawInput "user"
      let resource ← testObject name rawInput "resource"
      let context ← testObject name rawInput "context"
      let action ← testText rawInput "action" s!"test '{name}' is missing action"
      .ok { name, authorizationInput := { user, resource, action, context }, expect }
  | _ => .error (.valueError s!"test #{index} must be an object")

/-- A list of a suite, which may not be empty. -/
def suiteList (fields : Dict) (key : String) : Except PyError (List Value) :=
  match Dict.get fields key with
  | .list (entry :: entries) => .ok (entry :: entries)
  | _ => .error (.valueError s!"{key} must be a non-empty list")

/-- `[parse(entry, index=index) for index, entry in enumerate(entries, start=1)]`. -/
def parseEntries {α : Type} (parse : Nat → Value → Except PyError α) (entries : List Value) :
    Except PyError (List α) :=
  (entries.zipIdx 1).mapM fun (entry, index) => parse index entry

/-- `parse_policy_test_suite`. -/
def parsePolicyTestSuite (yaml : YamlReader) (dump : Dict → String) (document : String) :
    Except PyError PolicyTestSuite := do
  match ← yaml document with
  | .dict raw => do
      let rawPolicies ← suiteList raw "policies"
      let rawTests ← suiteList raw "tests"
      let policies ← parseEntries (parsePolicyEntry yaml dump) rawPolicies
      let tests ← parseEntries parseTestCase rawTests
      .ok ⟨policies, tests⟩
  | _ => .error (.valueError "policy test file must be an object")

/-- What a test makes of its decision. -/
def PolicyTestCase.result (case : PolicyTestCase) (decision : AuthorizationDecision) :
    PolicyTestResult where
  name := case.name
  passed := decision.decision = case.expect
  expected := case.expect
  actual := decision.decision
  reason := decision.reason
  policyId := decision.policyId
  explainTrace := decision.explainTrace

/-- The loop of `run_policy_test_suite`. -/
def runTests (engine : KeyNetraEngine) (tests : List PolicyTestCase) :
    Except PyError (List PolicyTestResult) :=
  tests.mapM fun case => do
    let decision ← engine.decide case.authorizationInput
    .ok (case.result decision)

/-- `run_policy_test_suite`. -/
def runPolicyTestSuite (suite : PolicyTestSuite) : Except PyError (List PolicyTestResult) := do
  let engine ← KeyNetraEngine.new (suite.policies.map .raw)
  runTests engine suite.tests

/-- `validate_policy_test_suite`. -/
def validatePolicyTestSuite (yaml : YamlReader) (dump : Dict → String) (document : String) :
    Except PyError (List PolicyTestResult) := do
  let suite ← parsePolicyTestSuite yaml dump document
  runPolicyTestSuite suite

/-! ## Deployment -/

/-- The change that stores a policy under its id. -/
def PolicyDefinition.change (policy : PolicyDefinition) : PolicyChange where
  policyKey := policy.policyId.getD ""
  action := policy.action
  effect := policy.effect.text
  priority := policy.priority
  conditions := policy.conditions

/-- The policies are created one after another. -/
def PolicyStore.deploy (s : PolicyStore) (tenantId : Int) (changes : List PolicyChange) :
    Except PyError PolicyStore :=
  changes.foldlM (fun s change => (s.createPolicyVersion tenantId change).map Prod.snd) s

variable {s : PolicyStore} {tenantId : Int} {changes : List PolicyChange}

omit [PyRuntime] in
/-- New keys are all stored, as the seeding of the same policies stores them. -/
theorem deploy_eq_ensureAll (hkeys : (changes.map PolicyChange.policyKey).Nodup)
    (hnew : ∀ change ∈ changes, s.findPolicy tenantId change.policyKey = none) :
    s.deploy tenantId changes = .ok (Lib.ensureAll (ensurePolicy tenantId) changes s).2 := by
  induction changes generalizing s with
  | nil => rfl
  | cons change changes ih =>
      have h := hnew change List.mem_cons_self
      obtain ⟨result, hcreate⟩ := createPolicyVersion_addPolicy h
      have hstep : (Lib.ensureAll (ensurePolicy tenantId) (change :: changes) s).2 =
          (Lib.ensureAll (ensurePolicy tenantId) changes (s.addPolicy tenantId change h)).2 := by
        show (Lib.ensureAll (ensurePolicy tenantId) changes (ensurePolicy tenantId change s).2).2 = _
        rw [ensurePolicy_of_none h]
      rw [hstep, ← ih (List.nodup_cons.mp hkeys).2 (findPolicy_others hkeys hnew h)]
      unfold PolicyStore.deploy
      rw [List.foldlM_cons, hcreate]
      rfl

omit [PyRuntime] in
/-- The tenant's engine is then given the new policies behind its own, by priority. -/
theorem deploy_lists (hkeys : (changes.map PolicyChange.policyKey).Nodup)
    (hnew : ∀ change ∈ changes, s.findPolicy tenantId change.policyKey = none)
    (hactive : ∀ change ∈ changes, change.state = "active") :
    ∃ s', s.deploy tenantId changes = .ok s' ∧
      s'.definitions tenantId = Lib.sortOn PolicyDefinition.priority
        (s.definitions tenantId ++ changes.map PolicyChange.firstDefinition) :=
  ⟨_, deploy_eq_ensureAll hkeys hnew,
    definitions_ensurePolicies hkeys hnew hactive (definitions_sorted s tenantId)⟩

/-! ## Decisions under other ids -/

variable {input : AuthorizationInput}

/-- The decision is the allowed value of the answer. -/
theorem decision_of_allowed {engine : KeyNetraEngine} {override : Option DecisionGraph}
    {decision : AuthorizationDecision} (h : engine.decide input override = .ok decision) :
    decision.decision = if decision.allowed then .allow else .deny := by
  -- a stage that decides gives a decision with its flag; the others hand on
  have hstages : ∀ stages trace decided, runStages stages trace = .inl decided →
      decided.decision = if decided.allowed then .allow else .deny := by
    intro stages
    induction stages with
    | nil =>
        intro trace decided hrun
        cases hrun
    | cons stage stages ih =>
        intro trace decided hrun
        rw [runStages] at hrun
        split_ifs at hrun with hdecisive
        · rw [← Sum.inl.inj hrun]
          simp [decisionFromStage]
        · exact ih _ _ hrun
  unfold KeyNetraEngine.decide at h
  cases hdata : runStages (dataStages input) (startTrace input) with
  | inl decided =>
      rw [hdata] at h
      rw [← Except.ok.inj h]
      exact hstages _ _ _ hdata
  -- no stage of the data decides, so the policies do
  | inr trace =>
      rw [hdata] at h
      obtain ⟨result, -, h⟩ := Lib.bind_eq_ok.mp h
      cases hpolicies : runStages [.ofResult result] trace with
      | inl decided =>
          rw [hpolicies] at h
          rw [← Except.ok.inj h]
          exact hstages _ _ _ hpolicies
      -- nor do they, and the default is a deny
      | inr trace' =>
          rw [hpolicies] at h
          rw [← Except.ok.inj h]
          rfl

/-- The decision of an engine, without the policy it comes from. -/
def KeyNetraEngine.decides (engine : KeyNetraEngine) (input : AuthorizationInput) :
    Except PyError Effect :=
  (engine.decide input).map AuthorizationDecision.decision

/-- Rows whose definitions differ in their ids alone. -/
structure SameBodies {α : Type} (definition definition' : α → PolicyDefinition) : Prop where
  action : ∀ row, (definition' row).action = (definition row).action
  effect : ∀ row, (definition' row).effect = (definition row).effect
  priority : ∀ row, (definition' row).priority = (definition row).priority
  checked : ∀ row, (definition' row).checked = (definition row).checked

/-- The ids do not matter to the decision, nor to whether there is one. -/
theorem decides_sameBodies {α : Type} {definition definition' : α → PolicyDefinition}
    (h : SameBodies definition definition') (rows : List α) :
    (engineOfRows definition' rows).decides input = (engineOfRows definition rows).decides input := by
  unfold KeyNetraEngine.decides
  by_cases hverdict : verdict (dataStages input) = .abstain
  · -- the first policy that holds is in the same row
    have hfirst : firstHeld definition' input rows = firstHeld definition input rows := by
      have hholds : ∀ row, (definition' row).holds input = (definition row).holds input := by
        intro row
        unfold PolicyDefinition.holds
        rw [h.action, h.checked]
      unfold firstHeld
      simp only [hholds, h.priority]
    have hdecide := decide_firstHeld hverdict definition rows
    have hdecide' := decide_firstHeld hverdict definition' rows
    rw [hfirst] at hdecide'
    cases hheld : firstHeld definition input rows with
    | error e =>
        rw [hheld] at hdecide hdecide'
        dsimp only at hdecide hdecide'
        rw [hdecide, hdecide']
    | ok held =>
        rw [hheld] at hdecide hdecide'
        obtain ⟨decision, hdecision, hallowed⟩ := hdecide
        obtain ⟨decision', hdecision', hallowed'⟩ := hdecide'
        have hsame : decision'.allowed = decision.allowed := by
          rw [Bool.eq_iff_iff, hallowed, hallowed']
          simp only [h.effect]
        rw [hdecision, hdecision', Except.map, Except.map, decision_of_allowed hdecision,
          decision_of_allowed hdecision', hsame]
  · obtain ⟨decision, hdecision, -⟩ := decide_of_decisive hverdict
    rw [hdecision, hdecision]

omit [PyRuntime] in
/-- A policy and what is stored of it. -/
theorem sameBodies_change :
    SameBodies id fun policy : PolicyDefinition => policy.change.firstDefinition where
  action _ := rfl
  effect policy := Effect.ofText_text policy.effect
  priority _ := rfl
  checked _ := rfl

omit [PyRuntime] in
/-- Policies of other actions are no candidates. -/
theorem candidates_behind {live added : List PolicyDefinition} {action : String}
    (hother : ∀ policy ∈ live, policy.action ≠ action) :
    candidates (Lib.sortOn PolicyDefinition.priority (live ++ added)) action =
      candidates added action := by
  have hnone : live.filter (fun policy => policy.action = action) = [] := by
    rw [List.filter_eq_nil_iff]
    intro policy hpolicy
    simpa using hother policy hpolicy
  unfold candidates
  rw [Lib.sortOn_filter, Lib.sortOn_sortOn, List.filter_append, hnone, List.nil_append]

/-- The engine of stored policies decides as the engine of the policies. -/
theorem decides_deployed {live policies : List PolicyDefinition}
    (hother : ∀ policy ∈ live, policy.action ≠ input.action) :
    (listEngine (Lib.sortOn PolicyDefinition.priority
      (live ++ (policies.map PolicyDefinition.change).map PolicyChange.firstDefinition))).decides
        input = (listEngine policies).decides input := by
  have hengine := engineOfRows_eq (fun policy : PolicyDefinition =>
    policy.change.firstDefinition) policies
  have hengine' := engineOfRows_eq id policies
  rw [List.map_id] at hengine'
  have hfirst : (policies.map PolicyDefinition.change).map PolicyChange.firstDefinition =
      policies.map fun policy => policy.change.firstDefinition := by
    rw [List.map_map]
    rfl
  rw [hfirst, ← hengine', ← decides_sameBodies sameBodies_change policies, hengine]
  unfold KeyNetraEngine.decides
  rw [decide_of_candidates (candidates_behind hother).symm]

/-! ## What a suite foretells -/

/-- What a result says, apart from the policy that it names. -/
def PolicyTestResult.verdict (result : PolicyTestResult) : String × Effect × Bool :=
  (result.name, result.actual, result.passed)

omit [PyRuntime] in
/-- Two loops whose steps give alike, as far as `g` shows, give lists alike. -/
theorem mapM_map_alike {α β γ ε : Type} {f f' : α → Except ε β} {g : β → γ} {xs : List α}
    (h : ∀ x ∈ xs, (f x).map g = (f' x).map g) :
    (xs.mapM f).map (List.map g) = (xs.mapM f').map (List.map g) := by
  induction xs with
  | nil => rfl
  | cons x xs ih =>
      have hhead := h x List.mem_cons_self
      have hrest := ih fun y hy => h y (List.mem_cons_of_mem x hy)
      rw [List.mapM_cons, List.mapM_cons]
      revert hhead hrest
      -- the head raises on one side only if it does on the other
      rcases f x with e | b
      · rcases f' x with e' | b'
        · intro hhead _
          rw [Except.error.inj hhead]
          rfl
        · intro hhead
          cases hhead
      · rcases f' x with e' | b'
        · intro hhead
          cases hhead
        · intro hhead
          have hb : g b = g b' := Except.ok.inj hhead
          rw [Lib.ok_bind, Lib.ok_bind]
          -- and so does the tail
          rcases xs.mapM f with e | bs
          · rcases xs.mapM f' with e' | bs'
            · intro hrest
              rw [Except.error.inj hrest]
              rfl
            · intro hrest
              cases hrest
          · rcases xs.mapM f' with e' | bs'
            · intro hrest
              cases hrest
            · intro hrest
              have hbs : bs.map g = bs'.map g := Except.ok.inj hrest
              show Except.ok (g b :: bs.map g) = Except.ok (g b' :: bs'.map g)
              rw [hb, hbs]

/-- Engines that decide the tests alike give them the same verdicts. -/
theorem runTests_verdicts {engine engine' : KeyNetraEngine} {tests : List PolicyTestCase}
    (h : ∀ test ∈ tests, engine'.decides test.authorizationInput =
      engine.decides test.authorizationInput) :
    (runTests engine' tests).map (List.map PolicyTestResult.verdict) =
      (runTests engine tests).map (List.map PolicyTestResult.verdict) := by
  have hresult : ∀ (engine : KeyNetraEngine) (test : PolicyTestCase),
      (do
        let decision ← engine.decide test.authorizationInput
        Except.ok (test.result decision)).map PolicyTestResult.verdict =
        (engine.decides test.authorizationInput).map fun actual =>
          (test.name, actual, decide (actual = test.expect)) := by
    intro engine test
    unfold KeyNetraEngine.decides
    cases engine.decide test.authorizationInput <;> rfl
  apply mapM_map_alike
  intro test htest
  rw [hresult, hresult, h test htest]

variable {yaml : YamlReader} {dump : Dict → String} {document : String} {suite : PolicyTestSuite}
  {policies : List PolicyDefinition}

/-- A suite with distinct ids, deployed for a tenant that has none of them and no policy for an
action of its tests: the tenant's engine decides each test as the run of the suite said, and raises
where the run raised. -/
theorem suite_foretells (hparse : parsePolicyTestSuite yaml dump document = .ok suite)
    (hread : suite.policies.mapM PolicyDefinition.fromDict = .ok policies)
    (hkeys : ((policies.map PolicyDefinition.change).map PolicyChange.policyKey).Nodup)
    (hnew : ∀ policy ∈ policies, s.findPolicy tenantId policy.change.policyKey = none)
    (hother : ∀ test ∈ suite.tests, ∀ policy ∈ s.definitions tenantId,
      policy.action ≠ test.authorizationInput.action) :
    ∃ s' engine, s.deploy tenantId (policies.map PolicyDefinition.change) = .ok s' ∧
      KeyNetraEngine.new ((s'.listCurrentPolicies tenantId).map fun record =>
        .definition record.definition) = .ok engine ∧
      (validatePolicyTestSuite yaml dump document).map (List.map PolicyTestResult.verdict) =
        (runTests engine suite.tests).map (List.map PolicyTestResult.verdict) := by
  -- the rows that are written are those of the suite: fresh keys, in state `active`
  have hnew' : ∀ change ∈ policies.map PolicyDefinition.change,
      s.findPolicy tenantId change.policyKey = none := by
    intro change hchange
    obtain ⟨policy, hpolicy, rfl⟩ := List.mem_map.mp hchange
    exact hnew policy hpolicy
  have hactive : ∀ change ∈ policies.map PolicyDefinition.change, change.state = "active" := by
    intro change hchange
    obtain ⟨policy, -, rfl⟩ := List.mem_map.mp hchange
    rfl
  obtain ⟨s', hdeploy, hlisted⟩ := deploy_lists hkeys hnew' hactive
  have hparsed : (suite.policies.map PolicySource.raw).mapM PolicySource.parse = .ok policies := by
    rw [List.mapM_map]
    exact hread
  refine ⟨s', listEngine (s'.definitions tenantId), hdeploy, ?_, ?_⟩
  · rw [new_of_rows, engineOfRows_eq]
    rfl
  · unfold validatePolicyTestSuite runPolicyTestSuite
    rw [hparse, Lib.ok_bind, new_ok_iff.mpr ⟨policies, hparsed, rfl⟩, Lib.ok_bind]
    -- test by test, as the listed policies decide its action as those of the suite
    apply runTests_verdicts
    intro test htest
    rw [hlisted, decides_deployed (hother test htest)]

end Suites

/-! ## A suite of two policies -/

section Concrete

attribute [local instance] plainRuntime

/-- An allow for admins, before a deny for everyone. -/
def suiteDocument : Value :=
  .dict [("policies", .list [
      .dict [("action", .str "read"), ("effect", .str "allow"), ("priority", .int 10),
        ("policy_id", .str "read-admin"), ("conditions", .dict [("role", .str "admin")])],
      .dict [("action", .str "read"), ("effect", .str "deny")]]),
    ("tests", .list [
      .dict [("name", .str "an admin reads"), ("expect", .str "allow"),
        ("input", .dict [("user", .dict [("role", .str "admin")]), ("action", .str "read")])],
      .dict [("name", .str "a guest does not"), ("expect", .str "deny"),
        ("input", .dict [("user", .dict [("role", .str "guest")]), ("action", .str "read")])]])]

/-- The text of the document. -/
def suiteText : String :=
  "policies:\n- action: read\n  effect: allow\n  priority: 10\n  policy_id: read-admin\n" ++
  "  conditions:\n    role: admin\n- action: read\n  effect: deny\n" ++
  "tests:\n- name: an admin reads\n  expect: allow\n  input:\n    user:\n      role: admin\n" ++
  "    action: read\n- name: a guest does not\n  expect: deny\n  input:\n    user:\n" ++
  "      role: guest\n    action: read\n"

/-- What `yaml.safe_load` makes of it. -/
def suiteReader : YamlReader := fun text =>
  if text = suiteText then .ok suiteDocument else .error (.valueError "another text")

/-- The two policies as the engine reads them. -/
def suitePolicies : List PolicyDefinition :=
  [{ action := "read", effect := .allow, priority := 10, conditions := [("role", .str "admin")]
     policyId := some "read-admin" },
    { action := "read", effect := .deny, priority := 100, policyId := some "policy-2" }]

/-- The parsed suite. -/
def readSuite : PolicyTestSuite where
  policies := suitePolicies.map PolicyDefinition.toDict
  tests :=
    [⟨"an admin reads", { user := [("role", .str "admin")], resource := [], action := "read" },
        .allow⟩,
      ⟨"a guest does not", { user := [("role", .str "guest")], resource := [], action := "read" },
        .deny⟩]

/-- Deployed for a tenant without policies, the suite decides as it was tested. -/
theorem read_suite_foretold :
    ∃ s' engine, PolicyStore.empty.deploy 1 (suitePolicies.map PolicyDefinition.change) = .ok s' ∧
      KeyNetraEngine.new ((s'.listCurrentPolicies 1).map fun record =>
        .definition record.definition) = .ok engine ∧
      (validatePolicyTestSuite suiteReader (fun _ => suiteText) suiteText).map
          (List.map PolicyTestResult.verdict) =
        (runTests engine readSuite.tests).map (List.map PolicyTestResult.verdict) := by
  have hyaml : suiteReader suiteText = .ok suiteDocument := if_pos rfl
  have hparse : parsePolicyTestSuite suiteReader (fun _ => suiteText) suiteText = .ok readSuite := by
    unfold parsePolicyTestSuite
    rw [hyaml]
    rfl
  have hread : readSuite.policies.mapM PolicyDefinition.fromDict = .ok suitePolicies := rfl
  refine suite_foretells hparse hread (by decide) ?_ ?_
  · intro policy _
    rfl
  · intro test _ policy hpolicy
    cases hpolicy

end Concrete

end KeyNetra
