import KeyNetra.Engine.Withdrawal
import KeyNetra.Repo.CurrentRows
import KeyNetra.Services.Truthful

/-!
# KeyNetra.Services.Revocation — taking an allow policy back

Deleting a policy and archiving it both take its row out of the active ones. Requests
that were denied stay denied while other rows remain, unless the denial was the fallback
for an exception and the policy's own conditions raise one. Without active rows the
engine is built of the default policies of the settings, whatever these allow.

* `PolicyWrite.Removes` — the two ways to take a policy back;
* `World.RaisesIn` — an evaluation that raises, with conditions of the policy that do;
* `Settings.defaultDecision` — what the default policies say of an input;
* `revoked_stays_denied` — the law, with the case in which the defaults decide;
* `revocation_grants` — a deletion that brings the defaults out, and one that takes an
  exception away.
-/

namespace KeyNetra

section Revocation

variable [PyRuntime]

/-! ## Taking a policy back -/

/-- The write deletes the policy, or gives it an archived version. -/
def PolicyWrite.Removes (policyKey : String) : PolicyWrite → Prop
  | .delete key => key = policyKey
  | .create change => change.policyKey = policyKey ∧ change.state = "archived"
  | .rollback _ _ => False

/-- The active rows of the request's tenant. -/
def World.activeRows (w : World) (request : AuthorizeRequest) : List (PolicyVersion × Policy) :=
  w.db.policies.currentPolicyRows (w.tenant request.tenantKey).id "active"

/-- The evaluation of a request raises, and so do the conditions of a row of the policy. -/
def World.RaisesIn (settings : Settings) (w : World) (request : AuthorizeRequest)
    (policyKey : String) : Prop :=
  ∃ input e, w.storeInput request = .ok input ∧
    w.storeEvaluation settings request input = .error e ∧
    ∃ row ∈ w.activeRows request, row.2.policyKey = policyKey ∧ row.1.action = request.action ∧
      ∃ e', evaluateConditions (rowDefinition row).checked input = .error e'

/-- The decision of the default policies on an input. -/
def Settings.defaultDecision (settings : Settings) (input : AuthorizationInput) :
    AuthorizationDecision :=
  match (do (← settings.engine).decide input) with
  | .ok decision => decision
  | .error _ => fallbackDecision settings input "authorization backend unavailable"

variable {settings : Settings} {request : AuthorizeRequest} {w : World} {write : PolicyWrite}
  {policies : PolicyStore} {policyKey : String}

omit [PyRuntime] in
theorem normalizedPolicySet_active : normalizedPolicySet "active" = "active" := by decide +kernel

omit [PyRuntime] in
/-- The write takes the rows of the policy out of the active ones. -/
theorem activeRows_removed {s : PolicyStore} {tenantId : Int} (hremoves : write.Removes policyKey)
    (hcommit : write.commit s tenantId = .ok policies) :
    policies.currentPolicyRows tenantId "active" =
      (s.currentPolicyRows tenantId "active").filter fun row => row.2.policyKey ≠ policyKey := by
  cases write with
  | delete key =>
      have hkey : key = policyKey := hremoves
      have hstore : s.deletePolicy tenantId key = policies := Except.ok.inj hcommit
      rw [← hstore, hkey]
      exact currentRows_delete s tenantId policyKey "active"
  | create change =>
      have hchange : change.policyKey = policyKey ∧ change.state = "archived" := hremoves
      rcases Lib.bind_eq_ok.mp hcommit with ⟨⟨result, s'⟩, hcreate, hstore⟩
      have hsame : s' = policies := Except.ok.inj hstore
      have hstate : change.state ≠ normalizedPolicySet "active" := by
        rw [normalizedPolicySet_active, hchange.2]
        decide
      rw [← hsame, ← hchange.1]
      exact currentRows_create hcreate hstate
  | rollback key version => exact absurd hremoves id

/-- An engine of listed rows is one of definitions. -/
theorem engineOf_rows (rows : List (PolicyVersion × Policy)) :
    engineOf (rows.map policyRecord) = .ok (engineOfRows rowDefinition rows) := by
  unfold engineOf
  rw [List.map_map]
  exact new_of_rows rowDefinition rows

omit [PyRuntime] in
/-- The rows of a request for the active set. -/
theorem requestRows_active (hactive : policySetKey request.policySet = "active")
    (policies : PolicyStore) :
    w.requestRows policies request =
      (policies.currentPolicyRows (w.tenant request.tenantKey).id "active").map policyRecord := by
  unfold World.requestRows PolicyStore.listCurrentPolicies
  rw [hactive, policySetKey_active]

/-- The input of a request has its action. -/
theorem storeInput_action {input : AuthorizationInput} (h : w.storeInput request = .ok input) :
    input.action = request.action := by
  rcases Lib.bind_eq_ok.mp h with ⟨⟨⟩, -, hrest⟩
  rcases Lib.bind_eq_ok.mp hrest with ⟨graph, -, hinput⟩
  rw [← Except.ok.inj hinput]
  rfl

/-- The evaluation of a request over the active rows. -/
theorem storeEvaluation_active (hactive : policySetKey request.policySet = "active")
    (hrows : w.activeRows request ≠ []) (input : AuthorizationInput) :
    w.storeEvaluation settings request input =
      (engineOfRows rowDefinition (w.activeRows request)).decide input := by
  have hlisted : w.storePolicies request.tenantKey (policySetKey request.policySet) =
      (w.activeRows request).map policyRecord := by
    unfold World.storePolicies PolicyStore.listCurrentPolicies World.activeRows
    rw [hactive, policySetKey_active]
  unfold World.storeEvaluation currentEngine
  rw [hlisted, if_neg (by simpa using hrows), engineOf_rows, Lib.ok_bind]

/-- What is left of the active policies when the ones of the key are taken out. -/
theorem engine_left (settings : Settings) (hremoves : write.Removes policyKey)
    (hcommit : write.commit w.db.policies (w.tenant request.tenantKey).id = .ok policies)
    (hremains : policies.listCurrentPolicies (w.tenant request.tenantKey).id "active" ≠ []) :
    currentEngine settings (policies.listCurrentPolicies (w.tenant request.tenantKey).id "active") =
        .ok (engineOfRows rowDefinition
          ((w.activeRows request).filter fun row => row.2.policyKey ≠ policyKey)) ∧
      w.activeRows request ≠ [] := by
  have hlisted : policies.listCurrentPolicies (w.tenant request.tenantKey).id "active" =
      ((w.activeRows request).filter fun row => row.2.policyKey ≠ policyKey).map policyRecord :=
    congrArg (List.map policyRecord) (activeRows_removed hremoves hcommit)
  constructor
  · unfold currentEngine
    rw [if_neg (by simpa using hremains), hlisted]
    exact engineOf_rows _
  · intro hnone
    apply hremains
    rw [hlisted, hnone]
    rfl

/-- What denies, denies without an allow policy. -/
theorem denied_left (hactive : policySetKey request.policySet = "active")
    (hrows : w.activeRows request ≠ [])
    (hallow : ∀ row ∈ w.activeRows request, row.2.policyKey = policyKey → row.1.effect = "allow")
    {input : AuthorizationInput} {decision : AuthorizationDecision}
    (heval : w.storeEvaluation settings request input = .ok decision)
    (hdenied : decision.allowed = false) :
    ∃ decision', (engineOfRows rowDefinition ((w.activeRows request).filter
        fun row => row.2.policyKey ≠ policyKey)).decide input = .ok decision' ∧
      decision'.allowed = false := by
  rw [storeEvaluation_active hactive hrows] at heval
  have heffect : ∀ row ∈ w.activeRows request,
      decide (row.2.policyKey ≠ policyKey) = false → (rowDefinition row).effect = .allow := by
    intro row hrow hdropped
    have hkey : row.2.policyKey = policyKey := by simpa using hdropped
    show Effect.ofText row.1.effect = .allow
    rw [hallow row hrow hkey]
    rfl
  exact decide_withdraw heffect heval hdenied

/-- An exception that is not the policy's is raised without the policy. -/
theorem raised_left (hactive : policySetKey request.policySet = "active")
    (hrows : w.activeRows request ≠ []) (hraises : ¬ w.RaisesIn settings request policyKey)
    {input : AuthorizationInput} {e : PyError} (hinput : w.storeInput request = .ok input)
    (heval : w.storeEvaluation settings request input = .error e) :
    (engineOfRows rowDefinition ((w.activeRows request).filter
      fun row => row.2.policyKey ≠ policyKey)).decide input = .error e := by
  have hquiet : Quiet input (fun row => (rowDefinition row).node)
      (fun row => decide (row.2.policyKey ≠ policyKey)) (w.activeRows request) := by
    intro row hrow hdropped haction
    have hkey : row.2.policyKey = policyKey := by simpa using hdropped
    have hsame : row.1.action = request.action := Eq.trans haction (storeInput_action hinput)
    cases hresult : evaluateConditions (rowDefinition row).checked input with
    | ok result => exact ⟨result, (node_evaluate _ _).trans hresult⟩
    | error e' =>
        exact absurd ⟨input, e, hinput, heval, row, hrow, hkey, hsame, e', hresult⟩ hraises
  rw [storeEvaluation_active hactive hrows] at heval
  exact decide_withdraw_error hquiet heval

/-- Deleting or archiving an allow policy, between two runs of one request over truthful
caches: while an active policy remains, a denial stays one, unless it was the fallback for
an exception and conditions of the policy raise one; when none remains, the default
policies of the settings decide. -/
theorem revoked_stays_denied (h : Truthful settings request w)
    (hactive : policySetKey request.policySet = "active") (hremoves : write.Removes policyKey)
    (hcommit : write.commit w.db.policies (w.tenant request.tenantKey).id = .ok policies)
    (hallow : ∀ row ∈ w.activeRows request, row.2.policyKey = policyKey → row.1.effect = "allow")
    (hdenied : (authorize settings w request).1.decision.allowed = false) :
    let left := policies.listCurrentPolicies (w.tenant request.tenantKey).id "active"
    let after := (authorize settings (write.run request.tenantKey (authorize settings w request).2)
      request).1.decision
    (left ≠ [] → ¬ w.RaisesIn settings request policyKey → after.allowed = false) ∧
      (left = [] → ∀ input, w.storeInput request = .ok input →
        after = settings.defaultDecision input) := by
  intro left after
  have haround := authorize_around_write h hcommit
  have hbefore := haround.1
  have hafter : after = w.decisionOver settings request (w.requestRows policies request) := haround.2
  have hleft : w.requestRows policies request = left := requestRows_active hactive policies
  rw [hleft] at hafter
  constructor
  · intro hremains hraises
    rcases engine_left settings hremoves hcommit hremains with ⟨hengine, hrows⟩
    rw [hbefore, ← storeDecision_eq] at hdenied
    rw [hafter]
    unfold World.storeDecision World.decideStored at hdenied
    unfold World.decisionOver
    cases hinput : w.storeInput request with
    | error e =>
        -- the tables let no input be built, now as before
        rw [hinput] at hdenied
        exact hdenied
    | ok input =>
        rw [hinput] at hdenied
        dsimp only at hdenied ⊢
        rw [hengine, Lib.ok_bind]
        cases heval : w.storeEvaluation settings request input with
        | ok decision =>
            rw [heval] at hdenied
            rcases denied_left hactive hrows hallow heval hdenied with ⟨decision', hdecide, hdenied'⟩
            rw [hdecide]
            exact hdenied'
        | error e =>
            rw [heval] at hdenied
            rw [raised_left hactive hrows hraises hinput heval]
            exact hdenied
  · intro hnone input hinput
    rw [hafter, hnone]
    unfold World.decisionOver Settings.defaultDecision
    rw [hinput]
    rfl

/-- No way to take an allow policy back makes the request allowed. -/
def NeverGrants (settings : Settings) (w : World) (request : AuthorizeRequest) : Prop :=
  ∀ (write : PolicyWrite) (policyKey : String) (policies : PolicyStore),
    write.Removes policyKey →
    write.commit w.db.policies (w.tenant request.tenantKey).id = .ok policies →
    (∀ row ∈ w.activeRows request, row.2.policyKey = policyKey → row.1.effect = "allow") →
    (authorize settings w request).1.decision.allowed = false →
    (authorize settings (write.run request.tenantKey (authorize settings w request).2)
      request).1.decision.allowed = false

end Revocation

section Concrete

attribute [local instance] plainRuntime

attribute [local semireducible] cacheKey

/-- Anyone may write. -/
def writersPolicy : PolicyChange where
  policyKey := "writers"
  action := "write"
  effect := "allow"
  priority := 10
  conditions := []

/-- Nobody may read. -/
def readNone : PolicyChange where
  policyKey := "read-none"
  action := "read"
  effect := "deny"
  priority := 20
  conditions := []

/-- Anyone of the document's country may read; the field is named by a list, which is no
key of a dictionary. -/
def neighboursPolicy : PolicyChange where
  policyKey := "neighbours"
  action := "read"
  effect := "allow"
  priority := 5
  conditions := [("geo_match", .dict [("user_field", .list [.str "country"])])]

/-- A tenant with these policies, and empty caches. -/
def policyWorld (changes : List PolicyChange) : World :=
  (Lib.run (fun w change => (PolicyWrite.create change).run "default" w)
    (blankWorld.rested "default") changes).rested "default"

/-- Fail closed, and anyone may read by default. -/
def readersByDefault : Settings :=
  ⟨"fail_closed", "static", .ok [[("action", .str "read"), ("effect", .str "allow")]]⟩

theorem truthful_policyWorld (settings : Settings) (changes : List PolicyChange) :
    Truthful settings readDoc (policyWorld changes) := truthful_rested settings readDoc _

/-- Anyone may write, and nobody may read. -/
def guardedWorld : World := policyWorld [writersPolicy, readNone]

/-- The deny that remains goes on denying. -/
theorem read_stays_denied :
    (authorize readersByDefault ((PolicyWrite.delete "writers").run readDoc.tenantKey
      (authorize readersByDefault guardedWorld readDoc).2) readDoc).1.decision.allowed = false := by
  have hfacts : (∀ row ∈ guardedWorld.activeRows readDoc, row.2.policyKey = "writers" →
        row.1.effect = "allow" ∧ row.1.action ≠ readDoc.action) ∧
      (authorize readersByDefault guardedWorld readDoc).1.decision.allowed = false ∧
      ((guardedWorld.db.policies.deletePolicy (guardedWorld.tenant readDoc.tenantKey).id
        "writers").listCurrentPolicies (guardedWorld.tenant readDoc.tenantKey).id
          "active").length = 1 := by
    decide +kernel
  have hstays := revoked_stays_denied
    (truthful_policyWorld readersByDefault [writersPolicy, readNone])
    policySetKey_active (show (PolicyWrite.delete "writers").Removes "writers" from rfl) rfl
    (fun row hrow hkey => (hfacts.1 row hrow hkey).1) hfacts.2.1
  apply hstays.1
  · intro hnone
    have hzero := congrArg List.length hnone
    exact absurd (hfacts.2.2.symm.trans hzero) (by decide)
  · rintro ⟨input, e, -, -, row, hrow, hkey, haction, -⟩
    exact (hfacts.1 row hrow hkey).2 haction

/-- Deleting the only policy lets the default policies grant a read; deleting the policy
that raises lets the next one grant it. -/
theorem revocation_grants :
    ¬ NeverGrants readersByDefault (policyWorld [writersPolicy]) readDoc ∧
      ¬ NeverGrants plainSettings (policyWorld [neighboursPolicy, readersPolicy]) readDoc := by
  have hdefaults : (∀ row ∈ (policyWorld [writersPolicy]).activeRows readDoc,
        row.2.policyKey = "writers" → row.1.effect = "allow") ∧
      (authorize readersByDefault (policyWorld [writersPolicy]) readDoc).1.decision.allowed =
        false ∧
      (authorize readersByDefault ((PolicyWrite.delete "writers").run readDoc.tenantKey
        (authorize readersByDefault (policyWorld [writersPolicy]) readDoc).2)
          readDoc).1.decision.allowed = true := by
    decide +kernel
  have hraises : (∀ row ∈ (policyWorld [neighboursPolicy, readersPolicy]).activeRows readDoc,
        row.2.policyKey = "neighbours" → row.1.effect = "allow") ∧
      (authorize plainSettings (policyWorld [neighboursPolicy, readersPolicy])
        readDoc).1.decision.allowed = false ∧
      (authorize plainSettings ((PolicyWrite.delete "neighbours").run readDoc.tenantKey
        (authorize plainSettings (policyWorld [neighboursPolicy, readersPolicy]) readDoc).2)
          readDoc).1.decision.allowed = true := by
    decide +kernel
  constructor
  · -- a policy is deleted, and the defaults allow
    intro hnever
    have hafter := hnever (.delete "writers") "writers" _ rfl rfl hdefaults.1 hdefaults.2.1
    rw [hdefaults.2.2] at hafter
    cases hafter
  · -- the policy that raised is gone, and the other allows
    intro hnever
    have hafter := hnever (.delete "neighbours") "neighbours" _ rfl rfl hraises.1 hraises.2.1
    rw [hraises.2.2] at hafter
    cases hafter

end Concrete

end KeyNetra
