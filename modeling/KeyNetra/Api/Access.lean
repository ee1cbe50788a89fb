import KeyNetra.Config.AdminAuth
import KeyNetra.Services.Isolation

/-!
# KeyNetra.Api.Access — the access routes

`/check-access`, `/simulate` and `/check-access-batch` resolve the tenant a request addresses,
ask the service, and answer an `AttributeValidationError` with status 422.

* `checkAccess`, `simulate`, `checkAccessBatch` — the routes;
* `invalid_decided` — `authorize` validates inside the block whose exceptions it turns into a
  fallback: invalid attributes are decided by the fallback, and never answered 422, where
  `authorize_batch` raises;
* `StaysInside` — a principal's tenant is the one that is evaluated, and no other tenant's rows
  are read; `stays_inside_iff` — so it is exactly when no header or state names another tenant.
-/

namespace KeyNetra

section Access

variable [PyRuntime]

/-! ## Payloads and responses -/

structure AccessRequest where
  user : Dict := []
  action : String
  resource : Dict := []
  context : Dict := []
  consistency : String := "eventual"
  revision : Option Int := none

structure BatchAccessRequest where
  user : Dict := []
  items : List BatchItem
  consistency : String := "eventual"
  revision : Option Int := none

structure AccessDecisionResponse where
  allowed : Bool
  decision : Effect
  matchedPolicies : List String
  reason : Option String
  policyId : Option String
  explainTrace : List Dict
  revision : Option Int

structure SimulationResponse where
  decision : Effect
  matchedPolicies : List String
  reason : Option String
  policyId : Option String
  explainTrace : List Dict
  failedConditions : List String
  revision : Option Int

structure BatchAccessResult where
  action : String
  allowed : Bool
  revision : Option Int

structure BatchAccessResponse where
  results : List BatchAccessResult
  revision : Option Int

/-- The service's arguments for a payload. -/
def AccessRequest.authorize (payload : AccessRequest) (tenantKey policySet : String) :
    AuthorizeRequest where
  tenantKey := tenantKey
  user := payload.user
  action := payload.action
  resource := payload.resource
  context := payload.context
  consistency := payload.consistency
  revision := payload.revision
  policySet := policySet

/-- The arguments of `simulate`, which leaves the consistency, the revision and the policy set
at their defaults. -/
def AccessRequest.simulated (payload : AccessRequest) (tenantKey : String) : AuthorizeRequest where
  tenantKey := tenantKey
  user := payload.user
  action := payload.action
  resource := payload.resource
  context := payload.context

def BatchAccessRequest.batch (payload : BatchAccessRequest) (tenantKey policySet : String) :
    BatchRequest where
  tenantKey := tenantKey
  user := payload.user
  items := payload.items
  consistency := payload.consistency
  revision := payload.revision
  policySet := policySet

def AuthorizationResult.response (result : AuthorizationResult) : AccessDecisionResponse where
  allowed := result.decision.allowed
  decision := result.decision.decision
  matchedPolicies := result.decision.matchedPolicies
  reason := result.decision.reason
  policyId := result.decision.policyId
  explainTrace := result.decision.explainTrace.map ExplainTraceStep.toDict
  revision := some result.revision

def AuthorizationDecision.simulationResponse (decision : AuthorizationDecision) (revision : Int) :
    SimulationResponse where
  decision := decision.decision
  matchedPolicies := decision.matchedPolicies
  reason := decision.reason
  policyId := decision.policyId
  explainTrace := decision.explainTrace.map ExplainTraceStep.toDict
  failedConditions := decision.failedConditions
  revision := some revision

def BatchAccessRequest.response (payload : BatchAccessRequest) (results : List AuthorizationResult) :
    BatchAccessResponse where
  results := (payload.items.zip results).map fun (item, result) =>
    ⟨item.action, result.decision.allowed, some result.revision⟩
  revision := results.head?.map AuthorizationResult.revision

/-! ## The routes -/

/-- `_resolve_tenant_key`: the cascade of `_resolve_request_tenant_key`. -/
def resolveTenantKey (request : ManagementRequest) (principal : Dict) (tenancy : TenancySettings) :
    Except ApiError String :=
  resolveRequestTenantKey request principal tenancy

/-- The policy sets the routes accept. -/
def routePolicySet (policySet : String) : Except ApiError String :=
  if pyLower (pyStrip policySet) ∈ ["active", "draft", "archived"] then
    .ok (pyLower (pyStrip policySet))
  else .error ⟨422, "VALIDATION_ERROR", "policy_set must be one of active, draft, archived", []⟩

/-- The `except` clauses of the routes. -/
def serviceError : PyError → AccessError
  | .attributeValidationError message => .api ⟨422, "VALIDATION_ERROR", message, []⟩
  | .integrityError => .api ⟨500, "DATABASE_ERROR", "db error", []⟩
  | e => .raised e

/-- A call of `authorize`, as its callers see it: both of its `try` blocks catch every
exception, and what follows them raises none. -/
def callAuthorize (settings : Settings) (w : World) (request : AuthorizeRequest) :
    Except PyError AuthorizationResult × World :=
  let (result, w) := authorize settings w request
  (.ok result, w)

/-- `AuthorizationService.get_revision`. -/
def getRevision (w : World) (tenantKey : String) : Int × World :=
  ((w.tenant tenantKey).revision, w.ensureTenant tenantKey)

/-- `check_access`. -/
def checkAccess (settings : Settings) (tenancy : TenancySettings) (w : World) (principal : Dict)
    (request : ManagementRequest) (payload : AccessRequest) (policySet : String := "active") :
    Except AccessError AccessDecisionResponse × World :=
  match resolveTenantKey request principal tenancy with
  | .error e => (.error (.api e), w)
  | .ok tenantKey =>
      match routePolicySet policySet with
      | .error e => (.error (.api e), w)
      | .ok policySet =>
          match callAuthorize settings w (payload.authorize tenantKey policySet) with
          | (.error e, w) => (.error (serviceError e), w)
          | (.ok result, w) => (.ok result.response, w)

/-- `simulate`. -/
def simulate (settings : Settings) (tenancy : TenancySettings) (w : World) (principal : Dict)
    (request : ManagementRequest) (payload : AccessRequest) :
    Except AccessError SimulationResponse × World :=
  match resolveTenantKey request principal tenancy with
  | .error e => (.error (.api e), w)
  | .ok tenantKey =>
      match callAuthorize settings w (payload.simulated tenantKey) with
      | (.error e, w) => (.error (serviceError e), w)
      | (.ok result, w) =>
          let (revision, w) := getRevision w tenantKey
          (.ok (result.decision.simulationResponse revision), w)

/-- `check_access_batch`. -/
def checkAccessBatch (settings : Settings) (tenancy : TenancySettings) (w : World)
    (principal : Dict) (request : ManagementRequest) (payload : BatchAccessRequest)
    (policySet : String := "active") : Except AccessError BatchAccessResponse × World :=
  match resolveTenantKey request principal tenancy with
  | .error e => (.error (.api e), w)
  | .ok tenantKey =>
      match routePolicySet policySet with
      | .error e => (.error (.api e), w)
      | .ok policySet =>
          match authorizeBatch settings w (payload.batch tenantKey policySet) with
          | (.error e, w) => (.error (serviceError e), w)
          | (.ok results, w) => (.ok (payload.response results), w)

variable {settings : Settings} {tenancy : TenancySettings} {w w' : World} {principal : Dict}
  {request : ManagementRequest} {payload : AccessRequest} {tenantKey policySet : String}

/-! ## Invalid attributes -/

/-- Invalid attributes end in the fallback, before anything is read. -/
theorem authorize_invalid (settings : Settings) (w : World) {request : AuthorizeRequest}
    {e : PyError} (h : request.validate = .error e) :
    authorize settings w request = (⟨fallbackDecision settings request.fallbackInput
      s!"authorization input unavailable: {e.message}", false, 1⟩, w) := by
  have hinput : buildInput w request = (.error e, w) := by
    unfold buildInput
    rw [h]
  unfold authorize
  rw [hinput]

/-- `authorize` rejects invalid attributes: it raises. -/
def Rejects (settings : Settings) (w : World) (request : AuthorizeRequest) : Prop :=
  ∃ message, (callAuthorize settings w request).1 = .error (.attributeValidationError message)

/-- Invalid attributes are decided: `authorize` raises for none of them, and the two routes
that call it answer with the fallback's decision, while `authorize_batch` raises for an invalid
user. -/
theorem invalid_decided (settings : Settings) (w : World) {request : AuthorizeRequest}
    {e : PyError} (h : request.validate = .error e) :
    ¬ Rejects settings w request ∧
      (∀ result, (callAuthorize settings w request).1 = .ok result →
        (result.decision.allowed = true ↔ settings.FallbackAllows request.fallbackInput)) ∧
      (∀ tenancy principal header (payload : AccessRequest) policySet set,
        resolveTenantKey header principal tenancy = .ok request.tenantKey →
          routePolicySet policySet = .ok set → payload.authorize request.tenantKey set = request →
            ∃ response,
              (checkAccess settings tenancy w principal header payload policySet).1 = .ok response ∧
                (response.allowed = true ↔ settings.FallbackAllows request.fallbackInput)) ∧
      (∀ tenancy principal header (payload : AccessRequest),
        resolveTenantKey header principal tenancy = .ok request.tenantKey →
          payload.simulated request.tenantKey = request →
            ∃ response, (simulate settings tenancy w principal header payload).1 = .ok response) ∧
      ∀ batch : BatchRequest, batch.user = request.user →
        validateUser request.user = .error e → (authorizeBatch settings w batch).1 = .error e := by
  -- the exception is caught around the input, and the fallback decides without one
  obtain ⟨decision, hallowed, hcall⟩ : ∃ decision : AuthorizationDecision,
      (decision.allowed = true ↔ settings.FallbackAllows request.fallbackInput) ∧
        callAuthorize settings w request = (.ok ⟨decision, false, 1⟩, w) := by
    refine ⟨_, fallbackDecision_allowed settings request.fallbackInput
      s!"authorization input unavailable: {e.message}", ?_⟩
    unfold callAuthorize
    rw [authorize_invalid settings w h]
  refine ⟨?_, ?_, ?_, ?_, ?_⟩
  · -- a direct call is not rejected
    rintro ⟨message, hraised⟩
    rw [hcall] at hraised
    cases hraised
  · intro result hresult
    rw [hcall] at hresult
    cases hresult
    exact hallowed
  · -- the route answers with the fallback
    intro tenancy principal header payload policySet set htenant hset hrequest
    refine ⟨AuthorizationResult.response ⟨decision, false, 1⟩, ?_, hallowed⟩
    unfold checkAccess
    rw [htenant, hset]
    dsimp only
    rw [hrequest, hcall]
  · intro tenancy principal header payload htenant hrequest
    refine ⟨decision.simulationResponse (getRevision w request.tenantKey).1, ?_⟩
    unfold simulate
    rw [htenant]
    dsimp only
    rw [hrequest, hcall]
  · -- a batch checks the user before its `try`
    intro batch huser hinvalid
    unfold authorizeBatch
    rw [huser, hinvalid]

/-! ## The principal's tenant -/

/-- The principal's tenant is the one the routes evaluate, and two worlds that differ in rows of
other tenants only are answered alike. -/
structure StaysInside (tenancy : TenancySettings) (principal : Dict) (request : ManagementRequest)
    (tenantKey : String) : Prop where
  evaluated : ∀ resolved, resolveTenantKey request principal tenancy = .ok resolved →
    resolved = tenantKey
  checked : ∀ settings w w' payload policySet, OthersDiffer tenantKey w w' →
    (checkAccess settings tenancy w' principal request payload policySet).1 =
      (checkAccess settings tenancy w principal request payload policySet).1
  simulated : ∀ settings w w' payload, OthersDiffer tenantKey w w' →
    (simulate settings tenancy w' principal request payload).1 =
      (simulate settings tenancy w principal request payload).1
  batched : ∀ settings w w' payload policySet, OthersDiffer tenantKey w w' →
    (checkAccessBatch settings tenancy w' principal request payload policySet).1 =
      (checkAccessBatch settings tenancy w principal request payload policySet).1

/-- The tenant that the header names, or else the state of the request. -/
def ManagementRequest.named (request : ManagementRequest) : Option String :=
  normalizeTenantKey
    (match request.tenantHeader with
      | some text => if text = "" then request.requestedTenantKey else some text
      | none => request.requestedTenantKey)

/-- A tenant that the request names comes before the principal's. -/
theorem resolveTenantKey_of_principal (h : tenantFromPrincipal principal = some tenantKey) :
    resolveTenantKey request principal tenancy = .ok (request.named.getD tenantKey) := by
  have hcascade : resolveTenantKey request principal tenancy =
      match request.named with
      | some named => .ok named
      | none =>
          match tenantFromPrincipal principal with
          | some tenantKey => .ok tenantKey
          | none =>
              if tenancy.strictTenancy then .error tenantRequired
              else if tenancy.isDevelopment then .ok "default" else .error tenantRequired := rfl
  rw [hcascade, h]
  rcases request.named with _ | named
  · rfl
  · rfl

theorem callAuthorize_agrees (request : AuthorizeRequest)
    (h : OthersDiffer request.tenantKey w w') (settings : Settings) :
    Alike request.tenantKey (w.tenant request.tenantKey).id (callAuthorize settings w request)
      (callAuthorize settings w' request) := by
  have hanswer := authorize_agrees settings h.agrees
  exact ⟨congrArg Except.ok hanswer.1, hanswer.2⟩

/-- A route that evaluates the tenant reads no other tenant's rows. -/
theorem checkAccess_agrees (htenant : resolveTenantKey request principal tenancy = .ok tenantKey)
    (h : OthersDiffer tenantKey w w') :
    (checkAccess settings tenancy w' principal request payload policySet).1 =
      (checkAccess settings tenancy w principal request payload policySet).1 := by
  unfold checkAccess
  rw [htenant]
  dsimp only
  rcases routePolicySet policySet with e | set
  · rfl
  · have hcall := callAuthorize_agrees (payload.authorize tenantKey set) h settings
    dsimp only
    rcases hw : callAuthorize settings w (payload.authorize tenantKey set) with ⟨result, v⟩
    rcases hw' : callAuthorize settings w' (payload.authorize tenantKey set) with ⟨result', v'⟩
    rw [hw, hw'] at hcall
    rcases hcall with ⟨hsame, -⟩
    dsimp only at hsame
    rw [hsame]
    rcases result with e | result
    · rfl
    · rfl

theorem simulate_agrees (htenant : resolveTenantKey request principal tenancy = .ok tenantKey)
    (h : OthersDiffer tenantKey w w') :
    (simulate settings tenancy w' principal request payload).1 =
      (simulate settings tenancy w principal request payload).1 := by
  unfold simulate
  rw [htenant]
  dsimp only
  have hcall := callAuthorize_agrees (payload.simulated tenantKey) h settings
  rcases hw : callAuthorize settings w (payload.simulated tenantKey) with ⟨result, v⟩
  rcases hw' : callAuthorize settings w' (payload.simulated tenantKey) with ⟨result', v'⟩
  rw [hw, hw'] at hcall
  rcases hcall with ⟨hsame, hv⟩
  dsimp only at hsame hv
  rw [hsame]
  rcases result with e | result
  · rfl
  · -- the revision is that of the tenant's row, the same in both worlds
    have hrevision : (getRevision v' tenantKey).1 = (getRevision v tenantKey).1 :=
      congrArg TenantRecord.revision hv.tenant
    dsimp only
    rw [hrevision]

theorem checkAccessBatch_agrees {payload : BatchAccessRequest}
    (htenant : resolveTenantKey request principal tenancy = .ok tenantKey)
    (h : OthersDiffer tenantKey w w') :
    (checkAccessBatch settings tenancy w' principal request payload policySet).1 =
      (checkAccessBatch settings tenancy w principal request payload policySet).1 := by
  unfold checkAccessBatch
  rw [htenant]
  dsimp only
  rcases routePolicySet policySet with e | set
  · rfl
  · have hanswer := authorizeBatch_agrees settings
      (show Agrees (payload.batch tenantKey set).tenantKey
        (w.tenant (payload.batch tenantKey set).tenantKey).id w w' from h.agrees)
    dsimp only
    rcases hw : authorizeBatch settings w (payload.batch tenantKey set) with ⟨results, v⟩
    rcases hw' : authorizeBatch settings w' (payload.batch tenantKey set) with ⟨results', v'⟩
    rw [hw, hw'] at hanswer
    rcases hanswer with ⟨hsame, -⟩
    dsimp only at hsame
    rw [hsame]
    rcases results with e | results
    · rfl
    · rfl

/-- Decisions stay inside the principal's tenant exactly when the request names no other. -/
theorem stays_inside_iff (tenancy : TenancySettings) (request : ManagementRequest)
    (h : tenantFromPrincipal principal = some tenantKey) :
    StaysInside tenancy principal request tenantKey ↔
      request.named = none ∨ request.named = some tenantKey := by
  have hresolved : resolveTenantKey request principal tenancy = .ok (request.named.getD tenantKey) :=
    resolveTenantKey_of_principal h
  constructor
  · -- stays inside: so it resolves to the principal's tenant
    intro hinside
    have hsame := hinside.evaluated _ hresolved
    rcases hnamed : request.named with _ | named
    · exact Or.inl rfl
    · rw [hnamed] at hsame
      exact Or.inr (congrArg some hsame)
  · intro hnamed
    -- a name is taken over the tenant of the principal, so it has to be the same
    have htenant : resolveTenantKey request principal tenancy = .ok tenantKey := by
      rcases hnamed with hnamed | hnamed
      · rw [hresolved, hnamed]
        rfl
      · rw [hresolved, hnamed]
        rfl
    constructor
    · -- the decision is that tenant's, on all three routes
      intro resolved hok
      rw [htenant] at hok
      cases hok
      rfl
    · intro settings w w' payload policySet hothers
      exact checkAccess_agrees htenant hothers
    · intro settings w w' payload hothers
      exact simulate_agrees htenant hothers
    · intro settings w w' payload policySet hothers
      exact checkAccessBatch_agrees htenant hothers

end Access

/-! ## Concrete requests -/

section Concrete

attribute [local instance] plainRuntime

attribute [local semireducible] cacheKey

/-- Dictionaries in dictionaries. -/
def nested : Nat → Dict
  | 0 => []
  | n + 1 => [("a", .dict (nested n))]

/-- A user of seven levels, where six are accepted. -/
def tooDeep : AuthorizeRequest where
  tenantKey := "default"
  user := nested 6
  action := "read"
  resource := []

/-- No policies are evaluated, and what cannot be decided is allowed. -/
def openSettings : Settings := ⟨"fail_open", "static", .ok []⟩

theorem tooDeep_invalid :
    tooDeep.validate = .error (.attributeValidationError "user too deep") := by
  decide +kernel

/-- The user is not rejected, and reads where the service fails open. -/
theorem tooDeep_decided :
    ¬ Rejects openSettings blankWorld tooDeep ∧
      ∀ result, (callAuthorize openSettings blankWorld tooDeep).1 = .ok result →
        (result.decision.allowed = true ↔ openSettings.FallbackAllows tooDeep.fallbackInput) := by
  have hdecided := invalid_decided openSettings blankWorld tooDeep_invalid
  exact ⟨hdecided.1, hdecided.2.1⟩

/-- An invalid user is allowed to read. -/
theorem tooDeep_allowed :
    ¬ ((∀ settings w (request : AuthorizeRequest) e, request.validate = .error e →
        Rejects settings w request) ∨
      ∀ settings w (request : AuthorizeRequest) e, request.validate = .error e →
        (authorize settings w request).1.decision.allowed = false) := by
  rintro (hrejects | hdenied)
  · rcases hrejects openSettings blankWorld tooDeep _ tooDeep_invalid with ⟨message, hraised⟩
    cases hraised
  · have hdeny := hdenied openSettings blankWorld tooDeep _ tooDeep_invalid
    have hallow : (authorize openSettings blankWorld tooDeep).1.decision.allowed = true := by
      decide +kernel
    rw [hallow] at hdeny
    cases hdeny

/-- A key of the tenant `acme`. -/
def acmeKey : Dict :=
  [("type", .str "api_key"),
    ("scopes", .dict [("tenant", .str "acme"), ("role", .str "viewer")])]

/-- A request that names the tenant `default`. -/
def defaultHeader : ManagementRequest where
  tenantHeader := some "default"

def readPayload : AccessRequest where
  user := [("id", .int 7)]
  action := "read"
  resource := [("type", .str "doc"), ("id", .str "1")]
  consistency := "fully_consistent"

/-- A request that names no tenant stays in that of its key. -/
theorem acme_stays_inside :
    StaysInside productionTenancy acmeKey {} "acme" ↔
      ManagementRequest.named {} = none ∨ ManagementRequest.named {} = some "acme" :=
  stays_inside_iff productionTenancy {} (by decide +kernel)

/-- The world in which `default` lets anyone read, and the same world without its policies. -/
def readersWorld : World := policyWorld [readersPolicy]

def emptiedWorld : World :=
  { readersWorld with db := { readersWorld.db with policies := .empty } }

theorem policies_of_default : OthersDiffer "acme" emptiedWorld readersWorld := by
  have hnone : (readersWorld.db.policies.policies.filter fun p =>
        p.tenantId = (emptiedWorld.tenant "acme").id).length = 0 ∧
      (readersWorld.db.policies.versions.filter fun v =>
        v.tenantId = (emptiedWorld.tenant "acme").id).length = 0 := by
    decide +kernel
  exact
    { tenants := rfl
      users := rfl
      backend := rfl
      graph := rfl
      acl := rfl
      relationships := rfl
      models := rfl
      policies := List.length_eq_zero_iff.mp hnone.1
      versions := List.length_eq_zero_iff.mp hnone.2 }

/-- A key of `acme` that names `default` is answered from the policies of `default`. -/
theorem acme_reads_default :
    tenantFromPrincipal acmeKey = some "acme" ∧
      ¬ StaysInside productionTenancy acmeKey defaultHeader "acme" ∧
      ∃ settings w w' payload, OthersDiffer "acme" w w' ∧
        (checkAccess settings productionTenancy w acmeKey defaultHeader payload).1.map
          AccessDecisionResponse.allowed = .ok false ∧
        (checkAccess settings productionTenancy w' acmeKey defaultHeader payload).1.map
          AccessDecisionResponse.allowed = .ok true := by
  have hfacts : tenantFromPrincipal acmeKey = some "acme" ∧
      (checkAccess plainSettings productionTenancy emptiedWorld acmeKey defaultHeader
        readPayload).1.map AccessDecisionResponse.allowed = .ok false ∧
      (checkAccess plainSettings productionTenancy readersWorld acmeKey defaultHeader
        readPayload).1.map AccessDecisionResponse.allowed = .ok true := by
    decide +kernel
  refine ⟨hfacts.1, ?_, plainSettings, emptiedWorld, readersWorld, readPayload,
    policies_of_default, hfacts.2⟩
  intro hinside
  have hsame := hinside.checked plainSettings emptiedWorld readersWorld readPayload "active"
    policies_of_default
  have hallowed := hfacts.2.2
  rw [hsame, hfacts.2.1] at hallowed
  cases hallowed

end Concrete

end KeyNetra
