import KeyNetra.Modeling.SchemaParser
import KeyNetra.Services.AccessIndexer

/-!
# KeyNetra.Services.Authorization — one authorization request

`AuthorizationService.authorize` validates the request, resolves the user, the
permission graph and the access index through their caches, asks the decision
cache, builds an engine from the current policies and decides. Whatever raises on
the way ends in the configured fallback decision.

* `World` — the database, the cache backend and the compiled models;
* `buildInput` / `buildEngine` / `fallbackDecision` — the parts;
* `authorize` — the service: a result and the world it leaves.

A request runs alone, with an indexer of its own, as `build_services` gives it.
-/

namespace KeyNetra

section Service

variable [PyRuntime]

/-! ## Attribute validation -/

/-- `_validate_dict`, with the number of levels still allowed. -/
def validateDict (name : String) (maxKeys : Nat) : Nat → Dict → Except PyError Unit
  | levels, obj =>
      if maxKeys < obj.length then .error (.attributeValidationError s!"{name} too large")
      else
        match levels with
        | 0 => .error (.attributeValidationError s!"{name} too deep")
        | levels + 1 => obj.forM fun
            | (_, .dict inner) => validateDict name maxKeys levels inner
            | (_, .list items) =>
                if maxKeys < items.length then
                  .error (.attributeValidationError s!"{name} list too large")
                else .ok ()
            | _ => .ok ()

/-- `validate_user`. -/
def validateUser (user : Dict) : Except PyError Unit := validateDict "user" 200 6 user

/-- `validate_resource`. -/
def validateResource (resource : Dict) : Except PyError Unit :=
  validateDict "resource" 200 6 resource

/-! ## The world of a request -/

/-- The settings a request reads; `loadPolicies` may fail to read its files. -/
structure Settings where
  resilienceMode : String
  resilienceFallbackBehavior : String
  loadPolicies : Except PyError (List Dict)

/-- The database, the cache backend, and the process's `MODEL_GRAPH_STORE`. -/
structure World where
  db : Database
  backend : Backend
  modelGraphs : String → Option CompiledPermissionGraph

/-- The arguments of `authorize`. -/
structure AuthorizeRequest where
  tenantKey : String
  user : Dict
  action : String
  resource : Dict
  context : Dict := []
  consistency : String := "eventual"
  revision : Option Int := none
  policySet : String := "active"

/-- The tenant of a key: the stored one, or the one `get_or_create` would store. -/
def World.tenant (w : World) (tenantKey : String) : TenantRecord :=
  (w.db.tenants.getOrCreate tenantKey).1

/-- `self._tenants.get_or_create(tenant_key)`. -/
def World.ensureTenant (w : World) (tenantKey : String) : World :=
  { w with db := { w.db with tenants := (w.db.tenants.getOrCreate tenantKey).2 } }

/-- Replace the cache backend. -/
def World.withBackend (w : World) (b : Backend) : World := { w with backend := b }

omit [PyRuntime] in
@[simp] theorem World.withBackend_backend (w : World) (b : Backend) :
    (w.withBackend b).backend = b := rfl

omit [PyRuntime] in
@[simp] theorem World.withBackend_db (w : World) (b : Backend) :
    (w.withBackend b).db = w.db := rfl

omit [PyRuntime] in
@[simp] theorem World.withBackend_modelGraphs (w : World) (b : Backend) :
    (w.withBackend b).modelGraphs = w.modelGraphs := rfl

/-! ## Hydration -/

/-- The list of permissions the request brings becomes the direct permissions. -/
def withDirectPermissions (user : Dict) : Dict :=
  match Dict.getD user "permissions" (.list []) with
  | .list permissions => user.set "direct_permissions" (.list permissions)
  | _ => user

/-- The roles and role permissions of the persisted user, when there is one. -/
def withUserContext (user : Dict) : Option UserContext → Dict
  | none => user
  | some persisted =>
      ((user.set "roles" (.list (persisted.roles.map .str))).set "role_permissions"
        (.list (persisted.permissions.map .str))).setDefault "role" (.ofOption persisted.role)

/-- The user's relationship edges. -/
def withRelations (user : Dict) (records : List RelationshipRecord) : Dict :=
  user.set "relations" (.list (records.map fun record => .dict record.toDict))

/-- The user's relationships, through their cache; a cache that raises is a miss. -/
def userRelationships (w : World) (tenantId : Int) (subjectId : String) :
    List RelationshipRecord × World :=
  match relationshipCacheGet w.backend tenantId "user" subjectId with
  | .ok (some records) => (records, w)
  | _ =>
      let records := w.db.relationships.listForSubject tenantId "user" subjectId
      (records, w.withBackend (relationshipCacheSet w.backend tenantId "user" subjectId records))

/-- `AuthorizationService._hydrate_user`. -/
def hydrateUser (w : World) (tenantId : Int) (user : Dict) : Dict × World :=
  let user := withDirectPermissions user
  let id := Dict.get user "id"
  match id.int? with
  | none => (user, w)
  | some userId =>
      let user := withUserContext user (getUserContext w.db.users userId)
      let (records, w) := userRelationships w tenantId id.text
      (withRelations user records, w)

/-! ## The input of the engine -/

/-- The tenant's permission graph: the stored graph, else the compiled schema. -/
def permissionGraph (w : World) (tenantId : Int) (tenantKey : String) :
    Except PyError (Option CompiledPermissionGraph × World) :=
  match w.modelGraphs tenantKey with
  | some graph => .ok (some graph, w)
  | none =>
      match getModel w.db.authModels tenantId with
      | none => .ok (none, w)
      | some record => do
          let compiled ← compileSchemaText record.schemaText
          let graph : CompiledPermissionGraph := ⟨tenantKey, compiled⟩
          .ok (some graph,
            { w with
              modelGraphs := fun key => if key = tenantKey then some graph else w.modelGraphs key })

/-- What a request looks up in the access index. -/
def AuthorizeRequest.lookup (request : AuthorizeRequest) (tenantId : Int) : Lookup :=
  let (resourceType, resourceId) := KeyNetraEngine.resourceIdentity request.resource
  ⟨tenantId, resourceType, resourceId, request.action⟩

/-- The resource has a type and an id. -/
def Lookup.Identified (l : Lookup) : Prop := l.resourceType ≠ "" ∧ l.resourceId ≠ ""

instance (l : Lookup) : Decidable l.Identified := by
  unfold Lookup.Identified
  infer_instance

/-- The index entries of the request's resource; a fresh indexer has no memo. -/
def requestIndex (w : World) (l : Lookup) : Except PyError (List AccessIndexEntry) × World :=
  if l.Identified then
    let (entries, b, _) :=
      buildResourceIndex w.db.acl w.db.relationships w.backend (fun _ => none) l
    (entries, w.withBackend b)
  else (.ok [], w)

/-- An ACL-sourced entry as the engine reads it, with the id of its row. -/
def aclEntryDict (entry : AccessIndexEntry) : Dict := entry.toDict ++ [("id", .ofInt? entry.aclId)]

/-- The engine's input from what was resolved. -/
def AuthorizeRequest.input (request : AuthorizeRequest) (user : Dict)
    (graph : Option CompiledPermissionGraph) (entries : List AccessIndexEntry) :
    AuthorizationInput where
  user := user
  resource := request.resource
  action := request.action
  context := request.context
  aclEntries := (aclPart entries).map aclEntryDict
  accessIndexEntries := entries.map AccessIndexEntry.toDict
  permissionGraph := graph
  tenantKey := some request.tenantKey

/-- `AuthorizationService._build_authorization_input`. -/
def buildAuthorizationInput (w : World) (tenantId : Int) (user : Dict)
    (request : AuthorizeRequest) : Except PyError AuthorizationInput × World :=
  match permissionGraph w tenantId request.tenantKey with
  | .error e => (.error e, w)
  | .ok (graph, w) =>
      match requestIndex w (request.lookup tenantId) with
      | (.error e, w) => (.error e, w)
      | (.ok entries, w) => (.ok (request.input user graph entries), w)

/-- The checks of a request. -/
def AuthorizeRequest.validate (request : AuthorizeRequest) : Except PyError Unit := do
  validateUser request.user
  validateResource request.resource

/-- `AuthorizationService._build_input`. -/
def buildInput (w : World) (request : AuthorizeRequest) :
    Except PyError (AuthorizationInput × TenantRecord) × World :=
  match request.validate with
  | .error e => (.error e, w)
  | .ok () =>
      let tenant := w.tenant request.tenantKey
      let (user, w) := hydrateUser (w.ensureTenant request.tenantKey) tenant.id request.user
      match buildAuthorizationInput w tenant.id user request with
      | (.error e, w) => (.error e, w)
      | (.ok input, w) => (.ok (input, tenant), w)

/-! ## The engine -/

/-- `policy_set.strip().lower() or "active"`. -/
def policySetKey (policySet : String) : String :=
  orText (some (pyLower (pyStrip policySet))) "active"

/-- The engine of listed policies. -/
def engineOf (records : List PolicyRecord) : Except PyError KeyNetraEngine :=
  KeyNetraEngine.new (records.map fun record => .definition record.definition)

/-- The engine of the policies the settings load. -/
def Settings.engine (settings : Settings) : Except PyError KeyNetraEngine := do
  let policies ← settings.loadPolicies
  KeyNetraEngine.new (policies.map .raw)

/-- The engine of the current policies; without any, of those of the settings. -/
def currentEngine (settings : Settings) (records : List PolicyRecord) :
    Except PyError KeyNetraEngine :=
  if records.isEmpty then settings.engine else engineOf records

/-- `_safe_policy_cache_get`, for the active set only. -/
def cachedPolicies (w : World) (tenant : TenantRecord) (policySet : String) :
    Option (List PolicyRecord) :=
  if policySet = "active" then
    match policyCacheGet w.backend tenant.tenantKey tenant.policyVersion with
    | .ok cached => cached
    | .error _ => none
  else none

/-- `AuthorizationService._build_engine`. -/
def buildEngine (settings : Settings) (w : World) (tenant : TenantRecord) (policySet : String) :
    Except PyError KeyNetraEngine × World :=
  let policySet := policySetKey policySet
  match cachedPolicies w tenant policySet with
  | some records => (engineOf records, w)
  | none =>
      let records := w.db.policies.listCurrentPolicies tenant.id policySet
      let stored := !records.isEmpty && policySet = "active"
      (currentEngine settings records,
        if stored then
          w.withBackend (policyCacheSet w.backend tenant.tenantKey tenant.policyVersion records)
        else w)

/-! ## Fallbacks -/

/-- `_safe_deny`. -/
def safeDeny (reason : String) : AuthorizationDecision where
  allowed := false
  decision := .deny
  reason := some reason
  policyId := none
  explainTrace := [⟨"final", "deny", reason, none⟩]
  failedConditions := [reason]

/-- `_safe_allow`. -/
def safeAllow (reason : String) : AuthorizationDecision where
  allowed := true
  decision := .allow
  reason := some reason
  policyId := none
  explainTrace := [⟨"final", "allow", reason, none⟩]

/-- The answer of a service that does not evaluate policies. -/
def staticFallback (settings : Settings) (reason : String) : AuthorizationDecision :=
  if pyLower (pyStrip (orText (some settings.resilienceMode) "fail_closed")) = "fail_open" then
    safeAllow reason
  else safeDeny reason

/-- `_fallback_decision`. -/
def fallbackDecision (settings : Settings) (input : AuthorizationInput) (reason : String) :
    AuthorizationDecision :=
  let behavior :=
    pyLower (pyStrip (orText (some settings.resilienceFallbackBehavior) "static"))
  if behavior = "default_policy_eval" then
    match (do (← settings.engine).decide input) with
    | .ok decision =>
        { decision with
          explainTrace := decision.explainTrace ++
            [⟨"resilience_fallback", "fallback", reason, decision.policyId⟩] }
    | .error _ => staticFallback settings reason
  else staticFallback settings reason

/-- The input of the fallback when none could be built. -/
def AuthorizeRequest.fallbackInput (request : AuthorizeRequest) : AuthorizationInput where
  user := request.user
  resource := request.resource
  action := request.action
  context := request.context
  tenantKey := some request.tenantKey

/-- The service fails open. -/
def Settings.FailsOpen (settings : Settings) : Prop :=
  pyLower (pyStrip (orText (some settings.resilienceMode) "fail_closed")) = "fail_open"

/-- The default policies are evaluated where a request cannot be. -/
def Settings.EvaluatesDefaults (settings : Settings) : Prop :=
  pyLower (pyStrip (orText (some settings.resilienceFallbackBehavior) "static")) =
    "default_policy_eval"

/-- The fallback allows: the default policies do, and where they are not evaluated, or raise,
the service fails open. -/
def Settings.FallbackAllows (settings : Settings) (input : AuthorizationInput) : Prop :=
  (settings.EvaluatesDefaults ∧ ∃ engine decision, settings.engine = .ok engine ∧
      engine.decide input = .ok decision ∧ decision.allowed = true) ∨
    (settings.FailsOpen ∧ ¬ (settings.EvaluatesDefaults ∧ ∃ engine decision,
      settings.engine = .ok engine ∧ engine.decide input = .ok decision))

omit [PyRuntime] in
theorem staticFallback_allowed (settings : Settings) (reason : String) :
    (staticFallback settings reason).allowed = true ↔ settings.FailsOpen := by
  unfold staticFallback Settings.FailsOpen
  split
  · rename_i hopen
    exact ⟨fun _ => hopen, fun _ => rfl⟩
  · rename_i hclosed
    constructor
    · intro hallowed
      cases hallowed
    · intro hopen
      exact absurd hopen hclosed

theorem fallbackDecision_allowed (settings : Settings) (input : AuthorizationInput)
    (reason : String) :
    (fallbackDecision settings input reason).allowed = true ↔ settings.FallbackAllows input := by
  have hengine : ∀ decision, (do (← settings.engine).decide input) = .ok decision ↔
      ∃ engine, settings.engine = .ok engine ∧ engine.decide input = .ok decision := by
    intro decision
    exact Lib.bind_eq_ok
  unfold fallbackDecision
  dsimp only
  split
  · rename_i hdefaults
    rcases hdecided : (do (← settings.engine).decide input) with e | decision
    · -- the default policies raise
      have hnone : ¬ ∃ engine decision, settings.engine = .ok engine ∧
          engine.decide input = .ok decision := by
        rintro ⟨engine, decision, hok⟩
        have hsome := (hengine decision).mpr ⟨engine, hok⟩
        rw [hdecided] at hsome
        cases hsome
      rw [hdecided]
      dsimp only
      rw [staticFallback_allowed]
      constructor
      · intro hopen
        exact Or.inr ⟨hopen, fun h => hnone h.2⟩
      · rintro (⟨-, engine, decision, hok, hdecide, -⟩ | ⟨hopen, -⟩)
        · exact absurd ⟨engine, decision, hok, hdecide⟩ hnone
        · exact hopen
    · rcases (hengine decision).mp hdecided with ⟨engine, hok, hdecide⟩
      rw [hdecided]
      constructor
      · intro hallowed
        exact Or.inl ⟨hdefaults, engine, decision, hok, hdecide, hallowed⟩
      · rintro (⟨-, engine', decision', hok', hdecide', hallowed⟩ | ⟨-, hnone⟩)
        · have hsame := (hengine decision').mpr ⟨engine', hok', hdecide'⟩
          rw [hdecided] at hsame
          cases hsame
          exact hallowed
        · exact absurd ⟨hdefaults, engine, decision, hok, hdecide⟩ hnone
  · rename_i hstatic
    rw [staticFallback_allowed]
    constructor
    · intro hopen
      exact Or.inr ⟨hopen, fun h => hstatic h.1⟩
    · rintro (⟨hdefaults, -⟩ | ⟨hopen, -⟩)
      · exact absurd hdefaults hstatic
      · exact hopen

/-! ## The decision cache -/

/-- A cached trace item as a step. -/
def cachedStep (item : Dict) : ExplainTraceStep where
  step := (Dict.getD item "step" (.str "cache")).text
  outcome := (Dict.getD item "outcome" (.str "cached")).text
  detail := (Dict.getD item "detail" (.str "served from decision cache")).text
  policyId := (Dict.get item "policy_id").optText

/-- `_decision_from_cache`. -/
def decisionFromCache (cached : CachedDecision) : AuthorizationDecision where
  allowed := cached.allowed
  decision := if cached.allowed then .allow else .ofText cached.decision
  reason := cached.reason
  policyId := cached.policyId
  explainTrace := cached.explainTrace.map cachedStep
  matchedPolicies := cached.matchedPolicies
  failedConditions := cached.failedConditions

/-- `consistency.strip().lower() == "fully_consistent"`. -/
def AuthorizeRequest.FullyConsistent (request : AuthorizeRequest) : Prop :=
  pyLower (pyStrip request.consistency) = "fully_consistent"

instance (request : AuthorizeRequest) : Decidable request.FullyConsistent := by
  unfold AuthorizeRequest.FullyConsistent
  infer_instance

/-- The name the decisions of a tenant and a policy set are cached under. -/
def cacheNamespace (tenant : TenantRecord) (policySet : String) : String :=
  if policySet = "active" then tenant.tenantKey else s!"{tenant.tenantKey}:{policySet}"

/-- The decision key of a request that does not bypass the cache. -/
def AuthorizeRequest.decisionKey? (request : AuthorizeRequest)
    (counters : String → Option Nat) (tenant : TenantRecord) (input : AuthorizationInput) :
    Option String :=
  if request.FullyConsistent then none
  else some (decisionCacheKey counters
    (cacheNamespace tenant (policySetKey request.policySet)) tenant.policyVersion
    (request.revision.getD tenant.revision) input)

/-- `_safe_cache_get`. -/
def safeDecisionGet (b : Backend) (key : String) : Option CachedDecision :=
  match decisionCacheGet b key with
  | .ok cached => cached
  | .error _ => none

/-! ## The service -/

/-- What `authorize` returns. -/
structure AuthorizationResult where
  decision : AuthorizationDecision
  cached : Bool
  revision : Int

/-- The engine's decision on an input, stored when the request has a key. -/
def decideInput (settings : Settings) (w : World) (request : AuthorizeRequest)
    (input : AuthorizationInput) (tenant : TenantRecord) (key : Option String) :
    AuthorizationResult × World :=
  let (engine, w) := buildEngine settings w tenant (policySetKey request.policySet)
  match (do (← engine).decide input) with
  | .error _ =>
      (⟨fallbackDecision settings input "authorization backend unavailable", false,
        tenant.revision⟩, w)
  | .ok decision =>
      (⟨decision, false, tenant.revision⟩,
        match key with
        | none => w
        | some key =>
            w.withBackend (decisionCacheSet w.backend key (.fromDecision decision)))

/-- `AuthorizationService.authorize`; nothing reads back the audit record it writes. -/
def authorize (settings : Settings) (w : World) (request : AuthorizeRequest) :
    AuthorizationResult × World :=
  match buildInput w request with
  | (.error e, w) =>
      (⟨fallbackDecision settings request.fallbackInput
        s!"authorization input unavailable: {e.message}", false, 1⟩, w)
  | (.ok (input, tenant), w) =>
      let key := request.decisionKey? w.backend.counters tenant input
      match key.bind (safeDecisionGet w.backend) with
      | some cached => (⟨decisionFromCache cached, true, tenant.revision⟩, w)
      | none => decideInput settings w request input tenant key

end Service

end KeyNetra
