import KeyNetra.Services.Batch

/-!
# KeyNetra.Services.Degradation — requests whose backend calls fail

Here a request does not run in a world: what each of its calls of a repository or a cache
comes back with, a value or an exception, is given, and may be anything. `authorize` has an
`except Exception` around the input and another around the decision. `authorize_batch` has
one clause around what its items share, for three kinds of exception, and none around an
item.

* `RequestCalls` / `ItemCalls` — how the calls end, those made once and those of an item;
* `authorizeFrom` / `authorizeBatchFrom` — the service under these calls;
* `SingleDegrades` / `BatchDegrades` — one result an item, a denial where the evaluation did
  not complete, and answers that other failures do not change;
* `Contained` — what a batch needs for that;
* `degrades_iff` — a single request always degrades so, a batch exactly when contained;
* `authorizeFrom_world` — a request in a world is one under the calls that it answers.
-/

namespace KeyNetra

section Degradation

variable [PyRuntime] {α β : Type}

/-! ## Calls -/

/-- What the `except` clauses tell apart: `RuntimeError`, `TimeoutError` and `ValueError`,
which the clause of the batch lists; `TypeError`; and every other exception. -/
inductive FailureKind where
  | listed
  | typeError
  | other
deriving DecidableEq

/-- An exception that a call raises. -/
structure Failure where
  kind : FailureKind
  message : String

/-- An exception of the service's own code. -/
def PyError.failure (e : PyError) : Failure where
  kind :=
    match e with
    | .valueError _ | .attributeValidationError _ => .listed
    | .typeError _ => .typeError
    | _ => .other
  message := e.message

/-- `try … except Exception`: what the call returned, if it did. -/
def safely (call : Except Failure α) : Option α := call.toOption

/-- How the calls end that a request makes once. `policyList` is `list_current_policies` with
the policy set, `tenantPolicyList` the same without it. -/
structure RequestCalls where
  tenant : Except Failure TenantRecord
  userContext : Except Failure (Option UserContext)
  relationshipGet : Except Failure (Option (List RelationshipRecord))
  relationshipList : Except Failure (List RelationshipRecord)
  relationshipSet : Except Failure Unit
  policyGet : Except Failure (Option (List PolicyRecord))
  policyList : Except Failure (List PolicyRecord)
  tenantPolicyList : Except Failure (List PolicyRecord)
  policySet : Except Failure Unit

/-- What a process remembers between the calls: `MODEL_GRAPH_STORE` and the memo of the
indexer. Neither is a backend. -/
structure ProcessMemory where
  graphs : String → Option CompiledPermissionGraph
  indexed : Memo

/-- How the calls end that are made for one item, and what the other threads have done to the
memory of the process when they begin. -/
structure ItemCalls where
  meanwhile : ProcessMemory → ProcessMemory
  model : Except Failure (Option AuthModelRecord)
  indexGet : Except Failure (Option (List AccessIndexEntry))
  aclGet : Except Failure (Option (List ACLRecord))
  aclFind : Except Failure (List ACLRecord)
  aclSet : Except Failure Unit
  objectList : Except Failure (List RelationshipRecord)
  indexSet : Except Failure Unit
  makeKey : Except Failure String
  decisionGet : Except Failure (Option CachedDecision)
  decisionSet : Except Failure Unit
  auditWrite : Except Failure Unit

/-! ## The service under these calls -/

/-- `list_for_subject`, behind the relationship cache. -/
def relationshipsFrom (calls : RequestCalls) : Except Failure (List RelationshipRecord) :=
  match (safely calls.relationshipGet).join with
  | some records => .ok records
  | none => do
      let records ← calls.relationshipList
      let _ := safely calls.relationshipSet
      .ok records

/-- `_hydrate_user`. -/
def hydrateFrom (calls : RequestCalls) (user : Dict) : Except Failure Dict :=
  let user := withDirectPermissions user
  match (Dict.get user "id").int? with
  | none => .ok user
  | some _ => do
      let persisted ← calls.userContext
      let records ← relationshipsFrom calls
      .ok (withRelations (withUserContext user persisted) records)

/-- `_load_current_policies`: a repository that does not know policy sets is asked again. -/
def policiesFrom (calls : RequestCalls) : Except Failure (List PolicyRecord) :=
  match calls.policyList with
  | .error ⟨.typeError, _⟩ => calls.tenantPolicyList
  | listed => listed

/-- `_build_engine`. -/
def engineFrom (settings : Settings) (calls : RequestCalls) (policySet : String) :
    Except Failure KeyNetraEngine :=
  let policySet := policySetKey policySet
  let cached := if policySet = "active" then (safely calls.policyGet).join else none
  match cached with
  | some records => (engineOf records).mapError PyError.failure
  | none => do
      let records ← policiesFrom calls
      let _ := safely calls.policySet
      (currentEngine settings records).mapError PyError.failure

/-- The permission graph of the tenant, compiled where the process does not have it. -/
def graphFrom (calls : ItemCalls) (memory : ProcessMemory) (tenantKey : String) :
    Except Failure (Option CompiledPermissionGraph × ProcessMemory) :=
  match memory.graphs tenantKey with
  | some graph => .ok (some graph, memory)
  | none => do
      match ← calls.model with
      | none => .ok (none, memory)
      | some record => do
          let compiled ← (compileSchemaText record.schemaText).mapError PyError.failure
          let graph : CompiledPermissionGraph := ⟨tenantKey, compiled⟩
          .ok (some graph,
            { memory with
              graphs := fun key => if key = tenantKey then some graph else memory.graphs key })

/-- `AccessIndexer._rebuild_resource_index`; nothing here is inside a `try`. -/
def rebuildFrom (calls : ItemCalls) (l : Lookup) : Except Failure (List AccessIndexEntry) := do
  let aclEntries ← (do
    match ← calls.aclGet with
    | some aclEntries => .ok aclEntries
    | none => do
        let aclEntries ← calls.aclFind
        calls.aclSet
        .ok aclEntries)
  let rows ← calls.objectList
  calls.indexSet
  .ok (indexEntries l aclEntries rows)

/-- `AccessIndexer.build_resource_index`. -/
def indexFrom (calls : ItemCalls) (memory : ProcessMemory) (l : Lookup) :
    Except Failure (List AccessIndexEntry × ProcessMemory) := do
  match ← calls.indexGet with
  | some entries => .ok (entries, memory)
  | none =>
      match memory.indexed l with
      | some entries => .ok (entries, memory)
      | none => do
          let entries ← rebuildFrom calls l
          .ok (entries, { memory with indexed := memory.indexed.set l entries })

/-- The index entries of the request's resource, where it has a type and an id. -/
def resourceIndexFrom (calls : ItemCalls) (memory : ProcessMemory) (l : Lookup) :
    Except Failure (List AccessIndexEntry × ProcessMemory) :=
  if l.Identified then indexFrom calls memory l else .ok ([], memory)

/-- `_build_authorization_input`. -/
def inputFrom (calls : ItemCalls) (memory : ProcessMemory) (tenantId : Int) (user : Dict)
    (request : AuthorizeRequest) : Except Failure (AuthorizationInput × ProcessMemory) := do
  let (graph, memory) ← graphFrom calls (calls.meanwhile memory) request.tenantKey
  let (entries, memory) ← resourceIndexFrom calls memory (request.lookup tenantId)
  .ok (request.input user graph entries, memory)

/-- The cached decision; a read that raises is a miss, a key that raises is not. -/
def cachedFrom (calls : ItemCalls) (request : AuthorizeRequest) :
    Except Failure (Option CachedDecision) :=
  if request.FullyConsistent then .ok none
  else do
    let _ ← calls.makeKey
    .ok (safely calls.decisionGet).join

/-- The decision on an input, by the cache or by the engine. -/
def decideFrom (calls : ItemCalls) (engine : Except Failure KeyNetraEngine)
    (request : AuthorizeRequest) (input : AuthorizationInput) :
    Except Failure (AuthorizationDecision × Bool) := do
  match ← cachedFrom calls request with
  | some cached => .ok (decisionFromCache cached, true)
  | none => do
      let engine ← engine
      let decision ← (engine.decide input).mapError PyError.failure
      let _ := safely calls.decisionSet
      let _ := safely calls.auditWrite
      .ok (decision, false)

/-- `_build_input`. -/
def builtFrom (calls : RequestCalls) (item : ItemCalls) (memory : ProcessMemory)
    (request : AuthorizeRequest) : Except Failure (AuthorizationInput × TenantRecord) := do
  request.validate.mapError PyError.failure
  let tenant ← calls.tenant
  let user ← hydrateFrom calls request.user
  let (input, _) ← inputFrom item memory tenant.id user request
  .ok (input, tenant)

/-- `AuthorizationService.authorize`. -/
def authorizeFrom (settings : Settings) (calls : RequestCalls) (item : ItemCalls)
    (memory : ProcessMemory) (request : AuthorizeRequest) : AuthorizationResult :=
  match builtFrom calls item memory request with
  | .error e =>
      ⟨fallbackDecision settings request.fallbackInput
        s!"authorization input unavailable: {e.message}", false, 1⟩
  | .ok (input, tenant) =>
      let engine := engineFrom settings calls (policySetKey request.policySet)
      match decideFrom item engine request input with
      | .error _ =>
          ⟨fallbackDecision settings input "authorization backend unavailable", false,
            tenant.revision⟩
      | .ok (decision, cached) => ⟨decision, cached, tenant.revision⟩

/-! ## A batch under these calls -/

/-- The calls of a batch: those its items share, and those of the item at each position. -/
structure BatchCalls where
  shared : RequestCalls
  item : Nat → ItemCalls

/-- What the items of a batch share. -/
structure ReadyBatch where
  tenant : TenantRecord
  user : Dict
  engine : KeyNetraEngine

/-- The part of `authorize_batch` inside its `try`. -/
def readyFrom (settings : Settings) (calls : RequestCalls) (batch : BatchRequest) :
    Except Failure ReadyBatch := do
  let tenant ← calls.tenant
  let user ← hydrateFrom calls batch.user
  let engine ← engineFrom settings calls (policySetKey batch.policySet)
  .ok ⟨tenant, user, engine⟩

/-- What the loop over the items carries along. -/
structure LoopState where
  memory : ProcessMemory
  answered : List AnsweredItem

/-- `memoized_results.get(memo_key)`. -/
def LoopState.answered? (s : LoopState) (action : String) (resource context : Value) :
    Option AnsweredItem :=
  s.answered.find? fun a =>
    a.action = action && a.resource.same resource && a.context.same context

/-- An item as a request of the tenant that was found. -/
def ReadyBatch.single (ready : ReadyBatch) (batch : BatchRequest) (item : BatchItem) :
    AuthorizeRequest :=
  { batch.single item with tenantKey := ready.tenant.tenantKey }

/-- The evaluation of an item that no item before asks. -/
def evaluateFrom (ready : ReadyBatch) (batch : BatchRequest) (calls : ItemCalls)
    (memory : ProcessMemory) (item : BatchItem) :
    Except Failure ((AuthorizationDecision × Bool) × ProcessMemory) := do
  let request := ready.single batch item
  let (input, memory) ← inputFrom calls memory ready.tenant.id ready.user request
  let answer ← decideFrom calls (.ok ready.engine) request input
  .ok (answer, memory)

/-- One pass of the loop, over an item and its position. -/
def answerFrom (ready : ReadyBatch) (batch : BatchRequest) (calls : Nat → ItemCalls)
    (s : LoopState) (x : BatchItem × Nat) : Except Failure AuthorizationResult × LoopState :=
  let (item, position) := x
  match validateResource item.resource with
  | .error e => (.error e.failure, s)
  | .ok () =>
      let resource := (Value.dict item.resource).sorted
      let context := (Value.dict batch.context).sorted
      match s.answered? item.action resource context with
      | some a =>
          let _ := safely (calls position).auditWrite
          (.ok ⟨a.decision, a.cached, ready.tenant.revision⟩, s)
      | none =>
          match evaluateFrom ready batch (calls position) s.memory item with
          | .error e => (.error e, s)
          | .ok ((decision, cached), memory) =>
              let _ := safely (calls position).auditWrite
              (.ok ⟨decision, cached, ready.tenant.revision⟩,
                ⟨memory, ⟨item.action, resource, context, decision, cached⟩ :: s.answered⟩)

/-- `AuthorizationService.authorize_batch`. -/
def authorizeBatchFrom (settings : Settings) (calls : BatchCalls) (memory : ProcessMemory)
    (batch : BatchRequest) : Except Failure (List AuthorizationResult) := do
  (validateUser batch.user).mapError PyError.failure
  match readyFrom settings calls.shared batch with
  | .error e =>
      if e.kind = .listed then
        .ok (batch.items.map fun item => ⟨fallbackDecision settings
          (batch.single item).fallbackInput "authorization backend unavailable", false, 1⟩)
      else .error e
  | .ok ready =>
      (Lib.thread (answerFrom ready batch calls.item) ⟨memory, []⟩ batch.items.zipIdx).1

/-! ## Repaired calls -/

/-- A call that succeeded has the same result. -/
def Kept (call call' : Except Failure α) : Prop := ∀ a, call = .ok a → call' = .ok a

/-- The same calls, where those that raised may end in another way. -/
structure RequestCalls.Repaired (calls calls' : RequestCalls) : Prop where
  tenant : Kept calls.tenant calls'.tenant
  userContext : Kept calls.userContext calls'.userContext
  relationshipGet : Kept calls.relationshipGet calls'.relationshipGet
  relationshipList : Kept calls.relationshipList calls'.relationshipList
  policyGet : Kept calls.policyGet calls'.policyGet
  policyList : Kept calls.policyList calls'.policyList
  tenantPolicyList : Kept calls.tenantPolicyList calls'.tenantPolicyList

structure ItemCalls.Repaired (calls calls' : ItemCalls) : Prop where
  meanwhile : calls'.meanwhile = calls.meanwhile
  model : Kept calls.model calls'.model
  indexGet : Kept calls.indexGet calls'.indexGet
  aclGet : Kept calls.aclGet calls'.aclGet
  aclFind : Kept calls.aclFind calls'.aclFind
  aclSet : Kept calls.aclSet calls'.aclSet
  objectList : Kept calls.objectList calls'.objectList
  indexSet : Kept calls.indexSet calls'.indexSet
  makeKey : Kept calls.makeKey calls'.makeKey
  decisionGet : Kept calls.decisionGet calls'.decisionGet

/-- None of the calls raised whose exception the service answers in another way: the two
cache reads, and the listing of the policies. The others raise out of the part they are in. -/
def RequestCalls.Answered (calls : RequestCalls) (user : Dict) (policySet : String) : Prop :=
  ((Dict.get (withDirectPermissions user) "id").int? ≠ none →
      ∃ cached, calls.relationshipGet = .ok cached) ∧
    (policySetKey (policySetKey policySet) = "active" → ∃ cached, calls.policyGet = .ok cached) ∧
    ∀ message, calls.policyList ≠ .error ⟨.typeError, message⟩

/-- The decision cache was read, where it is read. -/
def ItemCalls.CacheRead (calls : ItemCalls) (request : AuthorizeRequest) : Prop :=
  ¬ request.FullyConsistent → ∃ cached, calls.decisionGet = .ok cached

variable {calls calls' : RequestCalls} {item item' : ItemCalls}

omit [PyRuntime] in
theorem Kept.refl (call : Except Failure α) : Kept call call := fun _ h => h

omit [PyRuntime] in
/-- A sequence of calls keeps its result when its parts do. -/
theorem Kept.bind {x x' : Except Failure α} {f f' : α → Except Failure β} (hx : Kept x x')
    (hf : ∀ a, x = .ok a → Kept (f a) (f' a)) : Kept (x >>= f) (x' >>= f') := by
  intro b hb
  rcases Lib.bind_eq_ok.mp hb with ⟨a, ha, hfa⟩
  rw [hx a ha, Lib.ok_bind]
  exact hf a ha b hfa

omit [PyRuntime] in
theorem RequestCalls.Repaired.relationships (h : calls.Repaired calls')
    (hget : ∃ cached, calls.relationshipGet = .ok cached) :
    Kept (relationshipsFrom calls) (relationshipsFrom calls') := by
  rcases hget with ⟨cached, hcached⟩
  unfold relationshipsFrom
  rw [hcached, h.relationshipGet cached hcached]
  rcases cached with _ | records
  · exact h.relationshipList.bind fun _ _ => .refl _
  · exact .refl _

omit [PyRuntime] in
theorem RequestCalls.Repaired.hydrate {user : Dict} (h : calls.Repaired calls')
    (hget : (Dict.get (withDirectPermissions user) "id").int? ≠ none →
      ∃ cached, calls.relationshipGet = .ok cached) :
    Kept (hydrateFrom calls user) (hydrateFrom calls' user) := by
  unfold hydrateFrom
  dsimp only
  rcases hid : (Dict.get (withDirectPermissions user) "id").int? with _ | userId
  · exact .refl _
  · rw [hid] at hget
    have hrelationships := h.relationships (hget (Option.some_ne_none userId))
    exact h.userContext.bind fun _ _ => hrelationships.bind fun _ _ => .refl _

omit [PyRuntime] in
theorem RequestCalls.Repaired.policies (h : calls.Repaired calls')
    (hlist : ∀ message, calls.policyList ≠ .error ⟨.typeError, message⟩) :
    Kept (policiesFrom calls) (policiesFrom calls') := by
  intro records hrecords
  unfold policiesFrom at hrecords ⊢
  rcases hlisted : calls.policyList with e | listed
  · rw [hlisted] at hrecords
    rcases e with ⟨kind, message⟩
    rcases kind with - | - | -
    · cases hrecords
    · exact absurd hlisted (hlist message)
    · cases hrecords
  · rw [hlisted] at hrecords
    rw [h.policyList listed hlisted]
    exact hrecords

theorem RequestCalls.Repaired.engine (h : calls.Repaired calls') (settings : Settings)
    {policySet : String}
    (hget : policySetKey policySet = "active" → ∃ cached, calls.policyGet = .ok cached)
    (hlist : ∀ message, calls.policyList ≠ .error ⟨.typeError, message⟩) :
    Kept (engineFrom settings calls policySet) (engineFrom settings calls' policySet) := by
  have hlisted : Kept (policiesFrom calls >>= fun records =>
      (currentEngine settings records).mapError PyError.failure) (policiesFrom calls' >>=
        fun records => (currentEngine settings records).mapError PyError.failure) :=
    (h.policies hlist).bind fun _ _ => .refl _
  unfold engineFrom
  dsimp only
  by_cases hactive : policySetKey policySet = "active"
  · rcases hget hactive with ⟨cached, hcached⟩
    rw [if_pos hactive, if_pos hactive, hcached, h.policyGet cached hcached]
    rcases cached with _ | records
    · exact hlisted
    · exact .refl _
  · rw [if_neg hactive, if_neg hactive]
    exact hlisted

theorem ItemCalls.Repaired.graph (h : item.Repaired item') (memory : ProcessMemory)
    (tenantKey : String) :
    Kept (graphFrom item memory tenantKey) (graphFrom item' memory tenantKey) := by
  unfold graphFrom
  rcases memory.graphs tenantKey with _ | graph
  · exact h.model.bind fun _ _ => .refl _
  · exact .refl _

omit [PyRuntime] in
theorem ItemCalls.Repaired.rebuild (h : item.Repaired item') (l : Lookup) :
    Kept (rebuildFrom item l) (rebuildFrom item' l) := by
  unfold rebuildFrom
  apply Kept.bind
  · apply h.aclGet.bind
    intro cached _
    rcases cached with _ | aclEntries
    · exact h.aclFind.bind fun _ _ => h.aclSet.bind fun _ _ => .refl _
    · exact .refl _
  · intro aclEntries _
    exact h.objectList.bind fun _ _ => h.indexSet.bind fun _ _ => .refl _

omit [PyRuntime] in
theorem ItemCalls.Repaired.index (h : item.Repaired item') (memory : ProcessMemory) (l : Lookup) :
    Kept (indexFrom item memory l) (indexFrom item' memory l) := by
  unfold indexFrom
  apply h.indexGet.bind
  intro cached _
  rcases cached with _ | entries
  · dsimp only
    rcases memory.indexed l with _ | entries
    · exact (h.rebuild l).bind fun _ _ => .refl _
    · exact .refl _
  · exact .refl _

omit [PyRuntime] in
theorem ItemCalls.Repaired.resourceIndex (h : item.Repaired item') (memory : ProcessMemory)
    (l : Lookup) : Kept (resourceIndexFrom item memory l) (resourceIndexFrom item' memory l) := by
  unfold resourceIndexFrom
  split
  · exact h.index memory l
  · exact .refl _

theorem ItemCalls.Repaired.input (h : item.Repaired item') (memory : ProcessMemory)
    (tenantId : Int) (user : Dict) (request : AuthorizeRequest) :
    Kept (inputFrom item memory tenantId user request)
      (inputFrom item' memory tenantId user request) := by
  unfold inputFrom
  rw [h.meanwhile]
  apply (h.graph _ _).bind
  rintro ⟨graph, memory⟩ -
  exact (h.resourceIndex memory (request.lookup tenantId)).bind fun _ _ => .refl _

/-- With the decision cache read, the decision is kept. -/
theorem ItemCalls.Repaired.decide {engine engine' : Except Failure KeyNetraEngine}
    {request : AuthorizeRequest} (h : item.Repaired item') (hengine : Kept engine engine')
    (hread : item.CacheRead request) (input : AuthorizationInput) :
    Kept (decideFrom item engine request input) (decideFrom item' engine' request input) := by
  unfold decideFrom
  apply Kept.bind
  · unfold cachedFrom
    by_cases hconsistent : request.FullyConsistent
    · rw [if_pos hconsistent, if_pos hconsistent]
      exact .refl _
    · rcases hread hconsistent with ⟨cached, hcached⟩
      rw [if_neg hconsistent, if_neg hconsistent, hcached, h.decisionGet cached hcached]
      exact h.makeKey.bind fun _ _ => .refl _
  · intro cached _
    rcases cached with _ | cached
    · exact hengine.bind fun _ _ => .refl _
    · exact .refl _

/-- Without, there still is one: what the cache says, or what the engine said. -/
theorem ItemCalls.Repaired.decides {engine : Except Failure KeyNetraEngine}
    {request : AuthorizeRequest} {input : AuthorizationInput} (h : item.Repaired item')
    (hdecided : ∃ answer, decideFrom item engine request input = .ok answer)
    (hmissed : ¬ item.CacheRead request) :
    ∃ answer, decideFrom item' engine request input = .ok answer := by
  rcases hdecided with ⟨answer, hanswer⟩
  have hconsistent : ¬ request.FullyConsistent := fun hfull => hmissed fun hnot => absurd hfull hnot
  have hfailed : safely item.decisionGet = none := by
    rcases hget : item.decisionGet with e | cached
    · rfl
    · exact absurd (fun _ => ⟨cached, hget⟩) hmissed
  unfold decideFrom cachedFrom at hanswer ⊢
  rw [if_neg hconsistent, hfailed] at hanswer
  rw [if_neg hconsistent]
  rcases Lib.bind_eq_ok.mp hanswer with ⟨cached, hcached, hevaluated⟩
  rcases Lib.bind_eq_ok.mp hcached with ⟨key, hkey, hnone⟩
  rw [← Except.ok.inj hnone] at hevaluated
  rw [h.makeKey key hkey, Lib.ok_bind, Lib.ok_bind]
  rcases (safely item'.decisionGet).join with _ | cached
  · exact ⟨answer, hevaluated⟩
  · exact ⟨_, rfl⟩

/-! ## Calls that come through -/

/-- The call has returned. -/
def Returned (call : Except Failure α) : Prop := ∃ a, call = .ok a

/-- The process has the graph of the tenant, or finds no model, or one that compiles. -/
def ItemCalls.GraphComes (calls : ItemCalls) (memory : ProcessMemory) (tenantKey : String) :
    Prop :=
  memory.graphs tenantKey = none → ∃ found, calls.model = .ok found ∧
    ∀ record, found = some record →
      ∃ compiled, compileSchemaText record.schemaText = .ok compiled

/-- The calls of a rebuild return. -/
def ItemCalls.RebuildComes (calls : ItemCalls) : Prop :=
  (∃ cached, calls.aclGet = .ok cached ∧
    (cached = none → Returned calls.aclFind ∧ Returned calls.aclSet)) ∧
  Returned calls.objectList ∧ Returned calls.indexSet

/-- The index cache is read, and what it does not have the indexer remembers or rebuilds. -/
def ItemCalls.IndexComes (calls : ItemCalls) (memory : ProcessMemory) (l : Lookup) : Prop :=
  ∃ cached, calls.indexGet = .ok cached ∧
    (cached = none → memory.indexed l = none → calls.RebuildComes)

/-- The decision key is made, and what the cache does not answer the engine does. -/
def ItemCalls.DecisionComes (calls : ItemCalls) (engine : KeyNetraEngine)
    (request : AuthorizeRequest) (input : AuthorizationInput) : Prop :=
  (¬ request.FullyConsistent → Returned calls.makeKey) ∧
    ((¬ request.FullyConsistent → ∀ cached, calls.decisionGet ≠ .ok (some cached)) →
      ∃ decision, engine.decide input = .ok decision)

/-- The calls of an item come through, when it is not answered from the memo. -/
def ComesThrough (ready : ReadyBatch) (batch : BatchRequest) (calls : Nat → ItemCalls)
    (s : LoopState) (x : BatchItem × Nat) : Prop :=
  let request := ready.single batch x.1
  let memory := (calls x.2).meanwhile s.memory
  s.answered? x.1.action (Value.dict x.1.resource).sorted (Value.dict batch.context).sorted = none →
    (calls x.2).GraphComes memory request.tenantKey ∧
    ((request.lookup ready.tenant.id).Identified →
      (calls x.2).IndexComes memory (request.lookup ready.tenant.id)) ∧
    ∀ input memory', inputFrom (calls x.2) s.memory ready.tenant.id ready.user request =
        .ok (input, memory') →
      (calls x.2).DecisionComes ready.engine request input

omit [PyRuntime] in
theorem rebuildFrom_returns_iff {l : Lookup} :
    Returned (rebuildFrom item l) ↔ item.RebuildComes := by
  unfold rebuildFrom ItemCalls.RebuildComes Returned
  constructor
  · rintro ⟨entries, h⟩
    rcases Lib.bind_eq_ok.mp h with ⟨aclEntries, hacl, hrest⟩
    rcases Lib.bind_eq_ok.mp hrest with ⟨rows, hrows, hstored⟩
    rcases Lib.bind_eq_ok.mp hstored with ⟨_, hset, -⟩
    refine ⟨?_, ⟨rows, hrows⟩, ⟨_, hset⟩⟩
    rcases Lib.bind_eq_ok.mp hacl with ⟨cached, hcached, hfound⟩
    refine ⟨cached, hcached, ?_⟩
    rintro rfl
    rcases Lib.bind_eq_ok.mp hfound with ⟨found, hfind, haclset⟩
    rcases Lib.bind_eq_ok.mp haclset with ⟨_, haclset, -⟩
    exact ⟨⟨found, hfind⟩, ⟨_, haclset⟩⟩
  · rintro ⟨⟨cached, hcached, hmissed⟩, ⟨rows, hrows⟩, ⟨_, hset⟩⟩
    rw [hcached, Lib.ok_bind, hrows, hset]
    rcases cached with _ | aclEntries
    · rcases hmissed rfl with ⟨⟨found, hfind⟩, ⟨_, haclset⟩⟩
      dsimp only
      rw [hfind, haclset]
      exact ⟨_, rfl⟩
    · exact ⟨_, rfl⟩

omit [PyRuntime] in
theorem indexFrom_returns_iff {memory : ProcessMemory} {l : Lookup} :
    Returned (indexFrom item memory l) ↔ item.IndexComes memory l := by
  unfold indexFrom ItemCalls.IndexComes Returned
  constructor
  · rintro ⟨found, h⟩
    rcases Lib.bind_eq_ok.mp h with ⟨cached, hcached, hrest⟩
    refine ⟨cached, hcached, ?_⟩
    rintro rfl hmemo
    simp only [hmemo] at hrest
    rcases Lib.bind_eq_ok.mp hrest with ⟨entries, hentries, -⟩
    exact rebuildFrom_returns_iff.mp ⟨entries, hentries⟩
  · rintro ⟨cached, hcached, hmissed⟩
    rw [hcached, Lib.ok_bind]
    rcases cached with _ | entries
    · dsimp only
      rcases hmemo : memory.indexed l with _ | entries
      · rcases rebuildFrom_returns_iff.mpr (hmissed rfl hmemo) with ⟨entries, hentries⟩
        dsimp only
        rw [hentries]
        exact ⟨_, rfl⟩
      · exact ⟨_, rfl⟩
    · exact ⟨_, rfl⟩

theorem graphFrom_returns_iff {memory : ProcessMemory} {tenantKey : String} :
    Returned (graphFrom item memory tenantKey) ↔ item.GraphComes memory tenantKey := by
  unfold graphFrom ItemCalls.GraphComes Returned
  -- a graph in memory needs no call
  rcases hgraph : memory.graphs tenantKey with _ | graph
  · dsimp only
    constructor
    · rintro ⟨found, h⟩ -
      rcases Lib.bind_eq_ok.mp h with ⟨model, hmodel, hrest⟩
      refine ⟨model, hmodel, ?_⟩
      rintro record rfl
      rcases Lib.bind_eq_ok.mp hrest with ⟨compiled, hcompiled, -⟩
      rcases hschema : compileSchemaText record.schemaText with e | compiled
      · rw [hschema] at hcompiled
        cases hcompiled
      · exact ⟨compiled, rfl⟩
    · intro h
      rcases h rfl with ⟨model, hmodel, hcompiles⟩
      rw [hmodel, Lib.ok_bind]
      rcases model with _ | record
      · exact ⟨_, rfl⟩
      · rcases hcompiles record rfl with ⟨compiled, hcompiled⟩
        dsimp only
        rw [hcompiled]
        exact ⟨_, rfl⟩
  · constructor
    · intro _ hnone
      cases hnone
    · intro _
      exact ⟨_, rfl⟩

/-- Looking for the graph leaves the memo of the indexer as it is. -/
theorem graphFrom_indexComes {memory memory' : ProcessMemory} {tenantKey : String} {l : Lookup}
    {graph : Option CompiledPermissionGraph}
    (h : graphFrom item memory tenantKey = .ok (graph, memory')) :
    item.IndexComes memory' l ↔ item.IndexComes memory l := by
  have hindexed : memory'.indexed = memory.indexed := by
    unfold graphFrom at h
    rcases hgraph : memory.graphs tenantKey with _ | stored
    · simp only [hgraph] at h
      rcases Lib.bind_eq_ok.mp h with ⟨model, -, hrest⟩
      rcases model with _ | record
      · cases hrest
        rfl
      · rcases Lib.bind_eq_ok.mp hrest with ⟨compiled, -, hstored⟩
        cases hstored
        rfl
    · simp only [hgraph] at h
      cases h
      rfl
  unfold ItemCalls.IndexComes
  rw [hindexed]

theorem decideFrom_returns_iff {engine : KeyNetraEngine} {request : AuthorizeRequest}
    {input : AuthorizationInput} :
    Returned (decideFrom item (.ok engine) request input) ↔
      item.DecisionComes engine request input := by
  -- what follows the cache, by what it answered
  have hevaluated : Returned (do
        let decision ← (engine.decide input).mapError PyError.failure
        .ok (decision, false)) ↔ ∃ decision, engine.decide input = .ok decision := by
    rcases engine.decide input with e | decision
    · constructor
      · rintro ⟨answer, hanswer⟩
        cases hanswer
      · rintro ⟨decision, hdecision⟩
        cases hdecision
    · exact ⟨fun _ => ⟨decision, rfl⟩, fun _ => ⟨(decision, false), rfl⟩⟩
  unfold ItemCalls.DecisionComes decideFrom cachedFrom
  by_cases hconsistent : request.FullyConsistent
  · rw [if_pos hconsistent, Lib.ok_bind]
    refine hevaluated.trans ?_
    constructor
    · intro hdecides
      exact ⟨fun hnot => absurd hconsistent hnot, fun _ => hdecides⟩
    · rintro ⟨-, hdecides⟩
      exact hdecides fun hnot => absurd hconsistent hnot
  · rw [if_neg hconsistent]
    rcases hkey : item.makeKey with e | key
    · constructor
      · rintro ⟨answer, hanswer⟩
        cases hanswer
      · rintro ⟨hmade, -⟩
        rcases hmade hconsistent with ⟨key, hmade⟩
        cases hmade
    · rw [Lib.ok_bind, Lib.ok_bind]
      have hmade : ¬ request.FullyConsistent → Returned (.ok key : Except Failure String) :=
        fun _ => ⟨key, rfl⟩
      rcases hget : item.decisionGet with e | cached
      · refine hevaluated.trans ?_
        constructor
        · exact fun hdecides => ⟨hmade, fun _ => hdecides⟩
        · rintro ⟨-, hdecides⟩
          exact hdecides fun _ cached hcached => by cases hcached
      · rcases cached with _ | cached
        · refine hevaluated.trans ?_
          constructor
          · exact fun hdecides => ⟨hmade, fun _ => hdecides⟩
          · rintro ⟨-, hdecides⟩
            exact hdecides fun _ cached hcached => by cases hcached
        · constructor
          · intro _
            exact ⟨hmade, fun hmissed => absurd rfl (hmissed hconsistent cached)⟩
          · intro _
            exact ⟨_, rfl⟩

/-! ## Degrading -/

/-- The input of a single request is built, and decided. -/
def Completes (settings : Settings) (calls : RequestCalls) (item : ItemCalls)
    (memory : ProcessMemory) (request : AuthorizeRequest) : Prop :=
  ∃ input tenant, builtFrom calls item memory request = .ok (input, tenant) ∧
    Returned (decideFrom item (engineFrom settings calls (policySetKey request.policySet))
      request input)

/-- A single request is denied where its evaluation did not complete, and where its own calls
were answered it is decided so whatever the failing calls would have returned. -/
structure SingleDegrades (settings : Settings) (calls : RequestCalls) (item : ItemCalls)
    (memory : ProcessMemory) (request : AuthorizeRequest) : Prop where
  denied : ¬ Completes settings calls item memory request →
    (authorizeFrom settings calls item memory request).decision.allowed = false
  undisturbed : Completes settings calls item memory request →
    calls.Answered request.user request.policySet → item.CacheRead request →
    ∀ calls' item', calls.Repaired calls' → item.Repaired item' →
      (authorizeFrom settings calls' item' memory request).decision =
        (authorizeFrom settings calls item memory request).decision

/-- The items of a batch up to a position are evaluated. -/
def Evaluated (settings : Settings) (calls : BatchCalls) (memory : ProcessMemory)
    (batch : BatchRequest) (k : Nat) : Prop :=
  ∃ ready, readyFrom settings calls.shared batch = .ok ready ∧
    Lib.Returns (answerFrom ready batch calls.item) ⟨memory, []⟩ (batch.items.zipIdx.take (k + 1))

/-- Two items that share one answer. -/
def BatchItem.AsksAs (item item' : BatchItem) : Prop :=
  item.action = item'.action ∧
    (Value.dict item.resource).sorted = (Value.dict item'.resource).sorted

structure BatchCalls.Repaired (calls calls' : BatchCalls) : Prop where
  shared : calls.shared.Repaired calls'.shared
  item : ∀ position, (calls.item position).Repaired (calls'.item position)

/-- The calls an item's answer comes from were answered: those all items share, and those made
for the items that ask the same. -/
def BatchCalls.OwnAnswered (calls : BatchCalls) (batch : BatchRequest) (item : BatchItem) : Prop :=
  calls.shared.Answered batch.user batch.policySet ∧
    ∀ x ∈ batch.items.zipIdx, x.1.AsksAs item → (calls.item x.2).CacheRead (batch.single x.1)

/-- A batch returns one result an item. An item whose evaluation did not complete is denied,
and one whose own calls were answered is decided so whatever the failing calls would have
returned. -/
def BatchDegrades (settings : Settings) (calls : BatchCalls) (memory : ProcessMemory)
    (batch : BatchRequest) : Prop :=
  ∃ results, authorizeBatchFrom settings calls memory batch = .ok results ∧
    results.length = batch.items.length ∧
    ∀ (k : Nat) item result, batch.items[k]? = some item → results[k]? = some result →
      (¬ Evaluated settings calls memory batch k → result.decision.allowed = false) ∧
      (Evaluated settings calls memory batch k → calls.OwnAnswered batch item →
        ∀ calls', calls.Repaired calls' →
          ∃ (results' : List AuthorizationResult) (result' : AuthorizationResult),
            authorizeBatchFrom settings calls' memory batch = .ok results' ∧
            results'[k]? = some result' ∧ result'.decision = result.decision)

/-- The failures stay contained: what the items share fails with an exception that the clause
lists, or comes through, and then so do the calls of each item in turn. -/
def Contained (settings : Settings) (calls : BatchCalls) (memory : ProcessMemory)
    (batch : BatchRequest) : Prop :=
  (∃ e, readyFrom settings calls.shared batch = .error e ∧ e.kind = .listed) ∨
    ∃ ready, readyFrom settings calls.shared batch = .ok ready ∧
      Lib.Along (fun s x => (answerFrom ready batch calls.item s x).2)
        (ComesThrough ready batch calls.item) ⟨memory, []⟩ batch.items.zipIdx

variable {settings : Settings} {memory : ProcessMemory} {request : AuthorizeRequest}
  {batch : BatchRequest} {ready : ReadyBatch}

/-- The fallback of a service that fails closed and does not evaluate its default policies. -/
theorem fallback_denies (hmode : settings.resilienceMode = "fail_closed")
    (hbehavior : settings.resilienceFallbackBehavior = "static") (input : AuthorizationInput)
    (reason : String) : (fallbackDecision settings input reason).allowed = false := by
  have hstatic : pyLower (pyStrip (orText (some "static") "static")) ≠ "default_policy_eval" := by
    decide
  have hclosed : pyLower (pyStrip (orText (some "fail_closed") "fail_closed")) ≠ "fail_open" := by
    decide
  unfold fallbackDecision staticFallback
  rw [hmode, hbehavior]
  dsimp only
  rw [if_neg hstatic, if_neg hclosed]
  rfl

/-! ### A single request -/

theorem authorizeFrom_completed {input : AuthorizationInput} {tenant : TenantRecord}
    {answer : AuthorizationDecision × Bool}
    (hbuilt : builtFrom calls item memory request = .ok (input, tenant))
    (hdecided : decideFrom item (engineFrom settings calls (policySetKey request.policySet))
      request input = .ok answer) :
    authorizeFrom settings calls item memory request =
      ⟨answer.1, answer.2, tenant.revision⟩ := by
  unfold authorizeFrom
  rw [hbuilt]
  dsimp only
  rw [hdecided]

theorem builtFrom_kept (hcalls : calls.Repaired calls') (hitem : item.Repaired item')
    (hanswered : calls.Answered request.user request.policySet) :
    Kept (builtFrom calls item memory request) (builtFrom calls' item' memory request) := by
  apply (Kept.refl _).bind
  intro _ _
  apply hcalls.tenant.bind
  intro tenant _
  apply (hcalls.hydrate hanswered.1).bind
  intro user _
  exact (hitem.input memory tenant.id user request).bind fun _ _ => .refl _

theorem single_degrades (hmode : settings.resilienceMode = "fail_closed")
    (hbehavior : settings.resilienceFallbackBehavior = "static") (calls : RequestCalls)
    (item : ItemCalls) (memory : ProcessMemory) (request : AuthorizeRequest) :
    SingleDegrades settings calls item memory request := by
  constructor
  · intro hstopped
    unfold authorizeFrom
    rcases hbuilt : builtFrom calls item memory request with e | ⟨input, tenant⟩
    · dsimp only
      exact fallback_denies hmode hbehavior _ _
    · dsimp only
      rcases hdecided : decideFrom item
        (engineFrom settings calls (policySetKey request.policySet)) request input with e | answer
      · dsimp only
        exact fallback_denies hmode hbehavior _ _
      · exact absurd ⟨input, tenant, hbuilt, answer, hdecided⟩ hstopped
  · rintro ⟨input, tenant, hbuilt, answer, hdecided⟩ hanswered hread calls' item' hcalls hitem
    have hengine := @RequestCalls.Repaired.engine _ _ _ hcalls settings
      (policySetKey request.policySet) hanswered.2.1 hanswered.2.2
    have hbuilt' := builtFrom_kept hcalls hitem hanswered _ hbuilt
    have hdecided' := hitem.decide hengine hread input _ hdecided
    rw [authorizeFrom_completed hbuilt hdecided, authorizeFrom_completed hbuilt' hdecided']

/-! ### A batch -/

theorem inputFrom_returns_iff {item : ItemCalls} {tenantId : Int} {user : Dict} :
    Returned (inputFrom item memory tenantId user request) ↔
      item.GraphComes (item.meanwhile memory) request.tenantKey ∧
      ((request.lookup tenantId).Identified →
        item.IndexComes (item.meanwhile memory) (request.lookup tenantId)) := by
  unfold inputFrom
  constructor
  · rintro ⟨input, h⟩
    rcases Lib.bind_eq_ok.mp h with ⟨⟨graph, memory'⟩, hgraph, hrest⟩
    rcases Lib.bind_eq_ok.mp hrest with ⟨⟨entries, memory''⟩, hentries, -⟩
    refine ⟨graphFrom_returns_iff.mp ⟨_, hgraph⟩, ?_⟩
    intro hidentified
    unfold resourceIndexFrom at hentries
    rw [if_pos hidentified] at hentries
    rw [← graphFrom_indexComes hgraph]
    exact indexFrom_returns_iff.mp ⟨_, hentries⟩
  · rintro ⟨hgraph, hindex⟩
    rcases graphFrom_returns_iff.mpr hgraph with ⟨⟨graph, memory'⟩, hgraph⟩
    rw [hgraph, Lib.ok_bind]
    dsimp only
    unfold resourceIndexFrom
    -- no index is asked for a resource without an id
    by_cases hidentified : (request.lookup tenantId).Identified
    · have hcomes := hindex hidentified
      rw [← graphFrom_indexComes hgraph] at hcomes
      rcases indexFrom_returns_iff.mpr hcomes with ⟨found, hfound⟩
      rw [if_pos hidentified, hfound]
      exact ⟨_, rfl⟩
    · rw [if_neg hidentified]
      exact ⟨_, rfl⟩

theorem evaluateFrom_returns_iff {item : ItemCalls} {asked : BatchItem} :
    Returned (evaluateFrom ready batch item memory asked) ↔
      item.GraphComes (item.meanwhile memory) (ready.single batch asked).tenantKey ∧
      (((ready.single batch asked).lookup ready.tenant.id).Identified →
        item.IndexComes (item.meanwhile memory)
          ((ready.single batch asked).lookup ready.tenant.id)) ∧
      ∀ input memory', inputFrom item memory ready.tenant.id ready.user
          (ready.single batch asked) = .ok (input, memory') →
        item.DecisionComes ready.engine (ready.single batch asked) input := by
  rw [← and_assoc, ← inputFrom_returns_iff]
  unfold evaluateFrom
  constructor
  · -- it returns, so the input came, and then the decision
    rintro ⟨answer, h⟩
    rcases Lib.bind_eq_ok.mp h with ⟨⟨input, memory'⟩, hinput, hrest⟩
    rcases Lib.bind_eq_ok.mp hrest with ⟨decided, hdecided, -⟩
    refine ⟨⟨_, hinput⟩, ?_⟩
    intro input' memory'' hinput'
    rw [hinput] at hinput'
    cases hinput'
    exact decideFrom_returns_iff.mp ⟨decided, hdecided⟩
  · -- both come
    rintro ⟨⟨⟨input, memory'⟩, hinput⟩, hdecides⟩
    rcases decideFrom_returns_iff.mpr (hdecides input memory' hinput) with ⟨decided, hdecided⟩
    dsimp only
    rw [hinput, Lib.ok_bind]
    dsimp only
    rw [hdecided]
    exact ⟨_, rfl⟩

/-- An item returns exactly when its calls come through. -/
theorem answerFrom_returns_iff {item : Nat → ItemCalls} {s : LoopState} {x : BatchItem × Nat}
    (hvalid : validateResource x.1.resource = .ok ()) :
    (∃ result, (answerFrom ready batch item s x).1 = .ok result) ↔
      ComesThrough ready batch item s x := by
  rcases x with ⟨asked, position⟩
  unfold ComesThrough answerFrom
  dsimp only at hvalid ⊢
  rw [hvalid]
  dsimp only
  -- an answered question needs no call
  rcases s.answered? asked.action (Value.dict asked.resource).sorted
    (Value.dict batch.context).sorted with _ | a
  · dsimp only
    have hevaluated := @evaluateFrom_returns_iff _ s.memory batch ready (item position) asked
    constructor
    · rintro ⟨result, hresult⟩ -
      rw [← hevaluated]
      rcases hanswer : evaluateFrom ready batch (item position) s.memory asked with e | answer
      · rw [hanswer] at hresult
        cases hresult
      · exact ⟨answer, rfl⟩
    · intro hcomes
      rcases hevaluated.mpr (hcomes rfl) with ⟨answer, hanswer⟩
      rw [hanswer]
      exact ⟨_, rfl⟩
  · constructor
    · intro _ hnone
      cases hnone
    · intro _
      exact ⟨_, rfl⟩

/-- The evaluation of an item with some calls repaired: it returns, leaves the process with the
same memory, and with its decision cache read it decides the same. -/
theorem evaluateFrom_repaired {asked : BatchItem} {answer : AuthorizationDecision × Bool}
    {memory' : ProcessMemory} (h : item.Repaired item')
    (hevaluated : evaluateFrom ready batch item memory asked = .ok (answer, memory')) :
    ∃ answer', evaluateFrom ready batch item' memory asked = .ok (answer', memory') ∧
      (item.CacheRead (ready.single batch asked) → answer' = answer) := by
  unfold evaluateFrom at hevaluated ⊢
  dsimp only at hevaluated ⊢
  rcases Lib.bind_eq_ok.mp hevaluated with ⟨⟨input, memory''⟩, hinput, hrest⟩
  rcases Lib.bind_eq_ok.mp hrest with ⟨decided, hdecided, hanswer⟩
  cases hanswer
  rw [h.input memory ready.tenant.id ready.user _ _ hinput, Lib.ok_bind]
  dsimp only
  by_cases hread : item.CacheRead (ready.single batch asked)
  · have hkept := h.decide (.refl (.ok ready.engine)) hread input answer hdecided
    rw [hkept]
    exact ⟨answer, rfl, fun _ => rfl⟩
  · rcases h.decides ⟨answer, hdecided⟩ hread with ⟨answer', hanswer'⟩
    rw [hanswer']
    exact ⟨answer', rfl, fun hnot => absurd hnot hread⟩

/-- Two loops over the items, the second with some calls repaired: they remember the same, have
answered the same questions, and alike where the calls of a question were answered. -/
structure LoopState.Follows (calls : BatchCalls) (batch : BatchRequest) (s t : LoopState) :
    Prop where
  memory : t.memory = s.memory
  asked : ∀ item : BatchItem,
    t.answered? item.action (Value.dict item.resource).sorted (Value.dict batch.context).sorted =
        none ↔
      s.answered? item.action (Value.dict item.resource).sorted (Value.dict batch.context).sorted =
        none
  decided : ∀ item : BatchItem, calls.OwnAnswered batch item →
    (t.answered? item.action (Value.dict item.resource).sorted
        (Value.dict batch.context).sorted).map AnsweredItem.decision =
      (s.answered? item.action (Value.dict item.resource).sorted
        (Value.dict batch.context).sorted).map AnsweredItem.decision

omit [PyRuntime] in
/-- Finding an item once another one is answered. -/
theorem answered?_cons (memory : ProcessMemory) (a : AnsweredItem) (answered : List AnsweredItem)
    (action : String) (resource context : Value) :
    (LoopState.mk memory (a :: answered)).answered? action resource context =
      if a.action = action && a.resource.same resource && a.context.same context then some a
      else (LoopState.mk memory answered).answered? action resource context := by
  unfold LoopState.answered?
  rw [List.find?_cons]
  split
  · rename_i hfound
    rw [if_pos hfound]
  · rename_i hmissed
    rw [if_neg (by rw [hmissed]; exact Bool.false_ne_true)]

omit [PyRuntime] in
/-- Both loops have answered one more question. -/
theorem LoopState.Follows.remember {s t : LoopState} {calls : BatchCalls}
    (h : s.Follows calls batch t) (memory : ProcessMemory) {a a' : AnsweredItem} {asked : BatchItem}
    (ha : a.action = asked.action ∧ a.resource = (Value.dict asked.resource).sorted ∧
      a.context = (Value.dict batch.context).sorted)
    (ha' : a'.action = asked.action ∧ a'.resource = (Value.dict asked.resource).sorted ∧
      a'.context = (Value.dict batch.context).sorted)
    (hsame : ∀ item, calls.OwnAnswered batch item → asked.AsksAs item → a'.decision = a.decision) :
    LoopState.Follows calls batch ⟨memory, a :: s.answered⟩ ⟨memory, a' :: t.answered⟩ := by
  obtain ⟨haction, hresource, hcontext⟩ := ha
  obtain ⟨haction', hresource', hcontext'⟩ := ha'
  constructor
  · rfl
  · intro item
    rw [answered?_cons, answered?_cons, haction, hresource, hcontext, haction', hresource',
      hcontext']
    split
    · -- the item just asked is remembered on both sides
      exact iff_of_false (Option.some_ne_none _) (Option.some_ne_none _)
    · exact h.asked item
  · intro item hanswered
    rw [answered?_cons, answered?_cons, haction, hresource, hcontext, haction', hresource',
      hcontext']
    split
    · rename_i hmatch
      rw [Bool.and_eq_true, Bool.and_eq_true, decide_eq_true_eq] at hmatch
      have hasks : asked.AsksAs item := ⟨hmatch.1.1, Value.eq_of_same hmatch.1.2⟩
      -- with the decision that it got
      exact congrArg some (hsame item hanswered hasks)
    · exact h.decided item hanswered

theorem LoopState.Follows.answer {calls calls' : BatchCalls} {s t : LoopState}
    (hrepaired : calls.Repaired calls') {x : BatchItem × Nat} (hx : x ∈ batch.items.zipIdx)
    (h : s.Follows calls batch t) {result : AuthorizationResult}
    (hresult : (answerFrom ready batch calls.item s x).1 = .ok result) :
    ∃ result', (answerFrom ready batch calls'.item t x).1 = .ok result' ∧
      (calls.OwnAnswered batch x.1 → result'.decision = result.decision) ∧
      (answerFrom ready batch calls.item s x).2.Follows calls batch
        (answerFrom ready batch calls'.item t x).2 := by
  rcases x with ⟨asked, position⟩
  have hasked := h.asked asked
  have hdecided := h.decided asked
  unfold answerFrom at hresult ⊢
  dsimp only at hresult ⊢
  rcases hvalid : validateResource asked.resource with e | ⟨⟩
  · rw [hvalid] at hresult
    cases hresult
  · rw [hvalid] at hresult
    dsimp only at hresult ⊢
    -- both loops have answered the question before, or neither
    rcases hfound : s.answered? asked.action (Value.dict asked.resource).sorted
      (Value.dict batch.context).sorted with _ | a
    · rw [hfound] at hresult hasked
      rw [hasked.mpr rfl]
      dsimp only at hresult ⊢
      rw [h.memory]
      rcases hevaluated : evaluateFrom ready batch (calls.item position) s.memory asked with
        e | ⟨answer, memory'⟩
      · rw [hevaluated] at hresult
        cases hresult
      · rw [hevaluated] at hresult
        rcases evaluateFrom_repaired (hrepaired.item position) hevaluated with
          ⟨answer', hanswer', hsame⟩
        rw [hanswer']
        have hown : calls.OwnAnswered batch asked → answer' = answer := fun hanswered =>
          hsame (hanswered.2 _ hx ⟨rfl, rfl⟩)
        refine ⟨_, rfl, ?_, ?_⟩
        · intro hanswered
          rw [← Except.ok.inj hresult, hown hanswered]
        · apply h.remember memory' ⟨rfl, rfl, rfl⟩ ⟨rfl, rfl, rfl⟩
          intro item hanswered hasks
          exact congrArg Prod.fst (hsame (hanswered.2 _ hx hasks))
    · rw [hfound] at hresult hasked hdecided
      rcases hfound' : t.answered? asked.action (Value.dict asked.resource).sorted
        (Value.dict batch.context).sorted with _ | a'
      · rw [hfound'] at hasked
        cases hasked.mp rfl
      · rw [hfound'] at hdecided
        refine ⟨_, rfl, ?_, h⟩
        intro hanswered
        rw [← Except.ok.inj hresult]
        exact Option.some.inj (hdecided hanswered)

/-- The part of a batch inside its `try`, with some calls repaired. -/
theorem readyFrom_kept {calls calls' : RequestCalls} (h : calls.Repaired calls')
    (hanswered : calls.Answered batch.user batch.policySet) :
    Kept (readyFrom settings calls batch) (readyFrom settings calls' batch) := by
  apply h.tenant.bind
  intro tenant _
  apply (h.hydrate hanswered.1).bind
  intro user _
  exact (h.engine settings hanswered.2.1 hanswered.2.2).bind fun _ _ => .refl _

theorem authorizeBatchFrom_ready {calls : BatchCalls} (huser : validateUser batch.user = .ok ())
    (hready : readyFrom settings calls.shared batch = .ok ready) :
    authorizeBatchFrom settings calls memory batch =
      (Lib.thread (answerFrom ready batch calls.item) ⟨memory, []⟩ batch.items.zipIdx).1 := by
  unfold authorizeBatchFrom
  rw [huser, hready]
  rfl

/-- A batch whose shared part comes through returns exactly when each item does. -/
theorem batch_returns_iff {calls : BatchCalls}
    (hitems : ∀ item ∈ batch.items, validateResource item.resource = .ok ()) :
    Lib.Returns (answerFrom ready batch calls.item) ⟨memory, []⟩ batch.items.zipIdx ↔
      Lib.Along (fun s x => (answerFrom ready batch calls.item s x).2)
        (ComesThrough ready batch calls.item) ⟨memory, []⟩ batch.items.zipIdx := by
  have hvalid : ∀ x ∈ batch.items.zipIdx, validateResource x.1.resource = .ok () := by
    rintro ⟨item, k⟩ hx
    exact hitems item (List.mem_of_getElem? (List.mem_zipIdx_iff_getElem?.mp hx))
  rw [Lib.returns_iff_along]
  constructor
  · intro h
    apply (h.and_forall hvalid).mono
    rintro s x ⟨hreturns, hx⟩
    exact (answerFrom_returns_iff hx).mp hreturns
  · intro h
    apply (h.and_forall hvalid).mono
    rintro s x ⟨hcomes, hx⟩
    exact (answerFrom_returns_iff hx).mpr hcomes

/-- Where nothing is evaluated, the clause answers all items, or lets the exception out. -/
theorem unready_degrades_iff (hmode : settings.resilienceMode = "fail_closed")
    (hbehavior : settings.resilienceFallbackBehavior = "static") {calls : BatchCalls}
    (huser : validateUser batch.user = .ok ()) {e : Failure}
    (hready : readyFrom settings calls.shared batch = .error e) :
    BatchDegrades settings calls memory batch ↔ e.kind = .listed := by
  have hrun : authorizeBatchFrom settings calls memory batch = if e.kind = .listed then
      .ok (batch.items.map fun item => ⟨fallbackDecision settings
        (batch.single item).fallbackInput "authorization backend unavailable", false, 1⟩)
    else .error e := by
    unfold authorizeBatchFrom
    rw [huser, hready]
    rfl
  constructor
  · rintro ⟨results, hresults, -⟩
    by_contra hother
    rw [hrun, if_neg hother] at hresults
    cases hresults
  · intro hlisted
    rw [if_pos hlisted] at hrun
    refine ⟨_, hrun, List.length_map _, ?_⟩
    intro k item result hitem hresult
    constructor
    · -- every item gets the fallback, which denies
      intro _
      rw [List.getElem?_map, hitem, Option.map_some] at hresult
      rw [← Option.some.inj hresult]
      dsimp only
      exact fallback_denies hmode hbehavior _ _
    · rintro ⟨ready, hsome, -⟩
      rw [hready] at hsome
      cases hsome

/-- The answers of a batch that comes through stay the ones of items whose calls were
answered, whatever calls are repaired. -/
theorem answers_kept {calls calls' : BatchCalls} (huser : validateUser batch.user = .ok ())
    (hready : readyFrom settings calls.shared batch = .ok ready) (hrepaired : calls.Repaired calls')
    {results : List AuthorizationResult} (hresults : (Lib.thread
      (fun s x => answerFrom ready batch calls.item s x) ⟨memory, []⟩ batch.items.zipIdx).1 =
        .ok results)
    {k : Nat} {item : BatchItem} {result : AuthorizationResult} (hitem : batch.items[k]? = some item)
    (hresult : results[k]? = some result) (hanswered : calls.OwnAnswered batch item) :
    ∃ (results' : List AuthorizationResult) (result' : AuthorizationResult),
      authorizeBatchFrom settings calls' memory batch = .ok results' ∧
      results'[k]? = some result' ∧ result'.decision = result.decision := by
  have hready' := readyFrom_kept hrepaired.shared hanswered.1 ready hready
  have hrun' := @authorizeBatchFrom_ready _ settings memory batch ready calls' huser hready'
  have hstart : LoopState.Follows calls batch ⟨memory, []⟩ ⟨memory, []⟩ :=
    ⟨rfl, fun _ => Iff.rfl, fun _ _ => rfl⟩
  rcases Lib.thread_related (fun s t x result hx hs => hs.answer hrepaired hx) hstart
    hresults with ⟨results', hresults', hagree⟩
  have hx : batch.items.zipIdx[k]? = some (item, k) := by
    rw [List.getElem?_zipIdx, hitem, Nat.zero_add]
    rfl
  rcases hagree k (item, k) result hx hresult with ⟨result', hresult', hsame⟩
  exact ⟨results', result', hrun'.trans hresults', hresult', hsame hanswered⟩

/-- Where the items are evaluated, each has to come through in turn. -/
theorem ready_degrades_iff {calls : BatchCalls} (huser : validateUser batch.user = .ok ())
    (hitems : ∀ item ∈ batch.items, validateResource item.resource = .ok ())
    (hready : readyFrom settings calls.shared batch = .ok ready) :
    BatchDegrades settings calls memory batch ↔
      Lib.Along (fun s x => (answerFrom ready batch calls.item s x).2)
        (ComesThrough ready batch calls.item) ⟨memory, []⟩ batch.items.zipIdx := by
  have hrun := @authorizeBatchFrom_ready _ settings memory batch ready calls huser hready
  constructor
  · rintro ⟨results, hresults, -⟩
    apply (batch_returns_iff hitems).mp
    rw [hrun] at hresults
    exact Lib.thread_returns_iff.mp ⟨results, hresults⟩
  · intro hcomes
    have hreturns := (batch_returns_iff hitems).mpr hcomes
    rcases Lib.thread_returns_iff.mpr hreturns with ⟨results, hresults⟩
    have hlength := Lib.length_of_thread hresults
    rw [List.length_zipIdx] at hlength
    refine ⟨results, hrun.trans hresults, hlength, ?_⟩
    intro k item result hitem hresult
    constructor
    · -- every item has been reached
      intro hstopped
      exact absurd ⟨ready, hready, hreturns.take (k + 1)⟩ hstopped
    · intro _ hanswered calls' hrepaired
      exact answers_kept huser hready hrepaired hresults hitem hresult hanswered

/-- A batch degrades exactly when its failures stay contained. -/
theorem batch_degrades_iff (hmode : settings.resilienceMode = "fail_closed")
    (hbehavior : settings.resilienceFallbackBehavior = "static") (calls : BatchCalls)
    (memory : ProcessMemory) (huser : validateUser batch.user = .ok ())
    (hitems : ∀ item ∈ batch.items, validateResource item.resource = .ok ()) :
    BatchDegrades settings calls memory batch ↔ Contained settings calls memory batch := by
  unfold Contained
  rcases hready : readyFrom settings calls.shared batch with e | ready
  · rw [unready_degrades_iff hmode hbehavior huser hready]
    constructor
    · intro hlisted
      exact .inl ⟨e, rfl, hlisted⟩
    · rintro (⟨e', he, hlisted⟩ | ⟨ready, hnone, -⟩)
      · cases he
        exact hlisted
      · cases hnone
  · rw [ready_degrades_iff huser hitems hready]
    constructor
    · intro hcomes
      exact .inr ⟨ready, rfl, hcomes⟩
    · rintro (⟨e, hnone, -⟩ | ⟨ready', hsame, hcomes⟩)
      · cases hnone
      · cases hsame
        exact hcomes

/-- A single request degrades whatever its calls do; a batch, exactly when its failures stay
contained. -/
theorem degrades_iff (hmode : settings.resilienceMode = "fail_closed")
    (hbehavior : settings.resilienceFallbackBehavior = "static") (calls : BatchCalls)
    (memory : ProcessMemory) (huser : validateUser batch.user = .ok ())
    (hitems : ∀ item ∈ batch.items, validateResource item.resource = .ok ()) :
    ((∀ (alone : RequestCalls) (item : ItemCalls) (memory : ProcessMemory)
        (request : AuthorizeRequest), SingleDegrades settings alone item memory request) ∧
      BatchDegrades settings calls memory batch) ↔ Contained settings calls memory batch := by
  constructor
  · rintro ⟨-, hbatch⟩
    exact (batch_degrades_iff hmode hbehavior calls memory huser hitems).mp hbatch
  · intro hcontained
    refine ⟨?_, (batch_degrades_iff hmode hbehavior calls memory huser hitems).mpr hcontained⟩
    intro alone item memory request
    exact single_degrades hmode hbehavior alone item memory request

/-! ## The calls that a world answers -/

/-- The subject a request's relationships are listed for. -/
def AuthorizeRequest.subjectId (request : AuthorizeRequest) : String :=
  (Dict.get (withDirectPermissions request.user) "id").text

/-- How the world answers the calls made once. -/
def World.requestCalls (w : World) (request : AuthorizeRequest) : RequestCalls :=
  let tenant := w.tenant request.tenantKey
  let policySet := policySetKey (policySetKey request.policySet)
  let userId := (Dict.get (withDirectPermissions request.user) "id").int?
  let built := (buildInput w request).2
  { tenant := .ok tenant
    userContext := .ok (userId.bind (getUserContext w.db.users))
    relationshipGet := (relationshipCacheGet w.backend tenant.id "user"
      request.subjectId).mapError PyError.failure
    relationshipList := .ok (w.db.relationships.listForSubject tenant.id "user" request.subjectId)
    relationshipSet := .ok ()
    policyGet := (policyCacheGet built.backend tenant.tenantKey
      tenant.policyVersion).mapError PyError.failure
    policyList := .ok (built.db.policies.listCurrentPolicies tenant.id policySet)
    tenantPolicyList := .ok []
    policySet := .ok () }

/-- How it answers those made for the request alone. -/
def World.itemCalls (w : World) (request : AuthorizeRequest) : ItemCalls :=
  let tenant := w.tenant request.tenantKey
  let l := request.lookup tenant.id
  let hydrated := (hydrateUser (w.ensureTenant request.tenantKey) tenant.id request.user).2
  let built := (buildInput w request).2
  let key := (buildInput w request).1.toOption.bind fun (input, tenant) =>
    request.decisionKey? built.backend.counters tenant input
  { meanwhile := id
    model := .ok (getModel hydrated.db.authModels tenant.id)
    indexGet := (indexCacheGet hydrated.backend l).mapError PyError.failure
    aclGet := (aclCacheGet hydrated.backend l).mapError PyError.failure
    aclFind := .ok (hydrated.db.acl.findMatchingAcl l)
    aclSet := .ok ()
    objectList := .ok (relationshipRows hydrated.db.relationships l)
    indexSet := .ok ()
    makeKey := .ok (key.getD "")
    decisionGet := (decisionCacheGet built.backend (key.getD "")).mapError PyError.failure
    decisionSet := .ok ()
    auditWrite := .ok () }

/-- The memory of the process of a world, with a fresh indexer. -/
def World.processMemory (w : World) : ProcessMemory := ⟨w.modelGraphs, fun _ => none⟩

variable {w : World}

omit [PyRuntime] in
theorem safely_mapError (x : Except PyError α) :
    safely (x.mapError PyError.failure) = x.toOption := by
  rcases x with e | a
  · rfl
  · rfl

theorem hydrateFrom_world :
    hydrateFrom (w.requestCalls request) request.user =
      .ok (hydrateUser (w.ensureTenant request.tenantKey) (w.tenant request.tenantKey).id
        request.user).1 := by
  unfold hydrateFrom hydrateUser
  dsimp only
  rcases hid : (Dict.get (withDirectPermissions request.user) "id").int? with _ | userId
  · -- a user without an integer id is not looked up
    rfl
  · -- else its context and its relationships are those of the tables
    have hpersisted : (w.requestCalls request).userContext =
        .ok (getUserContext w.db.users userId) := by
      unfold World.requestCalls
      dsimp only
      rw [hid]
      rfl
    have hrecords : relationshipsFrom (w.requestCalls request) =
        .ok (userRelationships (w.ensureTenant request.tenantKey)
          (w.tenant request.tenantKey).id request.subjectId).1 := by
      unfold relationshipsFrom userRelationships World.requestCalls
      dsimp only [World.ensureTenant]
      rw [safely_mapError]
      rcases relationshipCacheGet w.backend (w.tenant request.tenantKey).id "user"
        request.subjectId with e | cached
      · rfl
      · rcases cached with _ | records
        · rfl
        · rfl
    rw [hpersisted, hrecords]
    rfl

/-- The world once the user is resolved. -/
def World.hydrated (w : World) (request : AuthorizeRequest) : World :=
  (hydrateUser (w.ensureTenant request.tenantKey) (w.tenant request.tenantKey).id request.user).2

theorem hydrated_modelGraphs : (w.hydrated request).modelGraphs = w.modelGraphs := by
  unfold World.hydrated hydrateUser userRelationships
  dsimp only
  split
  · rfl
  · dsimp only
    split
    · rfl
    · rfl

theorem graphFrom_world :
    graphFrom (w.itemCalls request) w.processMemory request.tenantKey =
      ((permissionGraph (w.hydrated request) (w.tenant request.tenantKey).id
        request.tenantKey).map fun found => (found.1, found.2.processMemory)).mapError
          PyError.failure := by
  have hmodel : (w.itemCalls request).model =
      .ok (getModel (w.hydrated request).db.authModels (w.tenant request.tenantKey).id) := rfl
  unfold graphFrom permissionGraph
  rw [hydrated_modelGraphs]
  rcases hgraph : w.modelGraphs request.tenantKey with _ | graph
  · -- no graph is stored: it is compiled of the model, if there is one
    have hmemory : w.processMemory.graphs request.tenantKey = none := hgraph
    rw [hmemory, hmodel, Lib.ok_bind]
    dsimp only
    rcases getModel (w.hydrated request).db.authModels (w.tenant request.tenantKey).id with
      _ | record
    · unfold World.processMemory
      dsimp only [Except.map, Except.mapError]
      rw [hydrated_modelGraphs]
    · dsimp only
      rcases compileSchemaText record.schemaText with e | compiled
      · rfl
      · unfold World.processMemory
        dsimp only [Except.map, Except.mapError, Lib.ok_bind]
  · -- the stored graph is taken as it is
    have hmemory : w.processMemory.graphs request.tenantKey = some graph := hgraph
    rw [hmemory]
    unfold World.processMemory
    dsimp only [Except.map, Except.mapError]
    rw [hydrated_modelGraphs]

/-- The index of the resource, in a world that has resolved the graph as well. -/
theorem resourceIndexFrom_world {w' : World} {memory : ProcessMemory}
    (hdb : w'.db = (w.hydrated request).db) (hbackend : w'.backend = (w.hydrated request).backend)
    (hmemory : memory.indexed = fun _ => none) :
    let l := request.lookup (w.tenant request.tenantKey).id
    (resourceIndexFrom (w.itemCalls request) memory l).map Prod.fst =
      (requestIndex w' l).1.mapError PyError.failure := by
  intro l
  unfold resourceIndexFrom requestIndex
  by_cases hidentified : l.Identified
  · rw [if_pos hidentified, if_pos hidentified, hdb, hbackend]
    -- each call answers as the stores of the world do
    have hget : (w.itemCalls request).indexGet =
        (indexCacheGet (w.hydrated request).backend l).mapError PyError.failure := rfl
    have hacl : (w.itemCalls request).aclGet =
        (aclCacheGet (w.hydrated request).backend l).mapError PyError.failure := rfl
    have hfind : (w.itemCalls request).aclFind =
        .ok ((w.hydrated request).db.acl.findMatchingAcl l) := rfl
    have hlist : (w.itemCalls request).objectList =
        .ok (relationshipRows (w.hydrated request).db.relationships l) := rfl
    have hrebuild : rebuildFrom (w.itemCalls request) l =
        (rebuildResourceIndex (w.hydrated request).db.acl (w.hydrated request).db.relationships
          (w.hydrated request).backend l).1.mapError PyError.failure := by
      unfold rebuildFrom rebuildResourceIndex
      rw [hacl, hfind, hlist]
      rcases aclCacheGet (w.hydrated request).backend l with e | cached
      · rfl
      · rcases cached with _ | records
        · rfl
        · rfl
    unfold indexFrom buildResourceIndex
    rw [hget, hrebuild]
    dsimp only
    rcases indexCacheGet (w.hydrated request).backend l with e | cached
    · rfl
    · rcases cached with _ | entries
      · have hmiss : memory.indexed l = none := by rw [hmemory]
        dsimp only [Except.mapError, Lib.ok_bind]
        rw [hmiss]
        rcases rebuildResourceIndex (w.hydrated request).db.acl
          (w.hydrated request).db.relationships (w.hydrated request).backend l with ⟨result, b⟩
        rcases result with e | entries
        · rfl
        · rfl
      · rfl
  · rw [if_neg hidentified, if_neg hidentified]
    rfl

theorem builtFrom_world :
    builtFrom (w.requestCalls request) (w.itemCalls request) w.processMemory request =
      (buildInput w request).1.mapError PyError.failure := by
  have htenant : (w.requestCalls request).tenant = .ok (w.tenant request.tenantKey) := rfl
  have hworld : (hydrateUser (w.ensureTenant request.tenantKey) (w.tenant request.tenantKey).id
      request.user).2 = w.hydrated request := rfl
  have hmeanwhile : (w.itemCalls request).meanwhile w.processMemory = w.processMemory := rfl
  unfold builtFrom buildInput inputFrom buildAuthorizationInput
  rcases request.validate with e | ⟨⟩
  · rfl
  · dsimp only [Except.mapError, Lib.ok_bind]
    rw [htenant, hmeanwhile, hydrateFrom_world, graphFrom_world, hworld]
    dsimp only [Lib.ok_bind]
    rcases hgraph : permissionGraph (w.hydrated request) (w.tenant request.tenantKey).id
      request.tenantKey with e | ⟨graph, w'⟩
    · rfl
    · -- the index is looked up behind the graph, in the world that leaves
      rcases permissionGraph_frame hgraph with ⟨hdb, hbackend⟩
      have hindex := @resourceIndexFrom_world _ request w w' w'.processMemory hdb hbackend rfl
      dsimp only [Except.map, Except.mapError, Lib.ok_bind] at hindex ⊢
      rcases hresult : requestIndex w' (request.lookup (w.tenant request.tenantKey).id) with
        ⟨result, w''⟩
      rw [hresult] at hindex
      rcases hfrom : resourceIndexFrom (w.itemCalls request) w'.processMemory
        (request.lookup (w.tenant request.tenantKey).id) with e | ⟨entries, memory'⟩
      · rw [hfrom] at hindex
        rcases result with e' | entries'
        · cases hindex
          rfl
        · cases hindex
      · rw [hfrom] at hindex
        rcases result with e' | entries'
        · cases hindex
        · cases hindex
          rfl

theorem engineFrom_world :
    engineFrom settings (w.requestCalls request) (policySetKey request.policySet) =
      (buildEngine settings (buildInput w request).2 (w.tenant request.tenantKey)
        (policySetKey request.policySet)).1.mapError PyError.failure := by
  have hget : (w.requestCalls request).policyGet =
      (policyCacheGet (buildInput w request).2.backend (w.tenant request.tenantKey).tenantKey
        (w.tenant request.tenantKey).policyVersion).mapError PyError.failure := rfl
  have hlist : policiesFrom (w.requestCalls request) =
      .ok ((buildInput w request).2.db.policies.listCurrentPolicies
        (w.tenant request.tenantKey).id (policySetKey (policySetKey request.policySet))) := rfl
  -- a failing policy cache is a miss
  have hcached : (if policySetKey (policySetKey request.policySet) = "active" then
        (safely (w.requestCalls request).policyGet).join else none) =
      cachedPolicies (buildInput w request).2 (w.tenant request.tenantKey)
        (policySetKey (policySetKey request.policySet)) := by
    unfold cachedPolicies
    split
    · rw [hget, safely_mapError]
      rcases policyCacheGet (buildInput w request).2.backend (w.tenant request.tenantKey).tenantKey
        (w.tenant request.tenantKey).policyVersion with e | cached
      · rfl
      · rcases cached with _ | records
        · rfl
        · rfl
    · rfl
  unfold engineFrom buildEngine
  dsimp only
  rw [hcached]
  rcases cachedPolicies (buildInput w request).2 (w.tenant request.tenantKey)
    (policySetKey (policySetKey request.policySet)) with _ | records
  · dsimp only
    rw [hlist, Lib.ok_bind]
  · rfl

/-- The cached decision of a resolved request. -/
theorem cachedFrom_world {input : AuthorizationInput} {tenant : TenantRecord} {built : World}
    (hbuilt : buildInput w request = (.ok (input, tenant), built)) :
    cachedFrom (w.itemCalls request) request = .ok
      ((request.decisionKey? built.backend.counters tenant input).bind
        (safeDecisionGet built.backend)) := by
  unfold cachedFrom World.itemCalls AuthorizeRequest.decisionKey?
  rw [hbuilt]
  dsimp only [Except.toOption, Option.bind_some]
  by_cases hconsistent : request.FullyConsistent
  · rw [if_pos hconsistent, if_pos hconsistent]
    rfl
  · rw [if_neg hconsistent, if_neg hconsistent, Lib.ok_bind, safely_mapError, Option.getD_some,
      Option.bind_some]
    generalize decisionCacheKey built.backend.counters
      (cacheNamespace tenant (policySetKey request.policySet)) tenant.policyVersion
      (request.revision.getD tenant.revision) input = key
    unfold safeDecisionGet
    rcases decisionCacheGet built.backend key with e | cached
    · rfl
    · rcases cached with _ | cached
      · rfl
      · rfl

/-- A request in a world is answered as under the calls that the world answers. -/
theorem authorizeFrom_world (settings : Settings) (w : World) (request : AuthorizeRequest) :
    authorizeFrom settings (w.requestCalls request) (w.itemCalls request) w.processMemory request =
      (authorize settings w request).1 := by
  unfold authorizeFrom authorize
  rw [builtFrom_world, engineFrom_world]
  rcases hbuilt : buildInput w request with ⟨e | ⟨input, tenant⟩, built⟩
  · -- the input is not built: the fallback
    dsimp only [Except.mapError]
    rfl
  · -- it is: the cached decision, or the engine's
    have htenant : tenant = w.tenant request.tenantKey := by
      apply @buildInput_tenant _ _ _ input
      rw [hbuilt]
    dsimp only [Except.mapError]
    unfold decideFrom decideInput
    rw [cachedFrom_world hbuilt, ← htenant, Lib.ok_bind]
    rcases (request.decisionKey? built.backend.counters tenant input).bind
      (safeDecisionGet built.backend) with _ | cached
    · dsimp only
      rcases buildEngine settings built tenant (policySetKey request.policySet) with
        ⟨e | engine, w'⟩
      · rfl
      · dsimp only [Except.mapError, Lib.ok_bind]
        rcases engine.decide input with e | decision
        · rfl
        · rfl
    · rfl

end Degradation


/-! ## Concrete failures -/

section Concrete

attribute [local instance] plainRuntime

/-- Every call is answered, with nothing stored. -/
def quietCalls : RequestCalls where
  tenant := .ok ⟨1, "default", 1, 1⟩
  userContext := .ok none
  relationshipGet := .ok none
  relationshipList := .ok []
  relationshipSet := .ok ()
  policyGet := .ok none
  policyList := .ok []
  tenantPolicyList := .ok []
  policySet := .ok ()

def quietItem : ItemCalls where
  meanwhile := id
  model := .ok none
  indexGet := .ok none
  aclGet := .ok none
  aclFind := .ok []
  aclSet := .ok ()
  objectList := .ok []
  indexSet := .ok ()
  makeKey := .ok "key"
  decisionGet := .ok none
  decisionSet := .ok ()
  auditWrite := .ok ()

def noMemory : ProcessMemory := ⟨fun _ => none, fun _ => none⟩

/-- SQLAlchemy's `OperationalError`, which is no `RuntimeError`. -/
def databaseLocked : Failure := ⟨.other, "database is locked"⟩

/-- A user reads two documents. -/
def readPair : BatchRequest where
  tenantKey := "default"
  user := [("id", .int 7)]
  items := [⟨"read", [("type", .str "doc"), ("id", .str "1")]⟩,
    ⟨"read", [("type", .str "doc"), ("id", .str "2")]⟩]

/-- The tenants cannot be read. -/
def tenantsDown : BatchCalls := ⟨{ quietCalls with tenant := .error databaseLocked },
  fun _ => quietItem⟩

/-- The index cache cannot be read for the second item. -/
def secondDown : BatchCalls := ⟨quietCalls, fun position =>
  if position = 1 then { quietItem with indexGet := .error ⟨.listed, "timeout"⟩ } else quietItem⟩

/-- A batch whose second item fails degrades exactly when that is contained. -/
theorem secondDown_degrades_iff :
    ((∀ (alone : RequestCalls) (item : ItemCalls) (memory : ProcessMemory)
        (request : AuthorizeRequest), SingleDegrades plainSettings alone item memory request) ∧
      BatchDegrades plainSettings secondDown noMemory readPair) ↔
      Contained plainSettings secondDown noMemory readPair := by
  apply degrades_iff
  · rfl
  · rfl
  · decide +kernel
  · decide +kernel

/-- A batch that cannot read the tenants raises, and so does one whose second item fails; where
the tenants cannot be read a single request is denied. -/
theorem batch_raises :
    (authorizeBatchFrom plainSettings tenantsDown noMemory readPair).isOk = false ∧
    (authorizeBatchFrom plainSettings secondDown noMemory readPair).isOk = false ∧
    (authorizeFrom plainSettings tenantsDown.shared quietItem noMemory
      (readPair.single ⟨"read", [("type", .str "doc"), ("id", .str "1")]⟩)).decision.allowed =
        false ∧
    ¬ BatchDegrades plainSettings tenantsDown noMemory readPair ∧
    ¬ BatchDegrades plainSettings secondDown noMemory readPair := by
  have hraises : (authorizeBatchFrom plainSettings tenantsDown noMemory readPair).isOk = false ∧
      (authorizeBatchFrom plainSettings secondDown noMemory readPair).isOk = false ∧
      (authorizeFrom plainSettings tenantsDown.shared quietItem noMemory
        (readPair.single ⟨"read", [("type", .str "doc"), ("id", .str "1")]⟩)).decision.allowed =
          false := by
    decide +kernel
  refine ⟨hraises.1, hraises.2.1, hraises.2.2, ?_, ?_⟩
  · rintro ⟨results, hresults, -⟩
    have hraised := hraises.1
    rw [hresults] at hraised
    cases hraised
  · rintro ⟨results, hresults, -⟩
    have hraised := hraises.2.1
    rw [hresults] at hraised
    cases hraised

end Concrete

end KeyNetra
