import KeyNetra.Lib.Runs
import KeyNetra.Services.Batch

/-!
# KeyNetra.Services.Audit — the audit rows of decisions

`authorize` audits a decision that it has computed, not one it has found in its cache and not
a fallback; `authorize_batch` audits every item. The write is given up after a timeout that does
not stop it, and repeated.

* `safeAuditWrite` — the rows one audit write commits, for any timing of its attempts;
* `authorizeAudited`, `authorizeBatchAudited` — the service's methods, with the rows they write;
  `authorizeAudited_answer`, `authorizeBatchAudited_answer` — they answer as `authorize` and
  `authorize_batch`;
* `AuditCall.AuditedOnce` — each result of a call has its one row, and each row its result;
* `audited_once_iff` — this holds along a run of calls exactly when none of them takes a branch
  that goes without its row or repeats it.
-/

namespace KeyNetra

section Audit

variable [PyRuntime]

/-! ## Audit rows -/

/-- When a started write commits: before its caller gives it up, or after. -/
inductive WriteTiming where
  | inTime
  | late
deriving DecidableEq, Repr

/-- A row of `audit_logs`. -/
structure AuditRow where
  tenantId : Int
  principalType : String
  principalId : String
  correlationId : Option String
  user : Dict
  action : String
  resource : Dict
  decision : String
  matchedPolicies : List String
  reason : Option String
  evaluatedRules : List Dict
  failedConditions : List String

/-- The service, as far as auditing reads it. -/
structure AuditService where
  settings : Settings
  criticalRetryAttempts : Int
  requestId : Option String

/-- `SqlAuditRepository.write`, as the service calls it. -/
def AuditService.row (service : AuditService) (principal : Dict) (tenantId : Int)
    (input : AuthorizationInput) (decision : AuthorizationDecision) : AuditRow where
  tenantId := tenantId
  principalType := (Dict.get principal "type").text
  principalId := (Dict.get principal "id").text
  correlationId := service.requestId
  user := input.user
  action := input.action
  resource := input.resource
  decision := decision.decision.text.toUpper
  matchedPolicies := decision.matchedPolicies
  reason := decision.reason
  evaluatedRules := decision.explainTrace.map ExplainTraceStep.toDict
  failedConditions := decision.failedConditions

/-- The commits of `retry` over `with_timeout`, with `left` attempts left: an attempt that is
late raises a `TimeoutError`, and commits all the same. -/
def retryCommits (timing : Nat → WriteTiming) : Nat → Nat → Nat
  | _, 0 => 0
  | attempt, left + 1 =>
      match timing attempt with
      | .inTime => 1
      | .late => 1 + retryCommits timing (attempt + 1) left

/-- `_safe_audit_write`: the rows it commits. -/
def AuditService.safeAuditWrite (service : AuditService) (timing : Nat → WriteTiming)
    (row : AuditRow) : List AuditRow :=
  List.replicate (retryCommits timing 0 (max 1 service.criticalRetryAttempts).toNat) row

/-- The row carries the decision. -/
def AuditRow.Carries (row : AuditRow) (decision : AuthorizationDecision) : Prop :=
  row.decision = decision.decision.text.toUpper ∧ row.matchedPolicies = decision.matchedPolicies ∧
    row.reason = decision.reason ∧
    row.evaluatedRules = decision.explainTrace.map ExplainTraceStep.toDict ∧
    row.failedConditions = decision.failedConditions

/-- The rows are one row, which carries the decision. -/
def OneRow (rows : List AuditRow) (decision : AuthorizationDecision) : Prop :=
  ∃ row, rows = [row] ∧ row.Carries decision

/-! ## The service's methods -/

/-- `AuthorizationService.authorize`, with the rows it writes. -/
def authorizeAudited (service : AuditService) (w : World) (principal : Dict)
    (request : AuthorizeRequest) (timing : Nat → WriteTiming) (audit : Bool := true) :
    AuthorizationResult × List AuditRow × World :=
  match buildInput w request with
  | (.error e, w) =>
      (⟨fallbackDecision service.settings request.fallbackInput
        s!"authorization input unavailable: {e.message}", false, 1⟩, [], w)
  | (.ok (input, tenant), w) =>
      let key := request.decisionKey? w.backend.counters tenant input
      match key.bind (safeDecisionGet w.backend) with
      | some cached => (⟨decisionFromCache cached, true, tenant.revision⟩, [], w)
      | none =>
          let (engine, w) := buildEngine service.settings w tenant (policySetKey request.policySet)
          match (do (← engine).decide input) with
          | .error _ =>
              (⟨fallbackDecision service.settings input "authorization backend unavailable", false,
                tenant.revision⟩, [], w)
          | .ok decision =>
              (⟨decision, false, tenant.revision⟩,
                if audit then
                  service.safeAuditWrite timing (service.row principal tenant.id input decision)
                else [],
                w.storeDecisionAt key decision)

/-- An answered item, with the input it is audited with. -/
structure AuditedItem where
  answer : AnsweredItem
  input : AuthorizationInput

/-- The state of the batch's loop, and the rows written for each item so far. -/
structure AuditState where
  world : World
  indexed : Memo
  answered : List AuditedItem
  written : List (List AuditRow)

/-- `memoized_results.get(memo_key)`. -/
def AuditState.answered? (s : AuditState) (action : String) (resource context : Value) :
    Option AuditedItem :=
  s.answered.find? fun a => a.answer.action = action && a.answer.resource.same resource &&
    a.answer.context.same context

/-- The state without what only the audit reads. -/
def AuditState.plain (s : AuditState) : BatchState :=
  ⟨s.world, s.indexed, s.answered.map AuditedItem.answer⟩

/-- The batch, as its loop sees it. -/
structure BatchLoop where
  service : AuditService
  engine : KeyNetraEngine
  tenant : TenantRecord
  user : Dict
  principal : Dict
  batch : BatchRequest
  timing : Nat → Nat → WriteTiming

/-- The rows of an item that is answered next. -/
def BatchLoop.rows (loop : BatchLoop) (s : AuditState) (input : AuthorizationInput)
    (decision : AuthorizationDecision) : List AuditRow :=
  loop.service.safeAuditWrite (loop.timing s.written.length)
    (loop.service.row loop.principal loop.tenant.id input decision)

/-- One pass of the loop over the items, with its audit write. -/
def BatchLoop.answer (loop : BatchLoop) (s : AuditState) (item : BatchItem) :
    Except PyError AuthorizationResult × AuditState :=
  match validateResource item.resource with
  | .error e => (.error e, s)
  | .ok () =>
      let resource := (Value.dict item.resource).sorted
      let context := (Value.dict loop.batch.context).sorted
      match s.answered? item.action resource context with
      | some a => (.ok ⟨a.answer.decision, a.answer.cached, loop.tenant.revision⟩,
          { s with written := s.written ++ [loop.rows s a.input a.answer.decision] })
      | none =>
          match buildItemInput s.world s.indexed loop.tenant.id loop.user
              (loop.batch.single item) with
          | (.error e, w, memo) => (.error e, { s with world := w, indexed := memo })
          | (.ok input, w, memo) =>
              match decideItem loop.engine loop.tenant w (loop.batch.single item) input with
              | (.error e, w) => (.error e, { s with world := w, indexed := memo })
              | (.ok (decision, cached), w) =>
                  (.ok ⟨decision, cached, loop.tenant.revision⟩,
                    { world := w
                      indexed := memo
                      answered := ⟨⟨item.action, resource, context, decision, cached⟩, input⟩ ::
                        s.answered
                      written := s.written ++ [loop.rows s input decision] })

/-- `AuthorizationService.authorize_batch`, with the rows it writes for each item. -/
def authorizeBatchAudited (service : AuditService) (w : World) (principal : Dict)
    (batch : BatchRequest) (timing : Nat → Nat → WriteTiming) :
    Except PyError (List AuthorizationResult) × List (List AuditRow) × World :=
  match validateUser batch.user with
  | .error e => (.error e, [], w)
  | .ok () =>
      let tenant := w.tenant batch.tenantKey
      let (user, w) := hydrateUser (w.ensureTenant batch.tenantKey) tenant.id batch.user
      match buildEngine service.settings w tenant (policySetKey batch.policySet) with
      | (.error e, w) =>
          if e.IsValueError then
            (.ok (batch.items.map fun item => ⟨fallbackDecision service.settings
              (batch.single item).fallbackInput "authorization backend unavailable", false, 1⟩),
              [], w)
          else (.error e, [], w)
      | (.ok engine, w) =>
          let (results, s) := Lib.thread
            (BatchLoop.answer ⟨service, engine, tenant, user, principal, batch, timing⟩)
            ⟨w, fun _ => none, [], []⟩ batch.items
          (results, s.written, s.world)

variable {service : AuditService} {w : World} {principal : Dict} {request : AuthorizeRequest}
  {batch : BatchRequest} {loop : BatchLoop} {s : AuditState}

/-! ## Auditing changes no answer -/

theorem authorizeAudited_answer (service : AuditService) (w : World) (principal : Dict)
    (request : AuthorizeRequest) (timing : Nat → WriteTiming) (audit : Bool) :
    (authorizeAudited service w principal request timing audit).1 =
        (authorize service.settings w request).1 ∧
      (authorizeAudited service w principal request timing audit).2.2 =
        (authorize service.settings w request).2 := by
  unfold authorizeAudited authorize decideInput
  rcases buildInput w request with ⟨e | ⟨input, tenant⟩, v⟩
  · dsimp only
    exact ⟨rfl, rfl⟩
  · -- the input is there: the cached decision, or the engine's
    dsimp only
    generalize request.decisionKey? v.backend.counters tenant input = key
    rcases key.bind (safeDecisionGet v.backend) with _ | cached
    · dsimp only
      rcases buildEngine service.settings v tenant (policySetKey request.policySet) with ⟨engine, u⟩
      dsimp only
      generalize (engine >>= fun engine => engine.decide input) = decided
      rcases decided with e | decision
      · dsimp only
        exact ⟨rfl, rfl⟩
      · dsimp only
        rcases key with _ | key
        · exact ⟨rfl, rfl⟩
        · exact ⟨rfl, rfl⟩
    · exact ⟨rfl, rfl⟩

/-- One pass answers as without its audit write. -/
theorem BatchLoop.answer_plain (loop : BatchLoop) (s : AuditState) (item : BatchItem) :
    (loop.answer s item).1 =
        (answerItem loop.engine loop.tenant loop.user loop.batch s.plain item).1 ∧
      (loop.answer s item).2.plain =
        (answerItem loop.engine loop.tenant loop.user loop.batch s.plain item).2 := by
  have hfound : ∀ action (resource context : Value), s.plain.answered? action resource context =
      (s.answered? action resource context).map AuditedItem.answer := by
    intro action resource context
    exact List.find?_map ..
  unfold BatchLoop.answer answerItem
  -- the resource is over the limits: both raise
  rcases validateResource item.resource with e | ⟨⟩
  · exact ⟨rfl, rfl⟩
  · dsimp only
    rw [hfound]
    rcases s.answered? item.action (Value.dict item.resource).sorted
      (Value.dict loop.batch.context).sorted with _ | a
    · -- the item is new: its input, then its decision
      have hworld : s.plain.world = s.world := rfl
      have hindexed : s.plain.indexed = s.indexed := rfl
      rw [hworld, hindexed]
      rcases buildItemInput s.world s.indexed loop.tenant.id loop.user (loop.batch.single item) with
        ⟨e | input, v, memo⟩
      · exact ⟨rfl, rfl⟩
      · dsimp only [Option.map_none]
        rcases decideItem loop.engine loop.tenant v (loop.batch.single item) input with
          ⟨e | ⟨decision, cached⟩, u⟩
        · exact ⟨rfl, rfl⟩
        · exact ⟨rfl, rfl⟩
    · -- the item was answered before
      exact ⟨rfl, rfl⟩

/-- The state a batch's loop starts in. -/
def AuditState.start (w : World) : AuditState := ⟨w, fun _ => none, [], []⟩

/-- The loop answers as without its audit writes. -/
theorem BatchLoop.thread_plain (loop : BatchLoop) (s : AuditState) (items : List BatchItem) :
    (Lib.thread loop.answer s items).1 =
        (Lib.thread (answerItem loop.engine loop.tenant loop.user loop.batch) s.plain items).1 ∧
      (Lib.thread loop.answer s items).2.plain =
        (Lib.thread (answerItem loop.engine loop.tenant loop.user loop.batch) s.plain items).2 := by
  have hstep : ∀ (t : BatchState) (s : AuditState) item, s.plain = t →
      (loop.answer s item).1 =
          (answerItem loop.engine loop.tenant loop.user loop.batch t item).1 ∧
        (loop.answer s item).2.plain =
          (answerItem loop.engine loop.tenant loop.user loop.batch t item).2 := by
    rintro t s item rfl
    exact loop.answer_plain s item
  exact Lib.thread_alike hstep rfl items

theorem authorizeBatchAudited_answer (service : AuditService) (w : World) (principal : Dict)
    (batch : BatchRequest) (timing : Nat → Nat → WriteTiming) :
    (authorizeBatchAudited service w principal batch timing).1 =
        (authorizeBatch service.settings w batch).1 ∧
      (authorizeBatchAudited service w principal batch timing).2.2 =
        (authorizeBatch service.settings w batch).2 := by
  unfold authorizeBatchAudited authorizeBatch
  rcases validateUser batch.user with e | ⟨⟩
  · exact ⟨rfl, rfl⟩
  · dsimp only
    rcases hydrateUser (w.ensureTenant batch.tenantKey) (w.tenant batch.tenantKey).id batch.user with
      ⟨user, v⟩
    dsimp only
    rcases buildEngine service.settings v (w.tenant batch.tenantKey)
      -- the engine cannot be built: the clause is the same
      (policySetKey batch.policySet) with ⟨e | engine, u⟩
    · dsimp only
      split
      · exact ⟨rfl, rfl⟩
      · exact ⟨rfl, rfl⟩
    · dsimp only
      -- else both loops run over the items
      have hloop := BatchLoop.thread_plain
        ⟨service, engine, w.tenant batch.tenantKey, user, principal, batch, timing⟩ (.start u)
        batch.items
      exact ⟨hloop.1, congrArg BatchState.world hloop.2⟩

/-! ## One audit write -/

/-- The first attempt is in time, or the only one. -/
def AuditService.Timely (service : AuditService) (timing : Nat → WriteTiming) : Prop :=
  service.criticalRetryAttempts ≤ 1 ∨ timing 0 = .inTime

omit [PyRuntime] in
/-- An attempt always commits. -/
theorem retryCommits_pos (timing : Nat → WriteTiming) (attempt left : Nat) :
    0 < retryCommits timing attempt (left + 1) := by
  rw [retryCommits]
  split
  · exact Nat.one_pos
  · omega

omit [PyRuntime] in
/-- A write commits once when its first attempt is in time, or is the only one. -/
theorem retryCommits_eq_one (timing : Nat → WriteTiming) (attempt left : Nat) :
    retryCommits timing attempt (left + 1) = 1 ↔ left = 0 ∨ timing attempt = .inTime := by
  rw [retryCommits]
  rcases htiming : timing attempt with _ | _
  · simp
  · rcases left with _ | left
    · simp [retryCommits]
    · have hpos := retryCommits_pos timing (attempt + 1) left
      simp
      omega

omit [PyRuntime] in
theorem attempts_eq (service : AuditService) : ∃ left,
    (max 1 service.criticalRetryAttempts).toNat = left + 1 ∧
      (left = 0 ↔ service.criticalRetryAttempts ≤ 1) := by
  refine ⟨(max 1 service.criticalRetryAttempts).toNat - 1, ?_, ?_⟩
  · omega
  · omega

omit [PyRuntime] in
/-- An audit write leaves a row, and one row exactly when it is timely. -/
theorem safeAuditWrite_ne_nil (service : AuditService) (timing : Nat → WriteTiming)
    (row : AuditRow) : service.safeAuditWrite timing row ≠ [] := by
  rcases attempts_eq service with ⟨left, hleft, -⟩
  have hpos := retryCommits_pos timing 0 left
  unfold AuditService.safeAuditWrite
  rw [hleft]
  intro hnil
  have hzero := congrArg List.length hnil
  rw [List.length_replicate] at hzero
  simp only [List.length_nil] at hzero
  omega

omit [PyRuntime] in
theorem safeAuditWrite_one (service : AuditService) (timing : Nat → WriteTiming) {row : AuditRow}
    {decision : AuthorizationDecision} (hcarries : row.Carries decision) :
    OneRow (service.safeAuditWrite timing row) decision ↔ service.Timely timing := by
  rcases attempts_eq service with ⟨left, hleft, hone⟩
  unfold AuditService.safeAuditWrite AuditService.Timely
  rw [hleft, ← hone, ← retryCommits_eq_one timing 0 left]
  constructor
  · rintro ⟨other, hrows, -⟩
    have hlength := congrArg List.length hrows
    rw [List.length_replicate] at hlength
    exact hlength
  · intro hcommits
    refine ⟨row, ?_, hcarries⟩
    rw [hcommits]
    rfl

theorem carries_row (service : AuditService) (principal : Dict) (tenantId : Int)
    (input : AuthorizationInput) (decision : AuthorizationDecision) :
    (service.row principal tenantId input decision).Carries decision :=
  ⟨rfl, rfl, rfl, rfl, rfl⟩

/-! ## The items of a batch -/

/-- The rows are those of an audit write of the decision. -/
def AuditService.Wrote (service : AuditService) (timing : Nat → WriteTiming)
    (result : AuthorizationResult) (rows : List AuditRow) : Prop :=
  ∃ row, row.Carries result.decision ∧ rows = service.safeAuditWrite timing row

/-- The rows of the results in order, the first of them of item `k`. -/
def AuditService.WroteFrom (service : AuditService) (timing : Nat → Nat → WriteTiming) :
    Nat → List AuthorizationResult → List (List AuditRow) → Prop
  | _, [], [] => True
  | k, result :: results, rows :: groups =>
      service.Wrote (timing k) result rows ∧ service.WroteFrom timing (k + 1) results groups
  | _, _, _ => False

/-- An item is answered with an audit write, or raises without one. -/
theorem BatchLoop.answer_written (loop : BatchLoop) (s : AuditState) (item : BatchItem) :
    (∃ e t, loop.answer s item = (.error e, t) ∧ t.written = s.written) ∨
      ∃ result rows t, loop.answer s item = (.ok result, t) ∧
        loop.service.Wrote (loop.timing s.written.length) result rows ∧
          t.written = s.written ++ [rows] := by
  -- a decided item writes its row, in time or late
  have hwrote : ∀ (input : AuthorizationInput) (result : AuthorizationResult),
      loop.service.Wrote (loop.timing s.written.length) result
        (loop.rows s input result.decision) := by
    intro input result
    exact ⟨_, carries_row .., rfl⟩
  unfold BatchLoop.answer
  rcases validateResource item.resource with e | ⟨⟩
  · -- an item that raises writes nothing
    exact Or.inl ⟨e, s, rfl, rfl⟩
  · dsimp only
    rcases s.answered? item.action (Value.dict item.resource).sorted
      (Value.dict loop.batch.context).sorted with _ | a
    · dsimp only
      rcases buildItemInput s.world s.indexed loop.tenant.id loop.user (loop.batch.single item) with
        ⟨e | input, v, memo⟩
      · exact Or.inl ⟨e, _, rfl, rfl⟩
      · dsimp only
        rcases decideItem loop.engine loop.tenant v (loop.batch.single item) input with
          ⟨e | ⟨decision, cached⟩, u⟩
        · exact Or.inl ⟨e, _, rfl, rfl⟩
        · exact Or.inr ⟨⟨decision, cached, _⟩, loop.rows s input decision, _, rfl,
            hwrote input ⟨decision, cached, loop.tenant.revision⟩, rfl⟩
    · -- a remembered item is written like a decided one
      exact Or.inr ⟨⟨a.answer.decision, a.answer.cached, _⟩, loop.rows s a.input a.answer.decision, _,
        rfl, hwrote a.input ⟨a.answer.decision, a.answer.cached, loop.tenant.revision⟩, rfl⟩

/-- The rows that the loop has written: for every item answered, none before the first. -/
theorem BatchLoop.thread_written (loop : BatchLoop) (s : AuditState) (items : List BatchItem) :
    ∃ groups, (Lib.thread loop.answer s items).2.written = s.written ++ groups ∧
      match (Lib.thread loop.answer s items).1 with
      | .ok results => results.length = items.length ∧
          loop.service.WroteFrom loop.timing s.written.length results groups
      | .error _ => (∀ rows ∈ groups, rows ≠ []) ∧
          (groups = [] ↔ ∃ item rest e, items = item :: rest ∧ (loop.answer s item).1 = .error e) := by
  induction items generalizing s with
  | nil => exact ⟨[], (List.append_nil _).symm, rfl, trivial⟩
  | cons item items ih =>
      rcases loop.answer_written s item with ⟨e, t, hstep, hwritten⟩ |
        ⟨result, rows, t, hstep, hwrote, hrows⟩
      · -- the item raises before its own record
        rw [Lib.thread, hstep]
        refine ⟨[], ?_, ?_, ?_⟩
        · rw [List.append_nil]
          exact hwritten
        · intro rows hrows
          cases hrows
        · exact ⟨fun _ => ⟨item, items, e, rfl, congrArg Prod.fst hstep⟩, fun _ => rfl⟩
      · rw [Lib.thread, hstep]
        rcases ih t with ⟨groups, hgroups, hrest⟩
        have hlength : t.written.length = s.written.length + 1 := by
          rw [hrows, List.length_append, List.length_singleton]
        dsimp only
        rcases hloop : Lib.thread loop.answer t items with ⟨e | results, u⟩
        · -- a later item raises: the records so far stay written
          rw [hloop] at hgroups hrest
          refine ⟨rows :: groups, ?_, ?_, ?_⟩
          · rw [show u.written = t.written ++ groups from hgroups, hrows, List.append_assoc]
            rfl
          · intro group hgroup
            rcases List.mem_cons.mp hgroup with rfl | hgroup
            · rcases hwrote with ⟨row, -, rfl⟩
              exact safeAuditWrite_ne_nil loop.service _ row
            · exact hrest.1 group hgroup
          · constructor
            · intro hnil
              cases hnil
            · rintro ⟨first, rest, e', hitems, hraised⟩
              rcases List.cons.inj hitems with ⟨rfl, -⟩
              rw [hstep] at hraised
              cases hraised
        · rw [hloop] at hgroups hrest
          refine ⟨rows :: groups, ?_, ?_, hwrote, ?_⟩
          · rw [show u.written = t.written ++ groups from hgroups, hrows, List.append_assoc]
            rfl
          · rw [List.length_cons, List.length_cons, hrest.1]
          · rw [← hlength]
            exact hrest.2

omit [PyRuntime] in
/-- The results have one row each exactly when their writes are timely. -/
theorem wroteFrom_one {timing : Nat → Nat → WriteTiming} {k : Nat}
    {results : List AuthorizationResult} {groups : List (List AuditRow)}
    (h : service.WroteFrom timing k results groups) :
    List.Forall₂ (fun result rows => OneRow rows result.decision) results groups ↔
      ∀ j < results.length, service.Timely (timing (k + j)) := by
  induction results generalizing k groups with
  | nil =>
      rcases groups with _ | ⟨rows, groups⟩
      · -- no items, no rows
        exact ⟨fun _ j hj => absurd hj (Nat.not_lt_zero j), fun _ => .nil⟩
      · exact h.elim
  | cons result results ih =>
      rcases groups with _ | ⟨rows, groups⟩
      · exact h.elim
      · rcases h with ⟨⟨row, hcarries, rfl⟩, hrest⟩
        rw [List.forall₂_cons, safeAuditWrite_one service (timing k) hcarries, ih hrest]
        constructor
        · -- the first group is of the first write, and the others of those behind it
          rintro ⟨hfirst, hothers⟩ j hj
          rcases j with _ | j
          · exact hfirst
          · have hother := hothers j (by simpa using hj)
            rwa [show k + 1 + j = k + (j + 1) by omega] at hother
        · intro hall
          refine ⟨hall 0 (by simp), ?_⟩
          intro j hj
          have hother := hall (j + 1) (by simpa using hj)
          rwa [show k + (j + 1) = k + 1 + j by omega] at hother

/-! ## Calls -/

/-- A call of the service that is audited, with the timing of its audit writes. -/
inductive AuditCall where
  | authorize (principal : Dict) (request : AuthorizeRequest) (timing : Nat → WriteTiming)
  | batch (principal : Dict) (batch : BatchRequest) (timing : Nat → Nat → WriteTiming)

/-- The world after a call. -/
def AuditCall.step (service : AuditService) (w : World) : AuditCall → World
  | .authorize principal request timing =>
      (authorizeAudited service w principal request timing).2.2
  | .batch principal batch timing => (authorizeBatchAudited service w principal batch timing).2.2

/-- Each result that the call returns has one row, which carries its decision, and there is no
other row. -/
def AuditCall.AuditedOnce (service : AuditService) (w : World) : AuditCall → Prop
  | .authorize principal request timing =>
      OneRow (authorizeAudited service w principal request timing).2.1
        (authorizeAudited service w principal request timing).1.decision
  | .batch principal batch timing =>
      match (authorizeBatchAudited service w principal batch timing).1 with
      | .ok results => List.Forall₂ (fun result rows => OneRow rows result.decision) results
          (authorizeBatchAudited service w principal batch timing).2.1
      | .error _ => ∀ rows ∈ (authorizeBatchAudited service w principal batch timing).2.1, rows = []

/-- `authorize` computes the decision: it has its input, the cache has not the decision, and the
engine gives it. -/
def AuthorizeRequest.Computed (settings : Settings) (w : World) (request : AuthorizeRequest) : Prop :=
  ∃ input tenant v engine decision, buildInput w request = (.ok (input, tenant), v) ∧
    (request.decisionKey? v.backend.counters tenant input).bind (safeDecisionGet v.backend) = none ∧
      (buildEngine settings v tenant (policySetKey request.policySet)).1 = .ok engine ∧
        engine.decide input = .ok decision

/-- The loop of a batch whose engine is built. -/
def BatchRequest.items? (settings : Settings) (w : World) (batch : BatchRequest) :
    Except PyError ((BatchState → BatchItem → Except PyError AuthorizationResult × BatchState) ×
      BatchState) :=
  let tenant := w.tenant batch.tenantKey
  let (user, w) := hydrateUser (w.ensureTenant batch.tenantKey) tenant.id batch.user
  match buildEngine settings w tenant (policySetKey batch.policySet) with
  | (.error e, _) => .error e
  | (.ok engine, w) => .ok (answerItem engine tenant user batch, ⟨w, fun _ => none, []⟩)

/-- A batch with a valid user has its engine, unless it is empty or lets the engine's exception
out; and its items are all answered, in time, unless the first of them raises. -/
def BatchRequest.Recorded (service : AuditService) (w : World) (batch : BatchRequest)
    (timing : Nat → Nat → WriteTiming) : Prop :=
  validateUser batch.user = .ok () →
    match batch.items? service.settings w with
    | .error e => e.IsValueError → batch.items = []
    | .ok (answer, s) =>
        (∃ item rest e, batch.items = item :: rest ∧ (answer s item).1 = .error e) ∨
          (Lib.Returns answer s batch.items ∧
            ∀ k < batch.items.length, service.Timely (timing k))

/-- No branch is taken that goes without its row or repeats it. -/
def AuditCall.Recorded (service : AuditService) (w : World) : AuditCall → Prop
  | .authorize _ request timing => request.Computed service.settings w ∧ service.Timely timing
  | .batch _ batch timing => batch.Recorded service w timing

omit [PyRuntime] in
theorem not_oneRow_nil (decision : AuthorizationDecision) : ¬ OneRow [] decision := by
  rintro ⟨row, hrow, -⟩
  cases hrow

/-- `authorize` audits the decisions it computes, once when the write is timely. -/
theorem authorize_audited_iff (service : AuditService) (w : World) (principal : Dict)
    (request : AuthorizeRequest) (timing : Nat → WriteTiming) :
    (AuditCall.authorize principal request timing).AuditedOnce service w ↔
      (AuditCall.authorize principal request timing).Recorded service w := by
  unfold AuditCall.AuditedOnce AuditCall.Recorded AuthorizeRequest.Computed authorizeAudited
  dsimp only
  rcases hinput : buildInput w request with ⟨e | ⟨input, tenant⟩, v⟩
  · dsimp only
    constructor
    · intro hone
      exact absurd hone (not_oneRow_nil _)
    · rintro ⟨⟨input, tenant, u, engine, decision, hbuilt, -⟩, -⟩
      cases hbuilt
  · dsimp only
    rcases hcached : (request.decisionKey? v.backend.counters tenant input).bind
      (safeDecisionGet v.backend) with _ | cached
    · dsimp only
      rcases hbuilt : buildEngine service.settings v tenant (policySetKey request.policySet) with
        ⟨built, u⟩
      dsimp only
      rcases hdecided : (built >>= fun engine => engine.decide input) with e | decision
      · -- an engine that raises is answered by the fallback
        constructor
        · intro hone
          exact absurd hone (not_oneRow_nil _)
        · rintro ⟨⟨input', tenant', v', engine, decision, hinput', -, hengine, hdecide⟩, -⟩
          cases hinput'
          rw [hbuilt] at hengine
          have hok : (built >>= fun engine => engine.decide input) = .ok decision := by
            rw [show built = .ok engine from hengine]
            exact hdecide
          rw [hdecided] at hok
          cases hok
      · dsimp only
        rw [if_pos rfl, safeAuditWrite_one service timing (carries_row ..)]
        rcases Lib.bind_eq_ok.mp hdecided with ⟨engine, hengine, hdecide⟩
        constructor
        · intro htimely
          refine ⟨⟨input, tenant, v, engine, decision, rfl, hcached, ?_, hdecide⟩, htimely⟩
          rw [hbuilt]
          exact hengine
        · exact And.right
    · constructor
      · intro hone
        exact absurd hone (not_oneRow_nil _)
      · rintro ⟨⟨input', tenant', v', engine, decision, hinput', hmissed, -⟩, -⟩
        cases hinput'
        rw [hcached] at hmissed
        cases hmissed

/-- The loop audits each item once when it answers all of them in time, or none. -/
theorem BatchLoop.audited_iff (loop : BatchLoop) (w : World) (items : List BatchItem) :
    (match (Lib.thread loop.answer (.start w) items).1 with
      | .ok results => List.Forall₂ (fun result rows => OneRow rows result.decision) results
          (Lib.thread loop.answer (.start w) items).2.written
      | .error _ => ∀ rows ∈ (Lib.thread loop.answer (.start w) items).2.written, rows = []) ↔
      (∃ item rest e, items = item :: rest ∧ (answerItem loop.engine loop.tenant loop.user loop.batch
          ⟨w, fun _ => none, []⟩ item).1 = .error e) ∨
        (Lib.Returns (answerItem loop.engine loop.tenant loop.user loop.batch)
            ⟨w, fun _ => none, []⟩ items ∧
          ∀ k < items.length, loop.service.Timely (loop.timing k)) := by
  have hplain : (Lib.thread loop.answer (.start w) items).1 = (Lib.thread (answerItem loop.engine
      loop.tenant loop.user loop.batch) ⟨w, fun _ => none, []⟩ items).1 :=
    (loop.thread_plain (.start w) items).1
  have hfirst : ∀ item, (loop.answer (.start w) item).1 = (answerItem loop.engine loop.tenant
      loop.user loop.batch ⟨w, fun _ => none, []⟩ item).1 :=
    fun item => (loop.answer_plain (.start w) item).1
  have hreturns := @Lib.thread_returns_iff _ _ _ _ (answerItem loop.engine loop.tenant loop.user
    loop.batch) ⟨w, fun _ => none, []⟩ items
  rw [← hplain] at hreturns
  rcases loop.thread_written (.start w) items with ⟨groups, hgroups, hwrote⟩
  rcases hloop : Lib.thread loop.answer (.start w) items with ⟨e | results, t⟩
  · -- an item has raised: the rows of the items before it are nobody's
    rw [hloop] at hgroups hwrote hreturns
    have hwritten : t.written = groups := hgroups
    rcases hwrote with ⟨hfilled, hnone⟩
    dsimp only
    rw [hwritten]
    constructor
    · intro hempty
      have hnil : groups = [] := by
        apply List.eq_nil_iff_forall_not_mem.mpr
        intro rows hrows
        exact hfilled rows hrows (hempty rows hrows)
      rcases hnone.mp hnil with ⟨item, rest, e, hitems, hraised⟩
      exact Or.inl ⟨item, rest, e, hitems, (hfirst item).symm.trans hraised⟩
    · rintro (⟨item, rest, e, hitems, hraised⟩ | ⟨hreturn, -⟩)
      · rw [hnone.mpr ⟨item, rest, e, hitems, (hfirst item).trans hraised⟩]
        intro rows hrows
        cases hrows
      · rcases hreturns.mpr hreturn with ⟨results, hresults⟩
        cases hresults
  · rw [hloop] at hgroups hwrote hreturns
    have hwritten : t.written = groups := hgroups
    rcases hwrote with ⟨hlength, hfrom⟩
    have hreturn := hreturns.mp ⟨results, rfl⟩
    dsimp only
    rw [hwritten, wroteFrom_one hfrom, hlength]
    constructor
    · intro htimely
      refine Or.inr ⟨hreturn, ?_⟩
      intro k hk
      have hitem := htimely k hk
      rwa [show (AuditState.start w).written.length + k = k from Nat.zero_add k] at hitem
    · intro hcases j hj
      have htimely : ∀ k < items.length, loop.service.Timely (loop.timing k) := by
        rcases hcases with ⟨item, rest, e, hitems, hraised⟩ | ⟨-, htimely⟩
        · rw [hitems] at hreturn
          rcases hreturn.1 with ⟨result, hanswered⟩
          rw [hraised] at hanswered
          cases hanswered
        · exact htimely
      rw [show (AuditState.start w).written.length + j = j from Nat.zero_add j]
      exact htimely j hj

/-- A batch is audited once when it answers all of its items in time, or none. -/
theorem batch_audited_iff (service : AuditService) (w : World) (principal : Dict)
    (batch : BatchRequest) (timing : Nat → Nat → WriteTiming) :
    (AuditCall.batch principal batch timing).AuditedOnce service w ↔
      (AuditCall.batch principal batch timing).Recorded service w := by
  unfold AuditCall.AuditedOnce AuditCall.Recorded BatchRequest.Recorded BatchRequest.items?
    authorizeBatchAudited
  dsimp only
  rcases validateUser batch.user with e | ⟨⟩
  · constructor
    · intro _ hvalid
      cases hvalid
    · intro _ rows hrows
      cases hrows
  · dsimp only
    rcases hydrateUser (w.ensureTenant batch.tenantKey) (w.tenant batch.tenantKey).id batch.user with
      ⟨user, v⟩
    dsimp only
    rcases buildEngine service.settings v (w.tenant batch.tenantKey)
      (policySetKey batch.policySet) with ⟨e | engine, u⟩
    · dsimp only
      by_cases hvalue : e.IsValueError
      · -- the fallback answers every item, without a row
        rw [if_pos hvalue]
        constructor
        · intro hone _ _
          exact List.map_eq_nil_iff.mp (List.forall₂_nil_right_iff.mp hone)
        · intro hnone
          have hempty := hnone rfl hvalue
          dsimp only
          rw [hempty]
          exact .nil
      · rw [if_neg hvalue]
        constructor
        · intro _ _ hother
          exact absurd hother hvalue
        · intro _ rows hrows
          cases hrows
    · dsimp only
      refine Iff.trans ?_ (forall_prop_of_true rfl).symm
      have haudited := BatchLoop.audited_iff
        ⟨service, engine, w.tenant batch.tenantKey, user, principal, batch, timing⟩ u batch.items
      unfold AuditState.start at haudited
      rcases hloop : Lib.thread (BatchLoop.answer
        ⟨service, engine, w.tenant batch.tenantKey, user, principal, batch, timing⟩)
        ⟨u, fun _ => none, [], []⟩ batch.items with ⟨results, t⟩
      rw [hloop] at haudited
      exact haudited

/-- In every run of calls, each result has exactly one row that carries its decision, and there
is no other row, exactly when no call takes a branch that goes without its row or repeats it. -/
theorem audited_once_iff (service : AuditService) (w : World) (calls : List AuditCall) :
    Lib.Along (AuditCall.step service) (fun w call => call.AuditedOnce service w) w calls ↔
      Lib.Along (AuditCall.step service) (fun w call => call.Recorded service w) w calls := by
  have hcall : ∀ w (call : AuditCall), call.AuditedOnce service w ↔ call.Recorded service w := by
    intro w call
    rcases call with ⟨principal, request, timing⟩ | ⟨principal, batch, timing⟩
    · exact authorize_audited_iff service w principal request timing
    · exact batch_audited_iff service w principal batch timing
  constructor
  · intro h
    exact h.mono fun w call => (hcall w call).mp
  · intro h
    exact h.mono fun w call => (hcall w call).mpr

end Audit

/-! ## Concrete calls -/

section Concrete

attribute [local instance] plainRuntime

attribute [local semireducible] cacheKey

/-- A service that tries three times. -/
def plainService : AuditService := ⟨plainSettings, 3, none⟩

/-- A read that may be answered from the cache. -/
def readEventually : AuthorizeRequest := { readDoc with consistency := "eventual" }

/-- The read, with writes that commit in time, and with a first write that commits late. -/
def promptRead : AuditCall := .authorize [] readEventually fun _ => .inTime

def slowRead : AuditCall :=
  .authorize [] readEventually fun attempt => if attempt = 0 then .late else .inTime

/-- The second of two reads is served from the cache without a row, and a slow write is
repeated. -/
theorem audit_rows_missed :
    ¬ Lib.Along (AuditCall.step plainService) (fun w call => call.AuditedOnce plainService w)
        (policyWorld [readersPolicy]) [promptRead, promptRead] ∧
      ¬ Lib.Along (AuditCall.step plainService) (fun w call => call.AuditedOnce plainService w)
        (policyWorld [readersPolicy]) [slowRead] := by
  have hrows : (authorizeAudited plainService
        (promptRead.step plainService (policyWorld [readersPolicy])) [] readEventually
          fun _ => .inTime).2.1.length = 0 ∧
      (authorizeAudited plainService (policyWorld [readersPolicy]) [] readEventually
        fun attempt => if attempt = 0 then .late else .inTime).2.1.length = 2 := by
    decide +kernel
  constructor
  · rintro ⟨-, ⟨row, hrow, -⟩, -⟩
    have hlength := hrows.1
    rw [hrow] at hlength
    cases hlength
  · rintro ⟨⟨row, hrow, -⟩, -⟩
    have hlength := hrows.2
    rw [hrow] at hlength
    cases hlength

end Concrete

end KeyNetra
