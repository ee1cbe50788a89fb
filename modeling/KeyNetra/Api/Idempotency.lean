import KeyNetra.Config.AdminAuth
import KeyNetra.Lib.Runs
import KeyNetra.Lib.Table
import Mathlib.Logic.Function.Basic

/-!
# KeyNetra.Api.Idempotency — replays of write requests

The middleware around the write endpoints claims a row for the request's scope
and idempotency key, runs the handler when the claim succeeds, and stores the
response; a request that finds the row taken is refused or replayed. Claim, read,
handler and completion are steps of their own, in sessions of their own, so any
number of requests interleave.

* `IdempotencyTable` — the rows, with the unique constraint as a field;
* `IdempotencyState.step` — the requests, step by step;
* `Protocol` — the invariant: one execution per claimed row, and every stored
  response is the one that execution answered;
* `handler_runs_at_most_once` — what a run can answer to the requests with one key;
* `replays_faithful_iff` — when replays only go to the same request: the row is
  compared by scope, key and body, and by nothing else of a request.
-/

namespace KeyNetra

/-! ## Requests -/

/-- The status of an HTTP response. -/
abbrev HttpStatus := { code : Nat // 100 ≤ code ∧ code < 600 }

/-- What the middleware and the handlers behind it read of a request. -/
structure WriteRequest where
  method : String
  path : String
  query : String := ""
  apiKey : Option String := none
  authorization : Option String := none
  tenantId : Option String := none
  idempotencyKey : Option String := none
  body : List UInt8 := []
deriving DecidableEq

/-- `IdempotencyMiddleware._target_paths`. -/
def targetPaths : List (String × String) :=
  [("POST", "/policies"), ("POST", "/policies/dsl"), ("POST", "/relationships")]

/-- The scope of a request. -/
def WriteRequest.scope (q : WriteRequest) : String := s!"{q.method.toUpper}:{q.path}"

/-- The scope and the key of a request the middleware handles. -/
def WriteRequest.claim? (q : WriteRequest) : Option (String × String) :=
  if (q.method.toUpper, q.path) ∈ targetPaths then
    match q.idempotencyKey with
    | some key => if key = "" then none else some (q.scope, key)
    | none => none
  else none

/-- The hash that identifies a request: of its scope and its body. -/
def WriteRequest.hash (sha256 : List UInt8 → String) (q : WriteRequest) : String :=
  sha256 (q.scope.toUTF8.toList ++ [10] ++ q.body)

/-- The requests agree on what the handler's effect depends on: the credentials,
the tenant header, the path, the query and the body. -/
def WriteRequest.Agrees (q₀ q : WriteRequest) : Prop :=
  q₀.apiKey = q.apiKey ∧ q₀.authorization = q.authorization ∧ q₀.tenantId = q.tenantId ∧
    q₀.path = q.path ∧ q₀.query = q.query ∧ q₀.body = q.body

/-- What a handler answers; its body is text. -/
structure HandlerResponse where
  status : HttpStatus
  body : String
  contentType : Option String

/-- How a handler ends. A body that cannot be decoded raises as well. -/
inductive HandlerOutcome where
  | answers (response : HandlerResponse)
  | raises

/-! ## The table -/

/-- A row of `idempotency_records`. -/
structure IdempotencyRecord where
  id : Int
  scope : String
  idempotencyKey : String
  requestHash : String
  responseStatusCode : Option HttpStatus := none
  responseBody : Option String := none
  responseContentType : Option String := none

/-- The columns of `uq_idempotency_records_scope_key`. -/
def IdempotencyRecord.claim (row : IdempotencyRecord) : String × String :=
  (row.scope, row.idempotencyKey)

structure IdempotencyTable where
  rows : List IdempotencyRecord
  ids : (rows.map IdempotencyRecord.id).Nodup
  claims : (rows.map IdempotencyRecord.claim).Nodup

namespace IdempotencyTable

/-- The new row of a claim. -/
def newRow (t : IdempotencyTable) (claim : String × String) (requestHash : String) :
    IdempotencyRecord :=
  ⟨Lib.freshId (t.rows.map IdempotencyRecord.id), claim.1, claim.2, requestHash, none, none, none⟩

/-- The insert of `start`; `none` is an `IntegrityError`. -/
def insert (t : IdempotencyTable) (claim : String × String) (requestHash : String) :
    Option (Int × IdempotencyTable) :=
  if h : (t.newRow claim requestHash).claim ∈ t.rows.map IdempotencyRecord.claim then none
  else some ((t.newRow claim requestHash).id,
    { rows := t.rows ++ [t.newRow claim requestHash]
      ids := Lib.nodup_map_append t.ids (Lib.freshId_notMem _)
      claims := Lib.nodup_map_append t.claims h })

/-- `SqlIdempotencyRepository._get`. -/
def find? (t : IdempotencyTable) (claim : String × String) : Option IdempotencyRecord :=
  t.rows.find? fun row => row.claim = claim

/-- The completed row. -/
def completed (response : HandlerResponse) (row : IdempotencyRecord) : IdempotencyRecord :=
  { row with
    responseStatusCode := some response.status
    responseBody := some response.body
    responseContentType := response.contentType }

/-- `SqlIdempotencyRepository.complete`. -/
def complete (t : IdempotencyTable) (recordId : Int) (response : HandlerResponse) :
    IdempotencyTable :=
  let change := fun row => if row.id = recordId then completed response row else row
  have hid : ∀ row, (change row).id = row.id := fun row => by
    simp only [change]; split <;> rfl
  have hclaim : ∀ row, (change row).claim = row.claim := fun row => by
    simp only [change]; split <;> rfl
  { rows := t.rows.map change
    ids := Lib.nodup_map_update hid t.ids
    claims := Lib.nodup_map_update hclaim t.claims }

end IdempotencyTable

/-! ## The middleware -/

/-- What a request is answered. -/
inductive Answer where
  | own (response : HandlerResponse)
  | replay (status : HttpStatus) (body : String) (contentType : String)
  | conflict (error : ApiError)

/-- A 409 with the key in its details. -/
def keyConflict (message key : String) : ApiError :=
  ⟨409, "conflict", message, [("idempotency_key", key)]⟩

/-- The answer of `dispatch` to a request whose row is taken. -/
def answerTaken (requestHash key : String) (existing : IdempotencyRecord) : Answer :=
  if existing.requestHash ≠ requestHash then
    .conflict (keyConflict "idempotency key reused with a different request" key)
  else
    match existing.responseStatusCode, existing.responseBody with
    | some status, some body =>
        .replay status body (orText existing.responseContentType "application/json")
    | _, _ =>
        .conflict (keyConflict "request with this idempotency key is still in progress" key)

/-- Where a request stands. -/
inductive RequestPc where
  | arrived
  | conflicted (claim : String × String)
  | running (recordId : Option Int)
  | handled (recordId : Option Int) (response : HandlerResponse)
  | answered (answer : Answer)
  | raised

/-- A request that is through. -/
def RequestPc.Finished : RequestPc → Prop
  | .answered _ | .raised => True
  | _ => False

/-- The table, the requests, and the requests whose handler was started, in order;
no step depends on the last. -/
structure IdempotencyState where
  table : IdempotencyTable
  pcs : Nat → RequestPc
  executions : List Nat

/-- A request takes its next step, or its handler ends. -/
inductive IdempotencyEvent where
  | advance (i : Nat)
  | finish (i : Nat) (outcome : HandlerOutcome)

namespace IdempotencyState

variable (sha256 : List UInt8 → String) (requests : Nat → WriteRequest)

/-- Move one request. -/
def setPc (s : IdempotencyState) (i : Nat) (pc : RequestPc) : IdempotencyState :=
  { s with pcs := Function.update s.pcs i pc }

/-- Start the handler of a request. -/
def execute (s : IdempotencyState) (i : Nat) (recordId : Option Int) : IdempotencyState :=
  { s.setPc i (.running recordId) with executions := s.executions ++ [i] }

/-- The next step of a request, outside its handler. -/
def advance (s : IdempotencyState) (i : Nat) : IdempotencyState :=
  match s.pcs i with
  | .arrived =>
      match (requests i).claim? with
      | none => s.execute i none
      | some claim =>
          match s.table.insert claim ((requests i).hash sha256) with
          | some (recordId, table) => { s with table := table }.execute i (some recordId)
          | none => s.setPc i (.conflicted claim)
  | .conflicted claim =>
      match s.table.find? claim with
      | none => s.setPc i .raised
      | some existing =>
          s.setPc i (.answered (answerTaken ((requests i).hash sha256) claim.2 existing))
  | .handled (some recordId) response =>
      if response.status.val < 500 then
        { s with table := s.table.complete recordId response }.setPc i (.answered (.own response))
      else s.setPc i (.answered (.own response))
  | .handled none response => s.setPc i (.answered (.own response))
  | .running _ | .answered _ | .raised => s

/-- The handler of a request ends. -/
def finish (s : IdempotencyState) (i : Nat) (outcome : HandlerOutcome) : IdempotencyState :=
  match s.pcs i with
  | .running recordId =>
      match outcome with
      | .answers response => s.setPc i (.handled recordId response)
      | .raises => s.setPc i .raised
  | _ => s

/-- One event; an event that is not enabled changes nothing. -/
def step (s : IdempotencyState) : IdempotencyEvent → IdempotencyState
  | .advance i => s.advance sha256 requests i
  | .finish i outcome => s.finish i outcome

/-- No rows, and every request still to come. -/
def initial : IdempotencyState := ⟨⟨[], List.nodup_nil, List.nodup_nil⟩, fun _ => .arrived, []⟩

/-! ## The invariant -/

/-- A request with this claim and this hash has answered this status and body. -/
def Source (s : IdempotencyState) (claim : String × String) (hash : String) (status : HttpStatus)
    (body : String) : Prop :=
  ∃ i ∈ s.executions, (requests i).claim? = some claim ∧ (requests i).hash sha256 = hash ∧
    ∃ response, s.pcs i = .answered (.own response) ∧ response.status = status ∧
      response.body = body

/-- The row is the one request `i` has claimed. -/
def ClaimedBy (i : Nat) (row : IdempotencyRecord) : Prop :=
  (requests i).claim? = some row.claim ∧ (requests i).hash sha256 = row.requestHash

/-- What holds of a request where it stands. -/
def Placed (s : IdempotencyState) (i : Nat) : RequestPc → Prop
  | .arrived => i ∉ s.executions
  | .conflicted claim => i ∉ s.executions ∧ (requests i).claim? = some claim ∧
      ∃ row ∈ s.table.rows, row.claim = claim
  | .running recordId | .handled recordId _ => i ∈ s.executions ∧
      ∀ id, recordId = some id → ∃ row ∈ s.table.rows, row.id = id ∧ ClaimedBy sha256 requests i row
  | .answered (.own _) => i ∈ s.executions
  | .answered (.replay status body _) => i ∉ s.executions ∧
      ∃ claim, (requests i).claim? = some claim ∧
        Source sha256 requests s claim ((requests i).hash sha256) status body
  | .answered (.conflict error) => error.statusCode = 409
  | .raised => i ∈ s.executions

/-- Every request stands where its steps have led it, an execution has claimed its
row alone, and a stored response is one that was answered. -/
structure Protocol (s : IdempotencyState) : Prop where
  once : s.executions.Nodup
  placed : ∀ i, Placed sha256 requests s i (s.pcs i)
  claimed : ∀ i ∈ s.executions, ∀ claim, (requests i).claim? = some claim →
    ∃ row ∈ s.table.rows, row.claim = claim ∧ ClaimedBy sha256 requests i row
  apart : ∀ i ∈ s.executions, ∀ j ∈ s.executions, ∀ claim, (requests i).claim? = some claim →
    (requests j).claim? = some claim → i = j
  stored : ∀ row ∈ s.table.rows, ∀ status body, row.responseStatusCode = some status →
    row.responseBody = some body → Source sha256 requests s row.claim row.requestHash status body

/-- What a step of request `i` leaves alone. -/
structure Extends (i : Nat) (s s' : IdempotencyState) : Prop where
  pcs : ∀ j, j ≠ i → s'.pcs j = s.pcs j
  executions : ∀ j, j ∈ s.executions → j ∈ s'.executions
  started : ∀ j, j ≠ i → j ∈ s'.executions → j ∈ s.executions
  rows : ∀ row ∈ s.table.rows, ∃ row' ∈ s'.table.rows, row'.id = row.id ∧
    row'.claim = row.claim ∧ row'.requestHash = row.requestHash
  unanswered : ∀ response, s.pcs i ≠ .answered (.own response)

variable {sha256 requests} {s s' : IdempotencyState} {i : Nat}

theorem protocol_initial : Protocol sha256 requests initial where
  once := List.nodup_nil
  placed _ := List.not_mem_nil
  claimed _ hi := absurd hi List.not_mem_nil
  apart _ hi := absurd hi List.not_mem_nil
  stored _ hrow := absurd hrow List.not_mem_nil

/-- An answer given stays the source of its replays. -/
theorem Source.mono {claim : String × String} {hash : String} {status : HttpStatus} {body : String}
    (h : Source sha256 requests s claim hash status body) (hext : Extends i s s') :
    Source sha256 requests s' claim hash status body := by
  rcases h with ⟨j, hj, hclaim, hhash, response, hanswer, hstatus⟩
  have hne : j ≠ i := by
    rintro rfl
    exact hext.unanswered response hanswer
  refine ⟨j, hext.executions j hj, hclaim, hhash, response, ?_, hstatus⟩
  rw [hext.pcs j hne]
  exact hanswer

/-- A claimed row stays claimed. -/
theorem Extends.claimedBy (hext : Extends i s s') {j : Nat} {row : IdempotencyRecord}
    (hrow : row ∈ s.table.rows) (h : ClaimedBy sha256 requests j row) :
    ∃ row' ∈ s'.table.rows, row'.id = row.id ∧ row'.claim = row.claim ∧
      ClaimedBy sha256 requests j row' := by
  rcases hext.rows row hrow with ⟨row', hmem, hid, hclaim, hhash⟩
  refine ⟨row', hmem, hid, hclaim, ?_, ?_⟩
  · rw [hclaim]
    exact h.1
  · rw [hhash]
    exact h.2

/-- The other requests stay where they are. -/
theorem Placed.mono {pc : RequestPc} {j : Nat} (h : Placed sha256 requests s j pc)
    (hext : Extends i s s') (hmem : j ∈ s'.executions → j ∈ s.executions) :
    Placed sha256 requests s' j pc := by
  -- a claimed row stays claimed, whatever else is stored
  have hrows : ∀ recordId : Option Int, (∀ id, recordId = some id →
      ∃ row ∈ s.table.rows, row.id = id ∧ ClaimedBy sha256 requests j row) →
      ∀ id, recordId = some id →
        ∃ row ∈ s'.table.rows, row.id = id ∧ ClaimedBy sha256 requests j row := by
    intro recordId hheld id hid
    rcases hheld id hid with ⟨row, hrow, hrowId, hclaimed⟩
    rcases hext.claimedBy hrow hclaimed with ⟨row', hrow', hid', _, hclaimed'⟩
    exact ⟨row', hrow', hid'.trans hrowId, hclaimed'⟩
  cases pc with
  | arrived => exact fun hj => h (hmem hj)
  | conflicted claim =>
      rcases h with ⟨hnot, hclaim, row, hrow, hrowClaim⟩
      rcases hext.rows row hrow with ⟨row', hrow', _, hclaim', _⟩
      exact ⟨fun hj => hnot (hmem hj), hclaim, row', hrow', hclaim'.trans hrowClaim⟩
  | running recordId => exact ⟨hext.executions j h.1, hrows recordId h.2⟩
  | handled recordId response => exact ⟨hext.executions j h.1, hrows recordId h.2⟩
  | answered answer =>
      -- an answer keeps its source: its own execution, or the row it was replayed from
      cases answer with
      | own response => exact hext.executions j h
      | replay status body contentType =>
          rcases h with ⟨hnot, claim, hclaim, hsource⟩
          exact ⟨fun hj => hnot (hmem hj), claim, hclaim, hsource.mono hext⟩
      | conflict error => exact h
  | raised => exact hext.executions j h

/-! ## The steps -/

theorem extends_setPc (pc : RequestPc) (h : ∀ response, s.pcs i ≠ .answered (.own response)) :
    Extends i s (s.setPc i pc) where
  pcs _ hj := Function.update_of_ne hj ..
  executions _ hj := hj
  started _ _ hj := hj
  rows row hrow := ⟨row, hrow, rfl, rfl, rfl⟩
  unanswered := h

/-- A request that moves without touching the table. -/
theorem Protocol.setPc {pc : RequestPc} (h : Protocol sha256 requests s)
    (hcurrent : ∀ response, s.pcs i ≠ .answered (.own response))
    (hpc : Placed sha256 requests s i pc) : Protocol sha256 requests (s.setPc i pc) where
  once := h.once
  placed j := by
    have hext := extends_setPc pc hcurrent
    by_cases hj : j = i
    · rw [hj]
      have hself : (s.setPc i pc).pcs i = pc := Function.update_self ..
      rw [hself]
      exact hpc.mono hext id
    · rw [hext.pcs j hj]
      exact (h.placed j).mono hext id
  claimed := h.claimed
  apart := h.apart
  stored row hrow status body hstatus hbody :=
    (h.stored row hrow status body hstatus hbody).mono (extends_setPc pc hcurrent)

/-- A request whose handler starts: it was new, and its claim was free. -/
theorem Protocol.execute {table : IdempotencyTable} {recordId : Option Int}
    (h : Protocol sha256 requests s) (harrived : s.pcs i = .arrived)
    (hkept : ∀ row ∈ s.table.rows, row ∈ table.rows)
    (hnew : ∀ row ∈ table.rows, row ∈ s.table.rows ∨ row.responseStatusCode = none)
    (hclaim : ∀ claim, (requests i).claim? = some claim →
      (∃ row ∈ table.rows, row.claim = claim ∧ ClaimedBy sha256 requests i row) ∧
        ∀ j ∈ s.executions, (requests j).claim? ≠ some claim)
    (hrecord : ∀ id, recordId = some id →
      ∃ row ∈ table.rows, row.id = id ∧ ClaimedBy sha256 requests i row) :
    Protocol sha256 requests ({ s with table := table }.execute i recordId) := by
  have hfresh : i ∉ s.executions := by
    have hplaced := h.placed i
    rw [harrived] at hplaced
    exact hplaced
  have hext : Extends i s ({ s with table := table }.execute i recordId) := by
    refine ⟨fun j hj => Function.update_of_ne hj .., ?_, ?_, ?_, ?_⟩
    · intro j hj
      exact List.mem_append_left _ hj
    · intro j hj hmem
      rcases List.mem_append.mp hmem with hmem | hmem
      · exact hmem
      · exact absurd (List.mem_singleton.mp hmem) hj
    · intro row hrow
      exact ⟨row, hkept row hrow, rfl, rfl, rfl⟩
    · intro response hpc
      rw [harrived] at hpc
      cases hpc
  have hself : ({ s with table := table }.execute i recordId).pcs i = .running recordId :=
    Function.update_self ..
  refine ⟨?_, ?_, ?_, ?_, ?_⟩
  · -- once
    apply List.nodup_append.mpr
    refine ⟨h.once, List.nodup_singleton i, ?_⟩
    intro j hj k hk hjk
    rw [List.mem_singleton.mp hk] at hjk
    exact hfresh (hjk ▸ hj)
  · -- placed
    intro j
    by_cases hj : j = i
    · rw [hj, hself]
      exact ⟨List.mem_append_right _ (List.mem_singleton_self i), hrecord⟩
    · rw [hext.pcs j hj]
      exact (h.placed j).mono hext (hext.started j hj)
  · -- claimed
    intro j hj claim hc
    rcases List.mem_append.mp hj with hj | hj
    · rcases h.claimed j hj claim hc with ⟨row, hrow, hrowClaim, hclaimed⟩
      exact ⟨row, hkept row hrow, hrowClaim, hclaimed⟩
    · rw [List.mem_singleton.mp hj] at hc ⊢
      exact (hclaim claim hc).1
  · -- apart
    intro j hj k hk claim hcj hck
    rcases List.mem_append.mp hj with hj | hj <;> rcases List.mem_append.mp hk with hk | hk
    · exact h.apart j hj k hk claim hcj hck
    · rw [List.mem_singleton.mp hk] at hck
      exact absurd hcj ((hclaim claim hck).2 j hj)
    · rw [List.mem_singleton.mp hj] at hcj
      exact absurd hck ((hclaim claim hcj).2 k hk)
    · rw [List.mem_singleton.mp hj, List.mem_singleton.mp hk]
  · -- stored
    intro row hrow status body hstatus hbody
    rcases hnew row hrow with hold | hpending
    · exact (h.stored row hold status body hstatus hbody).mono hext
    · rw [hpending] at hstatus
      cases hstatus

/-- A request that stores the response of its handler in its row. -/
theorem Protocol.complete {recordId : Int} {response : HandlerResponse}
    (h : Protocol sha256 requests s) (hhandled : s.pcs i = .handled (some recordId) response) :
    Protocol sha256 requests
      ({ s with table := s.table.complete recordId response }.setPc i (.answered (.own response))) := by
  have hplaced := h.placed i
  rw [hhandled] at hplaced
  rcases hplaced with ⟨hstarted, hheld⟩
  rcases hheld recordId rfl with ⟨own, hown, hownId, hclaimed⟩
  have hext : Extends i s ({ s with table := s.table.complete recordId response }.setPc i
      (.answered (.own response))) := by
    refine ⟨fun j hj => Function.update_of_ne hj .., fun _ hj => hj, fun _ _ hj => hj, ?_, ?_⟩
    · intro row hrow
      refine ⟨_, List.mem_map_of_mem hrow, ?_⟩
      split
      · exact ⟨rfl, rfl, rfl⟩
      · exact ⟨rfl, rfl, rfl⟩
    · intro response' hpc
      rw [hhandled] at hpc
      cases hpc
  have hself : ({ s with table := s.table.complete recordId response }.setPc i
      (.answered (.own response))).pcs i = .answered (.own response) := Function.update_self ..
  refine ⟨h.once, ?_, ?_, h.apart, ?_⟩
  · intro j
    by_cases hj : j = i
    · rw [hj, hself]
      exact hstarted
    · rw [hext.pcs j hj]
      exact (h.placed j).mono hext (hext.started j hj)
  · intro j hj claim hclaim
    rcases h.claimed j hj claim hclaim with ⟨row, hrow, hrowClaim, hclaimedRow⟩
    rcases hext.claimedBy hrow hclaimedRow with ⟨row', hrow', _, hclaim', hclaimed'⟩
    exact ⟨row', hrow', hclaim'.trans hrowClaim, hclaimed'⟩
  · intro row' hrow' status body hstatus hbody
    rcases List.mem_map.mp hrow' with ⟨row, hrow, rfl⟩
    by_cases hid : row.id = recordId
    · -- the completed row is the one this request has claimed
      have hsame : row = own := Lib.eq_of_key_eq s.table.ids hrow hown (hid.trans hownId.symm)
      rw [if_pos hid] at hstatus hbody ⊢
      refine ⟨i, hstarted, ?_, ?_, response, hself, Option.some.inj hstatus, Option.some.inj hbody⟩
      · rw [hsame]
        exact hclaimed.1
      · rw [hsame]
        exact hclaimed.2
    · rw [if_neg hid] at hstatus hbody ⊢
      exact (h.stored row hrow status body hstatus hbody).mono hext

theorem insert_some {t t' : IdempotencyTable} {claim : String × String} {hash : String} {id : Int}
    (h : t.insert claim hash = some (id, t')) :
    t'.rows = t.rows ++ [t.newRow claim hash] ∧ id = (t.newRow claim hash).id ∧
      claim ∉ t.rows.map IdempotencyRecord.claim := by
  unfold IdempotencyTable.insert at h
  split at h
  · cases h
  · rename_i hnew
    cases h
    exact ⟨rfl, rfl, hnew⟩

theorem insert_none {t : IdempotencyTable} {claim : String × String} {hash : String}
    (h : t.insert claim hash = none) : ∃ row ∈ t.rows, row.claim = claim := by
  unfold IdempotencyTable.insert at h
  split at h
  · rename_i htaken
    exact List.mem_map.mp htaken
  · cases h

/-- A request whose claim was free starts its handler with the row it has inserted. -/
theorem Protocol.claimed_free {claim : String × String} {id : Int} {table : IdempotencyTable}
    (h : Protocol sha256 requests s) (harrived : s.pcs i = .arrived)
    (hclaim : (requests i).claim? = some claim)
    (hinsert : s.table.insert claim ((requests i).hash sha256) = some (id, table)) :
    Protocol sha256 requests ({ s with table := table }.execute i (some id)) := by
  rcases insert_some hinsert with ⟨hrows, hid, hfree⟩
  have hmine : ∃ row ∈ table.rows, row.id = id ∧ row.claim = claim ∧
      ClaimedBy sha256 requests i row := by
    refine ⟨s.table.newRow claim ((requests i).hash sha256), ?_, hid.symm, rfl, hclaim, rfl⟩
    rw [hrows]
    exact List.mem_append_right _ (List.mem_singleton_self _)
  apply h.execute harrived
  · -- the rows of before are still there
    intro row hrow
    rw [hrows]
    exact List.mem_append_left _ hrow
  · -- and one more, with the id of this execution
    intro row hrow
    rw [hrows] at hrow
    rcases List.mem_append.mp hrow with hrow | hrow
    · exact Or.inl hrow
    · rw [List.mem_singleton.mp hrow]
      exact Or.inr rfl
  · intro claim' hsome
    rw [hclaim] at hsome
    rw [← Option.some.inj hsome]
    refine ⟨?_, ?_⟩
    · rcases hmine with ⟨row, hrow, _, hrowClaim, hclaimed⟩
      exact ⟨row, hrow, hrowClaim, hclaimed⟩
    · -- whoever had executed under this claim would have left its row
      intro j hj htaken
      rcases h.claimed j hj claim htaken with ⟨row, hrow, hrowClaim, _⟩
      exact hfree (List.mem_map.mpr ⟨row, hrow, hrowClaim⟩)
  · -- which this request has claimed
    intro id' hsome
    rw [← Option.some.inj hsome]
    rcases hmine with ⟨row, hrow, hrowId, _, hclaimed⟩
    exact ⟨row, hrow, hrowId, hclaimed⟩

/-- What is answered to a request whose claim another row holds is in its place: a replay
is of a response some execution of this claim has answered. -/
theorem Protocol.placed_answerTaken {claim : String × String} {existing : IdempotencyRecord}
    (h : Protocol sha256 requests s) (hnot : i ∉ s.executions)
    (hclaim : (requests i).claim? = some claim) (hfind : s.table.find? claim = some existing) :
    Placed sha256 requests s i
      (.answered (answerTaken ((requests i).hash sha256) claim.2 existing)) := by
  have hmem := List.mem_of_find?_eq_some hfind
  have hexisting : existing.claim = claim := by simpa using List.find?_some hfind
  unfold answerTaken
  by_cases hhash : existing.requestHash ≠ (requests i).hash sha256
  · rw [if_pos hhash]
    rfl
  · rw [if_neg hhash]
    split
    · -- a completed row: its response came from an execution of the same claim and hash
      rename_i status body hstatus hbody
      have hsource := h.stored existing hmem status body hstatus hbody
      rw [hexisting, not_not.mp hhash] at hsource
      exact ⟨hnot, claim, hclaim, hsource⟩
    · rfl

/-- A request stands at an own answer only when its place says so. -/
theorem ne_own_of_pc {pc : RequestPc} (hpc : s.pcs i = pc)
    (hpending : ∀ response, pc ≠ .answered (.own response)) (response : HandlerResponse) :
    s.pcs i ≠ .answered (.own response) := by
  rw [hpc]
  exact hpending response

/-- A step of a request keeps the protocol. -/
theorem Protocol.advance (h : Protocol sha256 requests s) (i : Nat) :
    Protocol sha256 requests (s.advance sha256 requests i) := by
  have hplaced := h.placed i
  unfold IdempotencyState.advance
  cases hpc : s.pcs i with
  | arrived =>
      rw [hpc] at hplaced
      cases hclaim : (requests i).claim? with
      | none =>
          -- no key was sent: the handler runs and no row is claimed
          dsimp only
          apply h.execute hpc (fun _ hrow => hrow) (fun _ hrow => Or.inl hrow)
          · intro claim hsome
            rw [hclaim] at hsome
            cases hsome
          · intro id hid
            cases hid
      | some claim =>
          cases hinsert : s.table.insert claim ((requests i).hash sha256) with
          | none =>
              simp only [hinsert]
              apply h.setPc (ne_own_of_pc hpc (by simp))
              exact ⟨hplaced, hclaim, insert_none hinsert⟩
          | some inserted =>
              simp only [hinsert]
              exact h.claimed_free hpc hclaim hinsert
  | conflicted claim =>
      rw [hpc] at hplaced
      rcases hplaced with ⟨hnot, hclaim, taken, htaken, htakenClaim⟩
      cases hfind : s.table.find? claim with
      | none =>
          -- rows are never removed, so the one the insert met is still there
          have hnone := List.find?_eq_none.mp hfind taken htaken
          simp [htakenClaim] at hnone
      | some existing =>
          simp only [hfind]
          apply h.setPc (ne_own_of_pc hpc (by simp))
          exact h.placed_answerTaken hnot hclaim hfind
  | handled recordId response =>
      rw [hpc] at hplaced
      have hcurrent := ne_own_of_pc hpc (by simp)
      cases recordId with
      | none => exact h.setPc hcurrent hplaced.1
      | some recordId =>
          dsimp only
          split
          · exact h.complete hpc
          · exact h.setPc hcurrent hplaced.1
  | running recordId => exact h
  | answered answer => exact h
  | raised => exact h

/-- The end of a handler keeps the protocol. -/
theorem Protocol.finish (h : Protocol sha256 requests s) (i : Nat) (outcome : HandlerOutcome) :
    Protocol sha256 requests (s.finish i outcome) := by
  have hplaced := h.placed i
  unfold IdempotencyState.finish
  cases hpc : s.pcs i with
  | running recordId =>
      rw [hpc] at hplaced
      have hcurrent := ne_own_of_pc hpc (by simp)
      cases outcome with
      | answers response => exact h.setPc hcurrent hplaced
      | raises => exact h.setPc hcurrent hplaced.1
  | arrived => exact h
  | conflicted claim => exact h
  | handled recordId response => exact h
  | answered answer => exact h
  | raised => exact h

/-- The protocol holds in every state of every run. -/
theorem protocol_run (sha256 : List UInt8 → String) (requests : Nat → WriteRequest)
    (events : List IdempotencyEvent) :
    Protocol sha256 requests (Lib.run (step sha256 requests) initial events) := by
  apply Lib.run_preserves _ protocol_initial
  intro s event h
  cases event with
  | advance i => exact h.advance i
  | finish i outcome => exact h.finish i outcome

/-! ## One execution -/

/-- For the requests with one scope and one key, in any run: at most one execution of
the handler, and every other request that is through got a 409 or the status and
body that execution answered. -/
theorem handler_runs_at_most_once (sha256 : List UInt8 → String) (requests : Nat → WriteRequest)
    (events : List IdempotencyEvent) (claim : String × String) :
    let s := Lib.run (step sha256 requests) initial events
    (s.executions.filter fun i => (requests i).claim? = some claim).length ≤ 1 ∧
      ∀ j, (requests j).claim? = some claim → j ∉ s.executions → (s.pcs j).Finished →
        (∃ error, s.pcs j = .answered (.conflict error) ∧ error.statusCode = 409) ∨
        ∃ i ∈ s.executions, (requests i).claim? = some claim ∧
          ∃ response contentType, s.pcs i = .answered (.own response) ∧
            s.pcs j = .answered (.replay response.status response.body contentType) := by
  intro s
  have h := protocol_run sha256 requests events
  refine ⟨?_, ?_⟩
  · -- two executions of one claim are the same request
    apply Lib.length_le_one (h.once.filter _)
    intro i hi j hj
    simp only [List.mem_filter, decide_eq_true_eq] at hi hj
    exact h.apart i hi.1 j hj.1 claim hi.2 hj.2
  · intro j hclaim hnot hfinished
    have hplaced := h.placed j
    -- a request that has not executed is finished only by a conflict or a replay
    cases hpc : s.pcs j with
    | raised =>
        rw [show (Lib.run (step sha256 requests) initial events).pcs j = .raised from hpc] at hplaced
        exact absurd hplaced hnot
    | answered answer =>
        rw [show (Lib.run (step sha256 requests) initial events).pcs j = .answered answer from hpc]
          at hplaced
        cases answer with
        | own response => exact absurd hplaced hnot
        | conflict error => exact Or.inl ⟨error, rfl, hplaced⟩
        | replay status body contentType =>
            rcases hplaced with ⟨_, claim', hclaim', i, hi, hiClaim, _, response, hown, rfl, rfl⟩
            rw [hclaim] at hclaim'
            rw [← Option.some.inj hclaim'] at hiClaim
            exact Or.inr ⟨i, hi, hiClaim, response, contentType, hown, rfl⟩
    | arrived =>
        rw [hpc] at hfinished
        exact hfinished.elim
    | conflicted claim =>
        rw [hpc] at hfinished
        exact hfinished.elim
    | running recordId =>
        rw [hpc] at hfinished
        exact hfinished.elim
    | handled recordId response =>
        rw [hpc] at hfinished
        exact hfinished.elim

/-! ## Replays to the same request -/

/-- Every request that is replayed agrees with the one whose handler has answered. -/
def Faithful (requests : Nat → WriteRequest) (s : IdempotencyState) : Prop :=
  ∀ j status body contentType, s.pcs j = .answered (.replay status body contentType) →
    ∀ i ∈ s.executions, (requests i).claim? = (requests j).claim? →
      (requests i).Agrees (requests j)

/-- A handler's answer that the middleware stores. -/
def created : HandlerResponse := ⟨⟨201, by decide⟩, "\x7b\x7d", none⟩

/-- One request runs and completes; another with the same claim and hash arrives. -/
def replayEvents : List IdempotencyEvent :=
  [.advance 0, .finish 0 (.answers created), .advance 0, .advance 1, .advance 1]

/-- The second request is replayed the answer of the first. -/
theorem replay_of_same_hash (sha256 : List UInt8 → String) (requests : Nat → WriteRequest)
    {claim : String × String} (h₀ : (requests 0).claim? = some claim)
    (h₁ : (requests 1).claim? = some claim)
    (hhash : (requests 0).hash sha256 = (requests 1).hash sha256) :
    let s := Lib.run (step sha256 requests) initial replayEvents
    s.pcs 1 = .answered (.replay created.status created.body "application/json") ∧
      s.executions = [0] := by
  let row := initial.table.newRow claim ((requests 0).hash sha256)
  let taken : IdempotencyTable := ⟨[row], List.nodup_singleton _, List.nodup_singleton _⟩
  let stored := taken.complete 1 created
  -- the first request claims the row, answers, and stores its answer
  let running := { initial with table := taken }.execute 0 (some 1)
  let handled := running.setPc 0 (.handled (some 1) created)
  let answered := { handled with table := stored }.setPc 0 (.answered (.own created))
  have hclaim : initial.advance sha256 requests 0 = running := by
    unfold advance
    have harrived : initial.pcs 0 = .arrived := rfl
    have hinsert : initial.table.insert claim ((requests 0).hash sha256) = some (1, taken) := rfl
    simp only [harrived, h₀, hinsert]
    rfl
  have hfinish : running.finish 0 (.answers created) = handled := rfl
  have hcomplete : handled.advance sha256 requests 0 = answered := rfl
  -- the second finds the row taken, and completed
  have htaken : answered.advance sha256 requests 1 = answered.setPc 1 (.conflicted claim) := by
    unfold advance
    have harrived : answered.pcs 1 = .arrived := rfl
    have hinsert : answered.table.insert claim ((requests 1).hash sha256) = none := by
      unfold IdempotencyTable.insert
      rw [dif_pos]
      exact List.mem_singleton_self _
    simp only [harrived, h₁, hinsert]
  have hreplay : (answered.setPc 1 (.conflicted claim)).advance sha256 requests 1 =
      (answered.setPc 1 (.conflicted claim)).setPc 1
        (.answered (.replay created.status created.body "application/json")) := by
    unfold advance
    have hconflicted : (answered.setPc 1 (.conflicted claim)).pcs 1 = .conflicted claim := rfl
    have hfind : (answered.setPc 1 (.conflicted claim)).table.find? claim =
        some (IdempotencyTable.completed created row) := by
      apply List.find?_cons_of_pos
      exact decide_eq_true rfl
    have hanswer : answerTaken ((requests 1).hash sha256) claim.2
        (IdempotencyTable.completed created row) =
          .replay created.status created.body "application/json" := by
      unfold answerTaken
      have hsame : (IdempotencyTable.completed created row).requestHash =
          (requests 1).hash sha256 := hhash
      rw [if_neg (not_not.mpr hsame)]
      rfl
    simp only [hconflicted, hfind, hanswer]
  intro s
  have hs : s = (answered.setPc 1 (.conflicted claim)).setPc 1
      (.answered (.replay created.status created.body "application/json")) := by
    show ((((initial.advance sha256 requests 0).finish 0 (.answers created)).advance sha256
      requests 0).advance sha256 requests 1).advance sha256 requests 1 = _
    rw [hclaim, hfinish, hcomplete, htaken, hreplay]
  rw [hs]
  exact ⟨rfl, rfl⟩

/-- Replays only go to the same request, in every run of the requests that clients
send, iff no two of them with one scope, key and hash differ in what a handler's
effect depends on. -/
theorem replays_faithful_iff (sha256 : List UInt8 → String) (clients : Set WriteRequest) :
    (∀ requests : Nat → WriteRequest, (∀ i, requests i ∈ clients) → ∀ events,
        Faithful requests (Lib.run (step sha256 requests) initial events)) ↔
      ∀ q₀ ∈ clients, ∀ q ∈ clients, ∀ claim, q₀.claim? = some claim → q.claim? = some claim →
        q₀.hash sha256 = q.hash sha256 → q₀.Agrees q := by
  constructor
  · intro h q₀ hq₀ q hq claim hclaim₀ hclaim hhash
    -- `q₀` runs alone and completes, then `q` arrives
    let requests : Nat → WriteRequest := fun i => if i = 0 then q₀ else q
    have hclients : ∀ i, requests i ∈ clients := by
      intro i
      by_cases hi : i = 0
      · simpa only [requests, if_pos hi] using hq₀
      · simpa only [requests, if_neg hi] using hq
    have h₀ : requests 0 = q₀ := rfl
    have h₁ : requests 1 = q := rfl
    have hrun := replay_of_same_hash sha256 requests hclaim₀ hclaim hhash
    have hexecuted : 0 ∈ (Lib.run (step sha256 requests) initial replayEvents).executions := by
      rw [hrun.2]
      exact List.mem_singleton_self 0
    have hagrees := h requests hclients replayEvents 1 _ _ _ hrun.1 0 hexecuted
    rw [h₀, h₁] at hagrees
    exact hagrees (hclaim₀.trans hclaim.symm)
  · intro h requests hclients events j status body contentType hreplay i hi hsame
    have hprotocol := protocol_run sha256 requests events
    have hplaced := hprotocol.placed j
    rw [hreplay] at hplaced
    rcases hplaced with ⟨_, claim, hclaim, k, hk, hkClaim, hkHash, _⟩
    rw [hclaim] at hsame
    -- the execution under this claim is the one whose answer is replayed
    have hik : i = k := hprotocol.apart i hi k hk claim hsame hkClaim
    rw [hik]
    exact h _ (hclients k) _ (hclients j) claim hkClaim hclaim hkHash

/-- The bytes as characters, in place of a digest. -/
def plainDigest (bytes : List UInt8) : String :=
  String.ofList (bytes.map fun b => Char.ofNat b.toNat)

/-- A policy sent as text in the query, with an empty body. -/
def dslRequest (query : String) : WriteRequest where
  method := "POST"
  path := "/policies/dsl"
  query := query
  apiKey := some "testkey"
  idempotencyKey := some "policy-1"

/-- Two policies under one key. -/
def dslRequests (i : Nat) : WriteRequest :=
  dslRequest (if i = 0 then "dsl=allow:%0A%20%20action:%20read" else "dsl=deny:%0A%20%20action:%20share")

/-- The second policy is never written: it is answered with the response to the first. -/
theorem dsl_policy_dropped :
    let s := Lib.run (step plainDigest dslRequests) initial replayEvents
    s.pcs 1 = .answered (.replay created.status created.body "application/json") ∧
      s.executions = [0] ∧ (dslRequests 0).query ≠ (dslRequests 1).query ∧
      ¬ Faithful dslRequests s := by
  intro s
  have hclaim : (dslRequests 0).claim? = some ("POST:/policies/dsl", "policy-1") := by
    decide +kernel
  have hclaim' : (dslRequests 1).claim? = some ("POST:/policies/dsl", "policy-1") := by
    decide +kernel
  have hrun := replay_of_same_hash plainDigest dslRequests hclaim hclaim' rfl
  have hquery : (dslRequests 0).query ≠ (dslRequests 1).query := by decide
  refine ⟨hrun.1, hrun.2, hquery, ?_⟩
  intro hfaithful
  have hexecuted : 0 ∈ s.executions := by
    rw [hrun.2]
    exact List.mem_singleton_self 0
  have hagrees := hfaithful 1 _ _ _ hrun.1 0 hexecuted (hclaim.trans hclaim'.symm)
  exact hquery hagrees.2.2.2.2.1

end IdempotencyState

end KeyNetra
