import KeyNetra.Api.Idempotency

/-!
# KeyNetra.Api.StuckKeys — keys whose request did not complete

A row is completed when its request has been answered with a status below 500, and it is
never deleted. A request whose handler raises, or answers 500 and above, leaves its row
pending: each later request with the key is told that the first is still in progress.

* `RequestPc.Keeps` / `Owned` — the invariant: each row is pending or completed, as the
  execution that has claimed it stands;
* `Undisturbed` — what may happen besides, while a new request is on its way;
* `never_stuck_iff` — a new request with a key that nobody is using is executed or replayed,
  whatever other requests do meanwhile, exactly when no execution with the key has failed.
-/

namespace KeyNetra

/-- No response is stored. -/
def IdempotencyRecord.Pending (row : IdempotencyRecord) : Prop := row.responseStatusCode = none

/-- The execution has ended, and the middleware has stored no response. -/
def RequestPc.Failed : RequestPc → Prop
  | .raised => True
  | .answered (.own response) => 500 ≤ response.status.val
  | _ => False

/-- The request is told that its key is still in use. -/
def RequestPc.Refused (key : String) (pc : RequestPc) : Prop :=
  pc = .answered (.conflict
    (keyConflict "request with this idempotency key is still in progress" key))

/-- The row is as the execution that stands there has left it. -/
def RequestPc.Keeps (row : IdempotencyRecord) : RequestPc → Prop
  | .running recordId | .handled recordId _ => recordId = some row.id ∧ row.Pending
  | .raised => row.Pending
  | .answered (.own response) =>
      (response.status.val < 500 ∧ row.responseStatusCode = some response.status ∧
        row.responseBody = some response.body) ∨
      (500 ≤ response.status.val ∧ row.Pending)
  | _ => False

/-- The request is being executed, has been, or has been answered with a stored response. -/
def RequestPc.Served : RequestPc → Prop
  | .running _ | .handled _ _ | .raised => True
  | .answered (.own _) | .answered (.replay _ _ _) => True
  | _ => False

/-- The request that moves. -/
def IdempotencyEvent.request : IdempotencyEvent → Nat
  | .advance i | .finish i _ => i

namespace IdempotencyState

variable (sha256 : List UInt8 → String) (requests : Nat → WriteRequest)

/-- Nobody is using the key. -/
def Quiet (s : IdempotencyState) (claim : String × String) : Prop :=
  ∀ j, (requests j).claim? = some claim → s.pcs j = .arrived ∨ (s.pcs j).Finished

/-- No execution with the key has failed. -/
def NoneFailed (s : IdempotencyState) (claim : String × String) : Prop :=
  ∀ j ∈ s.executions, (requests j).claim? = some claim → ¬ (s.pcs j).Failed

/-- Each row is as the execution that has claimed it has left it. -/
def Owned (s : IdempotencyState) : Prop :=
  ∀ row ∈ s.table.rows, ∃ j ∈ s.executions, ClaimedBy sha256 requests j row ∧ (s.pcs j).Keeps row

/-- Of the requests with the key, only request `i` moves. -/
def Undisturbed (claim : String × String) (i : Nat) (events : List IdempotencyEvent) : Prop :=
  ∀ event ∈ events, event.request = i ∨ (requests event.request).claim? ≠ some claim

/-- The request is answered by its execution or by a stored response, and is not told that its
key is in use. -/
def GetsAnswer (s : IdempotencyState) (claim : String × String) (i : Nat) : Prop :=
  ¬ (s.pcs i).Refused claim.2 ∧ ((s.pcs i).Finished → i ∈ s.executions ∨
    ∃ status body contentType, s.pcs i = .answered (.replay status body contentType))

variable {sha256 requests} {s s' : IdempotencyState} {i : Nat} {claim : String × String}

/-! ## Every row has its execution -/

theorem owned_initial : Owned sha256 requests initial := by
  intro row hrow
  exact absurd hrow List.not_mem_nil

/-- A request that moves takes along the rows it keeps. -/
theorem Owned.move {pc : RequestPc} (h : Owned sha256 requests s)
    (hkeeps : ∀ row ∈ s.table.rows, (s.pcs i).Keeps row → pc.Keeps row) :
    Owned sha256 requests (s.setPc i pc) := by
  intro row hrow
  rcases h row hrow with ⟨j, hj, hclaimed, hkept⟩
  refine ⟨j, hj, hclaimed, ?_⟩
  by_cases hji : j = i
  · rw [hji] at hkept ⊢
    have hself : (s.setPc i pc).pcs i = pc := Function.update_self ..
    rw [hself]
    exact hkeeps row hrow hkept
  · have hother : (s.setPc i pc).pcs j = s.pcs j := Function.update_of_ne hji ..
    rw [hother]
    exact hkept

/-- A request that is executed keeps the row it inserts. -/
theorem Owned.execute {table : IdempotencyTable} {recordId : Option Int}
    (h : Owned sha256 requests s) (harrived : s.pcs i = .arrived)
    (hrows : ∀ row ∈ table.rows, row ∈ s.table.rows ∨
      (ClaimedBy sha256 requests i row ∧ recordId = some row.id ∧ row.Pending)) :
    Owned sha256 requests ({ s with table := table }.execute i recordId) := by
  intro row hrow
  rcases hrows row hrow with hold | ⟨hclaimed, hkept⟩
  · rcases h row hold with ⟨j, hj, hclaimed, hkept⟩
    have hji : j ≠ i := by
      rintro rfl
      rw [harrived] at hkept
      exact hkept
    refine ⟨j, List.mem_append_left _ hj, hclaimed, ?_⟩
    have hother : ({ s with table := table }.execute i recordId).pcs j = s.pcs j :=
      Function.update_of_ne hji ..
    rw [hother]
    exact hkept
  · refine ⟨i, List.mem_append_right _ (List.mem_singleton_self i), hclaimed, ?_⟩
    have hself : ({ s with table := table }.execute i recordId).pcs i = .running recordId :=
      Function.update_self ..
    rw [hself]
    exact hkept

/-- A stored response is in the row of the request that stores it, and no other row changes. -/
theorem Owned.complete {recordId : Int} {response : HandlerResponse}
    (h : Owned sha256 requests s) (hprotocol : Protocol sha256 requests s)
    (hhandled : s.pcs i = .handled (some recordId) response) (hstatus : response.status.val < 500) :
    Owned sha256 requests
      ({ s with table := s.table.complete recordId response }.setPc i (.answered (.own response))) := by
  intro row' hrow'
  rcases List.mem_map.mp hrow' with ⟨row, hrow, rfl⟩
  rcases h row hrow with ⟨j, hj, hclaimed, hkept⟩
  by_cases hid : row.id = recordId
  · -- the execution that keeps the row is the request that completes it
    have hplaced := hprotocol.placed i
    rw [hhandled] at hplaced
    rcases hplaced with ⟨hstarted, hheld⟩
    rcases hheld recordId rfl with ⟨own, hown, hownId, hownClaimed⟩
    have hsame : row = own := Lib.eq_of_key_eq s.table.ids hrow hown (hid.trans hownId.symm)
    have hself : ({ s with table := s.table.complete recordId response }.setPc i
        (.answered (.own response))).pcs i = .answered (.own response) := Function.update_self ..
    rw [if_pos hid]
    refine ⟨i, hstarted, ?_, ?_⟩
    · rw [hsame]
      exact hownClaimed
    · rw [hself]
      exact Or.inl ⟨hstatus, rfl, rfl⟩
  · rw [if_neg hid]
    have hji : j ≠ i := by
      rintro rfl
      rw [hhandled] at hkept
      exact hid (Option.some.inj hkept.1).symm
    refine ⟨j, hj, hclaimed, ?_⟩
    have hother : ({ s with table := s.table.complete recordId response }.setPc i
        (.answered (.own response))).pcs j = s.pcs j := Function.update_of_ne hji ..
    rw [hother]
    exact hkept

theorem Owned.advance (h : Owned sha256 requests s) (hprotocol : Protocol sha256 requests s)
    (i : Nat) : Owned sha256 requests (s.advance sha256 requests i) := by
  unfold IdempotencyState.advance
  rcases hpc : s.pcs i with _ | claim | recordId | ⟨_ | recordId, response⟩ | answer | _
  · -- a new request inserts its row, or finds it taken
    dsimp only
    rcases hclaim : (requests i).claim? with _ | claim
    · exact h.execute hpc fun row hrow => Or.inl hrow
    · dsimp only
      rcases hinsert : s.table.insert claim ((requests i).hash sha256) with _ | ⟨recordId, table⟩
      · apply h.move
        intro row _ hkept
        rw [hpc] at hkept
        exact hkept.elim
      · rcases insert_some hinsert with ⟨hrows, hid, -⟩
        apply h.execute hpc
        intro row hrow
        rw [hrows] at hrow
        rcases List.mem_append.mp hrow with hold | hnew
        · exact Or.inl hold
        · rw [List.mem_singleton.mp hnew]
          exact Or.inr ⟨⟨hclaim, rfl⟩, congrArg some hid, rfl⟩
  · dsimp only
    split
    · apply h.move
      intro row _ hkept
      rw [hpc] at hkept
      exact hkept.elim
    · apply h.move
      intro row _ hkept
      rw [hpc] at hkept
      exact hkept.elim
  · exact h
  · apply h.move
    intro row _ hkept
    rw [hpc] at hkept
    exact absurd hkept.1 (by simp)
  · dsimp only
    split
    · rename_i hstatus
      exact h.complete hprotocol hpc hstatus
    · rename_i hstatus
      apply h.move
      intro row _ hkept
      rw [hpc] at hkept
      exact Or.inr ⟨Nat.le_of_not_lt hstatus, hkept.2⟩
  · exact h
  · exact h

theorem Owned.finish (h : Owned sha256 requests s) (i : Nat) (outcome : HandlerOutcome) :
    Owned sha256 requests (s.finish i outcome) := by
  unfold IdempotencyState.finish
  rcases hpc : s.pcs i with _ | claim | recordId | ⟨recordId, response⟩ | answer | _
  · exact h
  · exact h
  · rcases outcome with response | _
    · apply h.move
      intro row _ hkept
      rw [hpc] at hkept
      exact hkept
    · apply h.move
      intro row _ hkept
      rw [hpc] at hkept
      exact hkept.2
  · exact h
  · exact h
  · exact h

/-- The protocol, and rows that are as their executions have left them. -/
structure Tracked (sha256 : List UInt8 → String) (requests : Nat → WriteRequest)
    (s : IdempotencyState) : Prop where
  protocol : Protocol sha256 requests s
  owned : Owned sha256 requests s

theorem Tracked.step (h : Tracked sha256 requests s) (event : IdempotencyEvent) :
    Tracked sha256 requests (step sha256 requests s event) := by
  rcases event with i | ⟨i, outcome⟩
  · exact ⟨h.protocol.advance i, h.owned.advance h.protocol i⟩
  · exact ⟨h.protocol.finish i outcome, h.owned.finish i outcome⟩

/-- Every state of every run is tracked. -/
theorem tracked_run (sha256 : List UInt8 → String) (requests : Nat → WriteRequest)
    (events : List IdempotencyEvent) :
    Tracked sha256 requests (Lib.run (IdempotencyState.step sha256 requests) initial events) := by
  apply Lib.run_preserves _ ⟨protocol_initial, owned_initial⟩
  intro s event h
  exact h.step event

/-! ## A new request -/

/-- A step moves one request, and starts no other. -/
theorem step_other (sha256 : List UInt8 → String) (requests : Nat → WriteRequest)
    (s : IdempotencyState) (event : IdempotencyEvent) {j : Nat} (hj : j ≠ event.request) :
    (step sha256 requests s event).pcs j = s.pcs j ∧
      (j ∈ (step sha256 requests s event).executions ↔ j ∈ s.executions) := by
  have hmove : ∀ (s : IdempotencyState) pc, (s.setPc event.request pc).pcs j = s.pcs j := by
    intro s pc
    exact Function.update_of_ne hj ..
  have hstart : ∀ (s : IdempotencyState) recordId,
      j ∈ (s.execute event.request recordId).executions ↔ j ∈ s.executions := by
    intro s recordId
    constructor
    · intro hmem
      rcases List.mem_append.mp hmem with hmem | hmem
      · exact hmem
      · exact absurd (List.mem_singleton.mp hmem) hj
    · exact List.mem_append_left _
  -- every branch moves the pc of the event's own request
  rcases event with i | ⟨i, outcome⟩
  · show (s.advance sha256 requests i).pcs j = s.pcs j ∧
      (j ∈ (s.advance sha256 requests i).executions ↔ j ∈ s.executions)
    unfold advance
    split
    · split
      · exact ⟨hmove s _, hstart s _⟩
      · split
        · rename_i table _
          exact ⟨hmove { s with table := table } _, hstart { s with table := table } _⟩
        · exact ⟨hmove s _, Iff.rfl⟩
    · split
      · exact ⟨hmove s _, Iff.rfl⟩
      · exact ⟨hmove s _, Iff.rfl⟩
    · -- only the completion of a row writes the table as well
      rename_i recordId response _
      split
      · exact ⟨hmove { s with table := s.table.complete recordId response } _, Iff.rfl⟩
      · exact ⟨hmove s _, Iff.rfl⟩
    · exact ⟨hmove s _, Iff.rfl⟩
    · exact ⟨rfl, Iff.rfl⟩
    · exact ⟨rfl, Iff.rfl⟩
    · exact ⟨rfl, Iff.rfl⟩
  · show (s.finish i outcome).pcs j = s.pcs j ∧
      (j ∈ (s.finish i outcome).executions ↔ j ∈ s.executions)
    unfold finish
    split
    · split
      · exact ⟨hmove s _, Iff.rfl⟩
      · exact ⟨hmove s _, Iff.rfl⟩
    · exact ⟨rfl, Iff.rfl⟩

/-- Requests with one key and one body have one hash. -/
theorem hash_eq {j : Nat} (hj : (requests j).claim? = some claim)
    (hi : (requests i).claim? = some claim) (hbody : (requests j).body = (requests i).body) :
    (requests j).hash sha256 = (requests i).hash sha256 := by
  have hscope : ∀ {k : Nat}, (requests k).claim? = some claim → (requests k).scope = claim.1 := by
    intro k hk
    unfold WriteRequest.claim? at hk
    split at hk
    · split at hk
      · split at hk
        · cases hk
        · cases hk
          rfl
      · cases hk
    · cases hk
  unfold WriteRequest.hash
  rw [hscope hj, hscope hi, hbody]

/-- A row that stores a response is replayed to a request with its hash, and a pending row
refuses it. -/
theorem answerTaken_stored {row : IdempotencyRecord} {status : HttpStatus} {body key : String}
    (hstatus : row.responseStatusCode = some status) (hbody : row.responseBody = some body) :
    answerTaken row.requestHash key row =
      .replay status body (orText row.responseContentType "application/json") := by
  unfold answerTaken
  rw [if_neg (not_not.mpr rfl), hstatus, hbody]

theorem answerTaken_pending {row : IdempotencyRecord} (h : row.Pending) (key : String) :
    answerTaken row.requestHash key row =
      .conflict (keyConflict "request with this idempotency key is still in progress" key) := by
  unfold answerTaken
  rw [if_neg (not_not.mpr rfl), show row.responseStatusCode = none from h]

/-- A request that finds its row taken is answered from the row. -/
theorem advance_conflicted {row : IdempotencyRecord} (hpc : s.pcs i = .conflicted claim)
    (hrow : row ∈ s.table.rows) (hclaim : row.claim = claim)
    (hhash : (requests i).hash sha256 = row.requestHash) :
    s.advance sha256 requests i =
      s.setPc i (.answered (answerTaken row.requestHash claim.2 row)) := by
  have hfind : s.table.find? claim = some row := by
    rcases hfound : s.table.find? claim with _ | other
    · have hnone := List.find?_eq_none.mp hfound row hrow
      simp [hclaim] at hnone
    · have hother : other.claim = claim := by simpa using List.find?_some hfound
      have hmem : other ∈ s.table.rows := List.mem_of_find?_eq_some hfound
      rw [Lib.eq_of_key_eq s.table.claims hmem hrow (hother.trans hclaim.symm)]
  unfold advance
  rw [hpc]
  dsimp only
  rw [hfind, hhash]

/-- How far a new request has come, while the others with its key stand where they stood. -/
structure Underway (sha256 : List UInt8 → String) (requests : Nat → WriteRequest)
    (s : IdempotencyState) (claim : String × String) (i : Nat) (s' : IdempotencyState) : Prop where
  tracked : Tracked sha256 requests s'
  others : ∀ j, j ≠ i → (requests j).claim? = some claim →
    s'.pcs j = s.pcs j ∧ (j ∈ s'.executions ↔ j ∈ s.executions)
  place : s'.pcs i = .arrived ∨ s'.pcs i = .conflicted claim ∨ (s'.pcs i).Served

/-- A request whose key is free of failures is not refused. -/
theorem Underway.replayed (h : Underway sha256 requests s claim i s')
    (hquiet : Quiet requests s claim) (hnone : NoneFailed requests s claim)
    (hsame : ∀ j ∈ s.executions, (requests j).claim? = some claim →
      (requests j).body = (requests i).body) (hi : (requests i).claim? = some claim)
    (hpc : s'.pcs i = .conflicted claim) :
    ((s'.advance sha256 requests i).pcs i).Served := by
  have hplaced := h.tracked.protocol.placed i
  rw [hpc] at hplaced
  rcases hplaced with ⟨-, -, row, hrow, hrowClaim⟩
  rcases h.tracked.owned row hrow with ⟨j, hj, ⟨hjClaim, hjHash⟩, hkept⟩
  rw [hrowClaim] at hjClaim
  have hji : j ≠ i := by
    rintro rfl
    rw [hpc] at hkept
    exact hkept
  rcases h.others j hji hjClaim with ⟨hstands, hstarted⟩
  have hjStarted : j ∈ s.executions := hstarted.mp hj
  have hhash : (requests i).hash sha256 = row.requestHash :=
    (hash_eq hjClaim hi (hsame j hjStarted hjClaim)).symm.trans hjHash
  have hfailed := hnone j hjStarted hjClaim
  have hdone := hquiet j hjClaim
  rw [hstands] at hkept
  -- the execution that keeps the row has answered, and its response is stored
  rcases hstood : s.pcs j with _ | claim' | recordId | ⟨recordId, response⟩ | answer | _
  · -- arrived and conflicted keep no row
    rw [hstood] at hkept
    exact hkept.elim
  · rw [hstood] at hkept
    exact hkept.elim
  · -- running and handled are not quiet
    rw [hstood] at hdone
    rcases hdone with hdone | hdone
    · cases hdone
    · exact hdone.elim
  · rw [hstood] at hdone
    rcases hdone with hdone | hdone
    · cases hdone
    · exact hdone.elim
  · -- answered: by a response below 500, for none failed
    rw [hstood] at hkept hfailed
    rcases answer with response | ⟨status, body, contentType⟩ | error
    · rcases hkept with ⟨-, hstatus, hbody⟩ | ⟨herror, -⟩
      · rw [advance_conflicted hpc hrow hrowClaim hhash, answerTaken_stored hstatus hbody]
        have hself : (s'.setPc i (.answered (.replay response.status response.body
            (orText row.responseContentType "application/json")))).pcs i =
              .answered (.replay response.status response.body
                (orText row.responseContentType "application/json")) := Function.update_self ..
        rw [hself]
        trivial
      · exact absurd herror hfailed
    · exact hkept.elim
    · exact hkept.elim
  · -- raised: that would be a failure
    rw [hstood] at hfailed
    exact absurd trivial hfailed

omit sha256 requests in
theorem setPc_self (s : IdempotencyState) (i : Nat) (pc : RequestPc) : (s.setPc i pc).pcs i = pc :=
  Function.update_self ..

/-- A new request inserts its row and starts, or finds the row taken. -/
theorem advance_arrived (hi : (requests i).claim? = some claim) (hpc : s.pcs i = .arrived) :
    (s.advance sha256 requests i).pcs i = .conflicted claim ∨
      ((s.advance sha256 requests i).pcs i).Served := by
  unfold advance
  rw [hpc, hi]
  dsimp only
  rcases s.table.insert claim ((requests i).hash sha256) with _ | ⟨recordId, table⟩
  · exact Or.inl (setPc_self ..)
  · right
    have hself : ({ s with table := table }.execute i (some recordId)).pcs i =
        .running (some recordId) := setPc_self ..
    dsimp only
    rw [hself]
    trivial

/-- A served request stays served. -/
theorem advance_served (h : (s.pcs i).Served) : ((s.advance sha256 requests i).pcs i).Served := by
  have hown : ∀ (s : IdempotencyState) response,
      ((s.setPc i (.answered (.own response))).pcs i).Served := by
    intro s response
    rw [setPc_self]
    trivial
  unfold advance
  rcases hpc : s.pcs i with _ | claim' | recordId | ⟨_ | recordId, response⟩ | answer | _
  · -- arrived and conflicted have not been served yet
    rw [hpc] at h
    exact h.elim
  · rw [hpc] at h
    exact h.elim
  · -- running: nothing to advance
    exact h
  · -- handled, without a row
    exact hown _ _
  · -- handled: the row is completed or not, and the response is its own
    dsimp only
    split
    · exact hown _ _
    · exact hown _ _
  · -- answered, raised
    exact h
  · exact h

theorem finish_served (h : (s.pcs i).Served) (outcome : HandlerOutcome) :
    ((s.finish i outcome).pcs i).Served := by
  unfold finish
  split
  · split
    · rw [setPc_self]
      trivial
    · rw [setPc_self]
      trivial
  · exact h

/-- A request that has not started its handler does not end it. -/
theorem finish_waiting (claim : String × String)
    (h : s.pcs i = .arrived ∨ s.pcs i = .conflicted claim)
    (outcome : HandlerOutcome) : s.finish i outcome = s := by
  unfold finish
  rcases h with hpc | hpc
  · rw [hpc]
  · rw [hpc]

/-- One event, of the new request or of a request with another key. -/
theorem Underway.step (h : Underway sha256 requests s claim i s')
    (hquiet : Quiet requests s claim) (hnone : NoneFailed requests s claim)
    (hsame : ∀ j ∈ s.executions, (requests j).claim? = some claim →
      (requests j).body = (requests i).body) (hi : (requests i).claim? = some claim)
    (event : IdempotencyEvent)
    (hevent : event.request = i ∨ (requests event.request).claim? ≠ some claim) :
    Underway sha256 requests s claim i (step sha256 requests s' event) := by
  have htracked := h.tracked.step event
  -- a step of the retry itself, or one of a request under another claim
  rcases hevent with hmine | hother
  · refine ⟨htracked, ?_, ?_⟩
    · intro j hj hjClaim
      rcases step_other sha256 requests s' event
        (hmine ▸ hj) with ⟨hpc, hexecutions⟩
      rcases h.others j hj hjClaim with ⟨hstands, hstarted⟩
      exact ⟨hpc.trans hstands, hexecutions.trans hstarted⟩
    · -- arrived, conflicted, replayed: the retry only moves forward
      rcases event with k | ⟨k, outcome⟩
      · obtain rfl : k = i := hmine
        rcases h.place with hpc | hpc | hpc
        · exact Or.inr (advance_arrived hi hpc)
        · exact Or.inr (Or.inr (h.replayed hquiet hnone hsame hi hpc))
        · exact Or.inr (Or.inr (advance_served hpc))
      · obtain rfl : k = i := hmine
        rcases h.place with hpc | hpc | hpc
        · rw [show step sha256 requests s' (.finish k outcome) = s' from
            finish_waiting claim (Or.inl hpc) outcome]
          exact h.place
        · rw [show step sha256 requests s' (.finish k outcome) = s' from
            finish_waiting claim (Or.inr hpc) outcome]
          exact h.place
        · exact Or.inr (Or.inr (finish_served hpc outcome))
  · have hne : i ≠ event.request := by
      rintro rfl
      exact hother hi
    rcases step_other sha256 requests s' event hne with ⟨hpc, -⟩
    refine ⟨htracked, ?_, ?_⟩
    · intro j hj hjClaim
      have hjEvent : j ≠ event.request := by
        rintro rfl
        exact hother hjClaim
      rcases step_other sha256 requests s' event hjEvent with
        ⟨hpc, hexecutions⟩
      rcases h.others j hj hjClaim with ⟨hstands, hstarted⟩
      exact ⟨hpc.trans hstands, hexecutions.trans hstarted⟩
    · rw [hpc]
      exact h.place

/-- A request that is under way has not been refused. -/
theorem Underway.getsAnswer (h : Underway sha256 requests s claim i s') : GetsAnswer s' claim i := by
  have hplaced := h.tracked.protocol.placed i
  unfold GetsAnswer RequestPc.Refused
  rcases hpc : s'.pcs i with _ | claim' | recordId | ⟨recordId, response⟩ | answer | _
  · -- the request is still on its way
    exact ⟨by simp, fun hdone => hdone.elim⟩
  · exact ⟨by simp, fun hdone => hdone.elim⟩
  · exact ⟨by simp, fun hdone => hdone.elim⟩
  · exact ⟨by simp, fun hdone => hdone.elim⟩
  · rcases answer with response | ⟨status, body, contentType⟩ | error
    · -- answered by its own execution
      rw [hpc] at hplaced
      exact ⟨by simp, fun _ => Or.inl hplaced⟩
    · -- answered by a replay
      exact ⟨by simp, fun _ => Or.inr ⟨status, body, contentType, rfl⟩⟩
    · -- answered by a conflict, at no place where the request can be
      rcases h.place with hplace | hplace | hplace
      · rw [hpc] at hplace
        cases hplace
      · rw [hpc] at hplace
        cases hplace
      · rw [hpc] at hplace
        exact hplace.elim
  · -- raised
    rw [hpc] at hplaced
    exact ⟨by simp, fun _ => Or.inl hplaced⟩

/-- The two steps of a request whose key a failed execution has left pending. -/
theorem refused_of_failed (h : Tracked sha256 requests s) {j : Nat} (hj : j ∈ s.executions)
    (hjClaim : (requests j).claim? = some claim) (hfailed : (s.pcs j).Failed)
    (hbody : (requests j).body = (requests i).body) (hi : (requests i).claim? = some claim)
    (hpc : s.pcs i = .arrived) :
    ((((s.advance sha256 requests i).advance sha256 requests i)).pcs i).Refused claim.2 := by
  rcases h.protocol.claimed j hj claim hjClaim with ⟨row, hrow, hrowClaim, hjRow⟩
  -- the row is the failed execution's, and pending
  have hpending : row.Pending := by
    rcases h.owned row hrow with ⟨k, hk, hkRow, hkept⟩
    have hsame : k = j := h.protocol.apart k hk j hj claim (hkRow.1.trans (congrArg some hrowClaim))
      hjClaim
    rw [hsame] at hkept
    rcases hstood : s.pcs j with _ | claim' | recordId | ⟨recordId, response⟩ | answer | _
    · -- arrived, conflicted, running and handled have not failed
      rw [hstood] at hfailed
      exact hfailed.elim
    · rw [hstood] at hfailed
      exact hfailed.elim
    · rw [hstood] at hfailed
      exact hfailed.elim
    · rw [hstood] at hfailed
      exact hfailed.elim
    · -- answered: by a 5xx, whose row is left pending
      rw [hstood] at hkept hfailed
      rcases answer with response | ⟨status, body, contentType⟩ | error
      · rcases hkept with ⟨hstored, -⟩ | ⟨-, hpending⟩
        · have hfive : 500 ≤ response.status.val := hfailed
          omega
        · exact hpending
      · exact hfailed.elim
      · exact hfailed.elim
    · -- raised: the row is left pending
      rw [hstood] at hkept
      exact hkept
  have htaken : s.advance sha256 requests i = s.setPc i (.conflicted claim) := by
    have hnone : s.table.insert claim ((requests i).hash sha256) = none := by
      rcases hinsert : s.table.insert claim ((requests i).hash sha256) with _ | ⟨recordId, table⟩
      · rfl
      · exact absurd (List.mem_map.mpr ⟨row, hrow, hrowClaim⟩) (insert_some hinsert).2.2
    unfold advance
    rw [hpc, hi]
    dsimp only
    rw [hnone]
  have hhash : (requests i).hash sha256 = row.requestHash :=
    (hash_eq hjClaim hi hbody).symm.trans hjRow.2
  have hanswer := advance_conflicted (s := s.setPc i (.conflicted claim)) (setPc_self ..) hrow
    hrowClaim hhash
  rw [htaken, hanswer, answerTaken_pending hpending, setPc_self]
  rfl

/-- In every state that a run reaches, a new request with a key that nobody is using, and with
the body of the earlier attempts, gets its answer, whatever the requests with other keys do
meanwhile, exactly when none of the earlier attempts has failed. -/
theorem never_stuck_iff (sha256 : List UInt8 → String) (requests : Nat → WriteRequest)
    (events : List IdempotencyEvent) {claim : String × String} {i : Nat}
    (hquiet : Quiet requests (Lib.run (step sha256 requests) initial events) claim)
    (hi : (requests i).claim? = some claim)
    (hnew : (Lib.run (step sha256 requests) initial events).pcs i = .arrived)
    (hsame : ∀ j ∈ (Lib.run (step sha256 requests) initial events).executions,
      (requests j).claim? = some claim → (requests j).body = (requests i).body) :
    (∀ later, Undisturbed requests claim i later →
      GetsAnswer (Lib.run (step sha256 requests)
        (Lib.run (step sha256 requests) initial events) later) claim i) ↔
      NoneFailed requests (Lib.run (step sha256 requests) initial events) claim := by
  have htracked := tracked_run sha256 requests events
  generalize Lib.run (step sha256 requests) initial events = s at *
  constructor
  · intro hanswer j hj hjClaim hfailed
    -- two steps are enough for the retry to be refused
    have hrefused := refused_of_failed htracked hj hjClaim hfailed (hsame j hj hjClaim) hi hnew
    have halone : Undisturbed requests claim i [.advance i, .advance i] := by
      intro event hevent
      rcases List.mem_pair.mp hevent with rfl | rfl
      · exact Or.inl rfl
      · exact Or.inl rfl
    exact (hanswer _ halone).1 hrefused
  · intro hnone later hlater
    have hstart : Underway sha256 requests s claim i s :=
      ⟨htracked, fun j _ _ => ⟨rfl, Iff.rfl⟩, Or.inl hnew⟩
    -- the retry is on its way in every state of the run
    have hreached : Underway sha256 requests s claim i
        (Lib.run (step sha256 requests) s later) := by
      apply Lib.run_invariant _ hstart (Lib.along_of_forall hlater)
      intro s' event h hevent
      exact h.step hquiet hnone hsame hi event hevent
    exact hreached.getsAnswer

/-! ## A handler that raises -/

/-- One policy sent again and again under one key. -/
def retries : Nat → WriteRequest := fun _ => dslRequest "dsl=allow:%0A%20%20action:%20read"

/-- The first attempt is claimed, and its handler raises. -/
def failedAttempt : List IdempotencyEvent := [.advance 0, .finish 0 .raises]

theorem retries_claim (i : Nat) : (retries i).claim? = some ("POST:/policies/dsl", "policy-1") := by
  have hclaim : (dslRequest "dsl=allow:%0A%20%20action:%20read").claim? =
      some ("POST:/policies/dsl", "policy-1") := by
    decide +kernel
  exact hclaim

theorem failedAttempt_state :
    (Lib.run (step plainDigest retries) initial failedAttempt).executions = [0] ∧
      (Lib.run (step plainDigest retries) initial failedAttempt).pcs 0 = .raised ∧
      ∀ j, j ≠ 0 → (Lib.run (step plainDigest retries) initial failedAttempt).pcs j = .arrived := by
  have hinsert : ∃ table, initial.table.insert ("POST:/policies/dsl", "policy-1")
      ((retries 0).hash plainDigest) = some (1, table) := ⟨_, rfl⟩
  rcases hinsert with ⟨table, hinsert⟩
  -- the key is free, so the request claims it and runs
  have hclaimed : initial.advance plainDigest retries 0 =
      { initial with table := table }.execute 0 (some 1) := by
    unfold advance
    have harrived : initial.pcs 0 = .arrived := rfl
    rw [harrived, retries_claim 0]
    dsimp only
    rw [hinsert]
  have hrun : Lib.run (step plainDigest retries) initial failedAttempt =
      ({ initial with table := table }.execute 0 (some 1)).setPc 0 .raised := by
    show (initial.advance plainDigest retries 0).finish 0 .raises = _
    rw [hclaimed]
    rfl
  rw [hrun]
  refine ⟨rfl, setPc_self .., ?_⟩
  -- no other request has moved
  intro j hj
  have hmoved : (({ initial with table := table }.execute 0 (some 1)).setPc 0 .raised).pcs j =
      ({ initial with table := table }.execute 0 (some 1)).pcs j := Function.update_of_ne hj ..
  rw [hmoved]
  exact Function.update_of_ne hj ..

theorem failedAttempt_quiet :
    Quiet retries (Lib.run (step plainDigest retries) initial failedAttempt)
      ("POST:/policies/dsl", "policy-1") := by
  intro j _
  by_cases hj : j = 0
  · rw [hj, failedAttempt_state.2.1]
    exact Or.inr trivial
  · exact Or.inl (failedAttempt_state.2.2 j hj)

/-- The two sides for the second attempt. -/
theorem retry_answered_iff :
    (∀ later, Undisturbed retries ("POST:/policies/dsl", "policy-1") 1 later →
      GetsAnswer (Lib.run (step plainDigest retries)
        (Lib.run (step plainDigest retries) initial failedAttempt) later)
          ("POST:/policies/dsl", "policy-1") 1) ↔
      NoneFailed retries (Lib.run (step plainDigest retries) initial failedAttempt)
        ("POST:/policies/dsl", "policy-1") :=
  never_stuck_iff plainDigest retries failedAttempt failedAttempt_quiet (retries_claim 1)
    (failedAttempt_state.2.2 1 Nat.one_ne_zero) (fun _ _ _ => rfl)

/-- Nobody is using the key, and the second attempt is told that the first is in progress. -/
theorem retry_refused :
    ¬ ∀ (sha256 : List UInt8 → String) (requests : Nat → WriteRequest) (events) (claim) (i : Nat),
      Quiet requests (Lib.run (step sha256 requests) initial events) claim →
        (requests i).claim? = some claim →
          (Lib.run (step sha256 requests) initial events).pcs i = .arrived →
            (∀ j, (requests j).claim? = some claim → (requests j).body = (requests i).body) →
              ¬ ((Lib.run (step sha256 requests) initial
                (events ++ [.advance i, .advance i])).pcs i).Refused claim.2 := by
  intro hnever
  have hanswer := hnever plainDigest retries failedAttempt ("POST:/policies/dsl", "policy-1") 1
    failedAttempt_quiet (retries_claim 1) (failedAttempt_state.2.2 1 Nat.one_ne_zero)
    (fun _ _ => rfl)
  rw [Lib.run_append] at hanswer
  apply hanswer
  have hexecuted : 0 ∈ (Lib.run (step plainDigest retries) initial failedAttempt).executions := by
    rw [failedAttempt_state.1]
    exact List.mem_singleton_self 0
  have hfailed : ((Lib.run (step plainDigest retries) initial failedAttempt).pcs 0).Failed := by
    rw [failedAttempt_state.2.1]
    trivial
  exact refused_of_failed (tracked_run plainDigest retries failedAttempt) hexecuted
    (retries_claim 0) hfailed rfl (retries_claim 1) (failedAttempt_state.2.2 1 Nat.one_ne_zero)

end IdempotencyState

end KeyNetra
