import KeyNetra.Lib.ReadModifyWrite
import KeyNetra.Repo.Tables

/-!
# KeyNetra.Concurrency.VersionBumps — concurrent bumps of a tenant's counters

`bump_policy_version` and `bump_revision` select the tenant's row, store the
selected counter plus one, and select the row again. Nothing holds the row
between the first two, so the calls of different sessions interleave.

* `BumpState.step` — any number of calls of both kinds, step by step;
* `cells_step` — the system is read-modify-write on two cells;
* `bump_alone` — a call nothing interrupts is the repository's bump;
* `bumps_counted_iff` — no counter ever decreases and each has grown by the
  completed calls of its kind, all along a run, iff every write of the run finds
  the counter its call has selected;
* `concurrent_bumps_lost` — two calls that select before either writes count once.
-/

namespace KeyNetra

/-! ## The rows -/

/-- `select(Tenant).where(Tenant.id == tenant_id)`. -/
def TenantTable.byId (t : TenantTable) (tenantId : Int) : Option TenantRecord :=
  t.rows.find? fun row => row.id = tenantId

/-- The two functions that bump a counter of a tenant. -/
inductive Bump where
  | policyVersion
  | revision
deriving DecidableEq

/-- The column a bump is about. -/
def Bump.counter : Bump → TenantRecord → Int
  | .policyVersion, row => row.policyVersion
  | .revision, row => row.revision

/-- The row with one counter replaced. -/
def Bump.setCounter (value : Int) : Bump → TenantRecord → TenantRecord
  | .policyVersion, row => { row with policyVersion := value }
  | .revision, row => { row with revision := value }

/-- The update a commit sends: the changed column of the one row. -/
def Bump.commit (t : TenantTable) (tenantId value : Int) : Bump → TenantTable
  | .policyVersion => t.update tenantId (fun _ => value) id
  | .revision => t.update tenantId id fun _ => value

/-- The bump as one step. -/
def Bump.whole (t : TenantTable) (tenantId : Int) : Bump → TenantTable
  | .policyVersion => t.bumpPolicyVersion tenantId
  | .revision => t.bumpRevision tenantId

theorem counter_setCounter (kind k : Bump) (value : Int) (row : TenantRecord) :
    k.counter (kind.setCounter value row) = if k = kind then value else k.counter row := by
  cases kind <;> cases k <;> rfl

theorem TenantTable.byId_update (t : TenantTable) (tenantId : Int) (f g : Int → Int) :
    (t.update tenantId f g).byId tenantId = (t.byId tenantId).map fun row =>
      { row with policyVersion := f row.policyVersion, revision := g row.revision } := by
  show (t.rows.map _).find? _ = _
  rw [List.find?_map]
  have hsame : ((fun row : TenantRecord => decide (row.id = tenantId)) ∘ fun row =>
      if row.id = tenantId then
        { row with policyVersion := f row.policyVersion, revision := g row.revision }
      else row) = fun row => decide (row.id = tenantId) := by
    funext row
    simp only [Function.comp]
    split <;> rfl
  rw [hsame]
  unfold TenantTable.byId
  cases hrow : t.rows.find? (fun row => row.id = tenantId) with
  | none => rfl
  | some row =>
      have hid : row.id = tenantId := by simpa using List.find?_some hrow
      simp only [Option.map_some, if_pos hid]

/-- A commit replaces the counter of the tenant's row. -/
theorem byId_commit (kind : Bump) (t : TenantTable) (tenantId value : Int) :
    (kind.commit t tenantId value).byId tenantId =
      (t.byId tenantId).map (kind.setCounter value) := by
  cases kind with
  | policyVersion => exact t.byId_update tenantId (fun _ => value) id
  | revision => exact t.byId_update tenantId id fun _ => value

/-! ## The system -/

/-- Where a call stands. -/
inductive BumpPc where
  | idle
  | loaded (row : TenantRecord)
  | committed
  | returned (record : TenantRecord)
  | failed (error : PyError)

/-- The committed table, the calls, and how many of each kind have committed. -/
structure BumpState where
  table : TenantTable
  calls : Nat → BumpPc
  completed : Bump → Nat

namespace BumpState

variable (tenantId : Int) (kinds : Nat → Bump)

/-- Move one call. -/
def setPc (s : BumpState) (i : Nat) (pc : BumpPc) : BumpState :=
  { s with calls := Function.update s.calls i pc }

/-- Call `i` takes its next step. -/
def step (s : BumpState) (i : Nat) : BumpState :=
  match s.calls i with
  | .idle =>
      match s.table.byId tenantId with
      | none => s.setPc i (.failed (.valueError "tenant not found"))
      | some row => s.setPc i (.loaded row)
  | .loaded row =>
      { table := (kinds i).commit s.table tenantId ((kinds i).counter row + 1)
        calls := Function.update s.calls i .committed
        completed := Function.update s.completed (kinds i) (s.completed (kinds i) + 1) }
  | .committed =>
      match s.table.byId tenantId with
      | none => s.setPc i (.failed (.valueError "tenant not found"))
      | some row => s.setPc i (.returned row)
  | .returned _ | .failed _ => s

/-- The tenant as `get_or_create` leaves it, before any call. -/
def initial (t : TenantTable) (tenantKey : String) : BumpState where
  table := (t.getOrCreate tenantKey).2
  calls _ := .idle
  completed _ := 0

/-- The stored counter. -/
def counter (s : BumpState) (k : Bump) : Int := (s.table.byId tenantId).elim 0 k.counter

/-- The tenant has a row. -/
def Stored (s : BumpState) : Prop := (s.table.byId tenantId).isSome

/-- If the step is a write, the counter is still the one the call has selected. -/
def OnTime (s : BumpState) (i : Nat) : Prop :=
  ∀ row, s.calls i = .loaded row → s.counter tenantId (kinds i) = (kinds i).counter row

/-- Each counter has grown by the completed calls of its kind. -/
def Counted (start s : BumpState) : Prop :=
  ∀ k, s.counter tenantId k = start.counter tenantId k + s.completed k

/-- No counter is less than before. -/
def Grown (s s' : BumpState) : Prop := ∀ k, s.counter tenantId k ≤ s'.counter tenantId k

end BumpState

/-! ## Two cells -/

/-- The call as an update of its cell. -/
def BumpPc.update (kind : Bump) : BumpPc → Lib.Update Int
  | .idle => .idle
  | .loaded row => .holding (kind.counter row)
  | .committed | .returned _ | .failed _ => .done

namespace BumpState

variable {tenantId : Int} {kinds : Nat → Bump} {s : BumpState} {i : Nat}

/-- The two counters as cells. -/
def cells (tenantId : Int) (kinds : Nat → Bump) (s : BumpState) : Lib.Cells Bump Nat Int where
  value := s.counter tenantId
  calls i := (s.calls i).update (kinds i)
  completed := s.completed

theorem update_calls (kinds : Nat → Bump) (calls : Nat → BumpPc) (i : Nat) (pc : BumpPc) :
    (fun j => (Function.update calls i pc j).update (kinds j)) =
      Function.update (fun j => (calls j).update (kinds j)) i (pc.update (kinds i)) := by
  funext j
  by_cases hj : j = i
  · rw [hj, Function.update_self, Function.update_self]
  · rw [Function.update_of_ne hj, Function.update_of_ne hj]

/-- Moving a call moves its update. -/
theorem cells_setPc (s : BumpState) (i : Nat) (pc : BumpPc) :
    (s.setPc i pc).cells tenantId kinds =
      { s.cells tenantId kinds with
        calls := Function.update (s.cells tenantId kinds).calls i (pc.update (kinds i)) } := by
  unfold cells setPc
  rw [update_calls]
  rfl

/-- A commit is a write to the cell of its kind. -/
theorem counter_commit {row : TenantRecord} (hrow : s.table.byId tenantId = some row)
    (kind : Bump) (value : Int) (k : Bump) :
    ((kind.commit s.table tenantId value).byId tenantId).elim 0 k.counter =
      Function.update (s.counter tenantId) kind value k := by
  rw [byId_commit, hrow]
  show k.counter (kind.setCounter value row) = _
  rw [counter_setCounter]
  by_cases hk : k = kind
  · rw [if_pos hk, hk, Function.update_self]
  · rw [if_neg hk, Function.update_of_ne hk]
    unfold counter
    rw [hrow, Option.elim_some]

/-- The tenant is never deleted. -/
theorem stored_step (h : s.Stored tenantId) : (s.step tenantId kinds i).Stored tenantId := by
  unfold Stored step at *
  split
  · split
    · exact h
    · exact h
  · rw [byId_commit, Option.isSome_map]
    exact h
  · split
    · exact h
    · exact h
  · exact h
  · exact h

/-- The system refines read-modify-write on the two cells, one step by one step. -/
theorem cells_step (h : s.Stored tenantId) :
    (s.step tenantId kinds i).cells tenantId kinds =
      (s.cells tenantId kinds).step kinds (· + 1) i := by
  rcases Option.isSome_iff_exists.mp h with ⟨row, hrow⟩
  have hcall : (s.cells tenantId kinds).calls i = (s.calls i).update (kinds i) := rfl
  unfold step Lib.Cells.step
  rw [hcall]
  cases hpc : s.calls i with
  | idle =>
      have hcounter : (kinds i).counter row = s.counter tenantId (kinds i) := by
        unfold counter
        rw [hrow, Option.elim_some]
      have hheld : (BumpPc.loaded row).update (kinds i) =
          .holding (s.counter tenantId (kinds i)) := congrArg _ hcounter
      simp only [hrow]
      rw [cells_setPc, hheld]
      rfl
  | loaded held =>
      have hvalue : ∀ k, (((kinds i).commit s.table tenantId ((kinds i).counter held + 1)).byId
          tenantId).elim 0 k.counter =
            Function.update (s.counter tenantId) (kinds i) ((kinds i).counter held + 1) k :=
        counter_commit hrow (kinds i) ((kinds i).counter held + 1)
      have hcalls := update_calls kinds s.calls i .committed
      exact Lib.Cells.ext (funext hvalue) hcalls rfl
  | committed =>
      -- selecting the row again leaves the cells alone
      have hdone : Function.update (s.cells tenantId kinds).calls i .done =
          (s.cells tenantId kinds).calls := by
        rw [Function.update_eq_self_iff, hcall, hpc]
        rfl
      have hreturned : (BumpPc.returned row).update (kinds i) = .done := rfl
      simp only [hrow]
      rw [cells_setPc, hreturned, hdone]
      rfl
  | returned record => rfl
  | failed error => rfl

theorem onTime_cells : (s.cells tenantId kinds).OnTime kinds i ↔ s.OnTime tenantId kinds i := by
  show (∀ v, (s.calls i).update (kinds i) = .holding v → s.counter tenantId (kinds i) = v) ↔ _
  unfold OnTime
  cases s.calls i with
  | loaded row => simp [BumpPc.update]
  | idle => simp [BumpPc.update]
  | committed => simp [BumpPc.update]
  | returned record => simp [BumpPc.update]
  | failed error => simp [BumpPc.update]

/-- Counted is exact, cell by cell. -/
theorem counted_cells {start : BumpState} :
    (s.cells tenantId kinds).Exact (· + 1) (start.counter tenantId) ↔
      Counted tenantId start s := by
  show (∀ k, s.counter tenantId k = (· + 1)^[s.completed k] (start.counter tenantId k)) ↔ _
  unfold Counted
  simp only [add_right_iterate_apply, nsmul_eq_mul, mul_one]

/-- A write on time does not lower a counter. -/
theorem grown_of_onTime (h : s.Stored tenantId) (htime : s.OnTime tenantId kinds i) :
    Grown tenantId s (s.step tenantId kinds i) := by
  rcases Option.isSome_iff_exists.mp h with ⟨row, hrow⟩
  intro k
  have hvalue : (s.step tenantId kinds i).counter tenantId k =
      ((s.cells tenantId kinds).step kinds (· + 1) i).value k := by
    rw [← cells_step h]
    rfl
  rw [hvalue]
  by_cases hcall : ∃ v, (s.cells tenantId kinds).calls i = .holding v
  · rcases hcall with ⟨v, hv⟩
    rw [(Lib.Cells.step_of_holding kinds (· + 1) hv).1]
    by_cases hk : k = kinds i
    · have hheld := onTime_cells.mpr htime v hv
      have hcounter : s.counter tenantId (kinds i) = v := hheld
      rw [hk, Function.update_self]
      omega
    · rw [Function.update_of_ne hk]
      exact le_refl (s.counter tenantId k)
  · rw [(Lib.Cells.step_of_not_holding kinds (· + 1) (not_exists.mp hcall)).1]
    exact le_refl (s.counter tenantId k)

/-! ## The result -/

theorem stored_initial (t : TenantTable) (tenantKey : String) :
    (initial t tenantKey).Stored (t.getOrCreate tenantKey).1.id := by
  have hfound := TenantTable.find?_some (t.find?_getOrCreate tenantKey)
  unfold Stored TenantTable.byId
  rw [List.find?_isSome]
  exact ⟨_, hfound.1, by simp⟩

/-- Updates that agree on the rows of the tenant are one update. -/
theorem update_congr {t : TenantTable} {f f' g g' : Int → Int}
    (h : ∀ row ∈ t.rows, row.id = tenantId →
      f row.policyVersion = f' row.policyVersion ∧ g row.revision = g' row.revision) :
    t.update tenantId f g = t.update tenantId f' g' := by
  unfold TenantTable.update
  simp only [TenantTable.mk.injEq]
  apply List.map_congr_left
  intro row hrow
  by_cases hid : row.id = tenantId
  · rw [if_pos hid, if_pos hid, (h row hrow hid).1, (h row hrow hid).2]
  · rw [if_neg hid, if_neg hid]

/-- A call that nothing interrupts is the repository's bump. -/
theorem bump_alone (h : s.Stored tenantId) (hidle : s.calls i = .idle) :
    (Lib.run (step tenantId kinds) s [i, i]).table = (kinds i).whole s.table tenantId := by
  rcases Option.isSome_iff_exists.mp h with ⟨row, hrow⟩
  have hstart : s.step tenantId kinds i = s.setPc i (.loaded row) := by
    unfold step
    simp only [hidle, hrow]
  have hloaded : (s.setPc i (.loaded row)).calls i = .loaded row := Function.update_self ..
  -- the row that was loaded is the one that is updated
  have hsame : ∀ r ∈ s.table.rows, r.id = tenantId → row = r := by
    intro r hr hid
    have hrowId : row.id = tenantId := by simpa using List.find?_some hrow
    have hmem := List.mem_of_find?_eq_some hrow
    exact Lib.eq_of_key_eq s.table.ids hmem hr (hrowId.trans hid.symm)
  simp only [Lib.run_cons, Lib.run_nil, hstart]
  unfold step
  rw [hloaded]
  dsimp only [setPc]
  cases kinds i with
  | policyVersion =>
      show s.table.update tenantId (fun _ => row.policyVersion + 1) id =
        s.table.update tenantId (· + 1) id
      apply update_congr
      intro r hr hid
      rw [hsame r hr hid]
      exact ⟨rfl, rfl⟩
  | revision =>
      show s.table.update tenantId id (fun _ => row.revision + 1) =
        s.table.update tenantId id (· + 1)
      apply update_congr
      intro r hr hid
      rw [hsame r hr hid]
      exact ⟨rfl, rfl⟩

/-- All along a run, no counter decreases and each has grown by the completed
calls of its kind, iff every write finds the counter its call has selected. -/
theorem bumps_counted_iff (t : TenantTable) (tenantKey : String) (kinds : Nat → Bump)
    (is : List Nat) :
    let tenantId := (t.getOrCreate tenantKey).1.id
    let start := initial t tenantKey
    Lib.Along (step tenantId kinds)
        (fun s i => Grown tenantId s (s.step tenantId kinds i) ∧
          Counted tenantId start (s.step tenantId kinds i)) start is ↔
      Lib.Along (step tenantId kinds) (OnTime tenantId kinds) start is := by
  intro tenantId start
  have hstored := stored_initial t tenantKey
  have hexact : (start.cells tenantId kinds).Exact (· + 1) (start.counter tenantId) :=
    fun k => rfl
  -- counting is exactness of the two cells, and their writes are the writes
  have hstep : ∀ s i, Stored tenantId s → Stored tenantId (s.step tenantId kinds i) :=
    fun _ _ => stored_step
  have hcells : ∀ s i, Stored tenantId s → (s.step tenantId kinds i).cells tenantId kinds =
      (s.cells tenantId kinds).step kinds (· + 1) i := fun _ _ => cells_step
  have hcounted : Lib.Along (step tenantId kinds)
      (fun s i => Counted tenantId start (s.step tenantId kinds i)) start is ↔
        Lib.Along (Lib.Cells.step kinds (· + 1))
          (fun c i => (c.step kinds (· + 1) i).Exact (· + 1) (start.counter tenantId))
          (start.cells tenantId kinds) is := by
    apply Lib.along_simulation hstep hcells _ hstored
    intro s i hs
    rw [← cells_step hs]
    exact counted_cells.symm
  have htime : Lib.Along (step tenantId kinds) (OnTime tenantId kinds) start is ↔
      Lib.Along (Lib.Cells.step kinds (· + 1)) (Lib.Cells.OnTime kinds)
        (start.cells tenantId kinds) is :=
    Lib.along_simulation hstep hcells (fun _ _ _ => onTime_cells.symm) hstored
  have hiff := hcounted.trans
    ((Lib.Cells.exact_iff (add_left_injective 1) hexact is).trans htime.symm)
  rw [Lib.along_and, hiff]
  constructor
  · intro h
    exact h.2
  · intro hontime
    refine ⟨?_, hontime⟩
    exact Lib.along_of_invariant (fun s i hs _ => hstep s i hs)
      (fun _ _ => grown_of_onTime) hstored hontime

/-- Two calls select version 1 before either writes: both complete, and the version
has grown by one. -/
theorem concurrent_bumps_lost :
    let t : TenantTable := ⟨[], List.nodup_nil, List.nodup_nil⟩
    let start := initial t "default"
    let last := Lib.run (step 1 fun _ => .policyVersion) start [0, 1, 0, 1]
    start.counter 1 .policyVersion = 1 ∧ last.completed .policyVersion = 2 ∧
      last.counter 1 .policyVersion = 2 ∧
      ¬ Lib.Along (step 1 fun _ => .policyVersion)
        (fun s i => Grown 1 s (s.step 1 (fun _ => .policyVersion) i) ∧
          Counted 1 start (s.step 1 (fun _ => .policyVersion) i)) start [0, 1, 0, 1] := by
  intro t start last
  refine ⟨by decide, by decide, by decide, ?_⟩
  intro h
  have hlast := h.2.2.2.1.2 .policyVersion
  revert hlast
  decide

end BumpState

end KeyNetra
