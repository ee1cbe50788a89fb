import KeyNetra.Lib.Runs
import Mathlib.Logic.Function.Iterate

/-!
# KeyNetra.Lib.ReadModifyWrite — updates as a read and a later write

Any number of calls update shared cells by a function `f`. A call reads its cell
in one step and stores `f` of what it read in a later one; the steps of
different calls interleave in any order.

* `Cells.step` — the next step of one call;
* `Cells.OnTime` — a write finds the value its call has read;
* `Cells.Exact` — every cell holds `f` applied once per completed call;
* `Cells.exact_iff` — the cells are exact all along a run iff every write of the
  run is on time.
-/

namespace Lib

variable {κ ι α : Type}

/-- Where a call stands. -/
inductive Update (α : Type) where
  | idle
  | holding (value : α)
  | done

/-- The shared cells, the calls, and how many calls on each cell have written. -/
@[ext]
structure Cells (κ ι α : Type) where
  value : κ → α
  calls : ι → Update α
  completed : κ → Nat

namespace Cells

variable [DecidableEq κ] [DecidableEq ι] (cell : ι → κ) (f : α → α)

/-- Call `i` takes its next step: it reads its cell, or writes it. -/
def step (s : Cells κ ι α) (i : ι) : Cells κ ι α :=
  match s.calls i with
  | .idle => { s with calls := Function.update s.calls i (.holding (s.value (cell i))) }
  | .holding v =>
      { value := Function.update s.value (cell i) (f v)
        calls := Function.update s.calls i .done
        completed := Function.update s.completed (cell i) (s.completed (cell i) + 1) }
  | .done => s

/-- If the step is a write, the cell still holds what the call has read. -/
def OnTime (s : Cells κ ι α) (i : ι) : Prop :=
  ∀ v, s.calls i = .holding v → s.value (cell i) = v

/-- Every cell has been updated once per completed call. -/
def Exact (start : κ → α) (s : Cells κ ι α) : Prop :=
  ∀ k, s.value k = f^[s.completed k] (start k)

variable {s : Cells κ ι α} {i : ι} {start : κ → α}

theorem step_of_holding {v : α} (h : s.calls i = .holding v) :
    (s.step cell f i).value = Function.update s.value (cell i) (f v) ∧
      (s.step cell f i).completed =
        Function.update s.completed (cell i) (s.completed (cell i) + 1) := by
  unfold step
  rw [h]
  exact ⟨rfl, rfl⟩

/-- Only a write touches the cells. -/
theorem step_of_not_holding (h : ∀ v, s.calls i ≠ .holding v) :
    (s.step cell f i).value = s.value ∧ (s.step cell f i).completed = s.completed := by
  unfold step
  split
  · exact ⟨rfl, rfl⟩
  · rename_i v hv
    exact absurd hv (h v)
  · exact ⟨rfl, rfl⟩

variable {cell f}

/-- A step on time keeps the cells exact. -/
theorem Exact.step (h : s.Exact f start) (htime : s.OnTime cell i) :
    (s.step cell f i).Exact f start := by
  by_cases hcall : ∃ v, s.calls i = .holding v
  · rcases hcall with ⟨v, hv⟩
    have hstep := step_of_holding cell f hv
    intro k
    rw [hstep.1, hstep.2]
    by_cases hk : k = cell i
    · -- the written cell: one more application of `f`
      have hvalue : v = f^[s.completed (cell i)] (start (cell i)) := by
        rw [← htime v hv]
        exact h (cell i)
      rw [hk, Function.update_self, Function.update_self, Function.iterate_succ_apply', ← hvalue]
    · rw [Function.update_of_ne hk, Function.update_of_ne hk]
      exact h k
  · have hstep := step_of_not_holding cell f (not_exists.mp hcall)
    intro k
    rw [hstep.1, hstep.2]
    exact h k

/-- A step that keeps the cells exact was on time. -/
theorem Exact.onTime (hf : Function.Injective f) (h : s.Exact f start)
    (h' : (s.step cell f i).Exact f start) : s.OnTime cell i := by
  intro v hv
  have hstep := step_of_holding cell f hv
  have hwritten := h' (cell i)
  rw [hstep.1, hstep.2, Function.update_self, Function.update_self,
    Function.iterate_succ_apply', ← h (cell i)] at hwritten
  exact (hf hwritten).symm

/-- The cells are exact all along a run iff every write of it is on time. -/
theorem exact_iff (hf : Function.Injective f) (h : s.Exact f start) (is : List ι) :
    Along (step cell f) (fun s i => (s.step cell f i).Exact f start) s is ↔
      Along (step cell f) (OnTime cell) s is := by
  apply along_iff _ _ h
  · intro s i hs htime
    exact hs.step htime
  · intro s i hs
    exact ⟨hs.onTime hf, hs.step⟩

end Cells

end Lib
