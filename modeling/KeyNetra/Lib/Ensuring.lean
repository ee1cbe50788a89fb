import KeyNetra.Lib.Table

/-!
# KeyNetra.Lib.Ensuring — steps that bring something about once

A step for an item brings the item about and reports whether it had to. Run over a list of items,
such steps can be run again without effect, and what they report adds up.

* `ensureAll` — the steps of a list of items, and the sum of what they report;
* `Ensuring` — every step brings its item about, undoes no other, and rests where it has nothing
  to do;
* `Ensuring.again` — the second run of a list does nothing;
* `ensureAll_grown` — what the steps report is what a table has grown by;
* `ExtendedBy` — a table with the missing ones of some rows behind its own.
-/

namespace Lib

variable {ι σ : Type}

/-- One step after another, with the sum of what they report. -/
def ensureAll (step : ι → σ → Nat × σ) : List ι → σ → Nat × σ
  | [], s => (0, s)
  | i :: is, s =>
      let (n, s) := step i s
      let (m, s) := ensureAll step is s
      (n + m, s)

/-- The steps bring `P` about, item by item. -/
structure Ensuring (step : ι → σ → Nat × σ) (P : ι → σ → Prop) : Prop where
  brings : ∀ i s, P i (step i s).2
  keeps : ∀ i j s, P j s → P j (step i s).2
  rests : ∀ i s, P i s → step i s = (0, s)

variable {step : ι → σ → Nat × σ} {P : ι → σ → Prop}

/-- What every step keeps, the run keeps. -/
theorem ensureAll_keeps {inv : σ → Prop} {is : List ι}
    (hstep : ∀ i ∈ is, ∀ s, inv s → inv (step i s).2) {s : σ} (hs : inv s) :
    inv (ensureAll step is s).2 := by
  induction is generalizing s with
  | nil => exact hs
  | cons i is ih =>
      apply ih
      · exact fun j hj => hstep j (List.mem_cons_of_mem i hj)
      · exact hstep i List.mem_cons_self s hs

namespace Ensuring

/-- After the run every item of the list is brought about. -/
theorem bringsAll (h : Ensuring step P) (is : List ι) (s : σ) :
    ∀ i ∈ is, P i (ensureAll step is s).2 := by
  induction is generalizing s with
  | nil =>
      intro i hi
      cases hi
  | cons j is ih =>
      intro i hi
      rcases List.mem_cons.mp hi with rfl | hi
      · have hkept := @ensureAll_keeps ι σ step (P i) is (fun j _ s => h.keeps j i s) (step i s).2
        exact hkept (h.brings i s)
      · exact ih (step j s).2 i hi

/-- A run whose items are there already does nothing. -/
theorem restsAll (h : Ensuring step P) {is : List ι} {s : σ} (hall : ∀ i ∈ is, P i s) :
    ensureAll step is s = (0, s) := by
  induction is with
  | nil => rfl
  | cons i is ih =>
      have hi := h.rests i s (hall i List.mem_cons_self)
      have his := ih fun j hj => hall j (List.mem_cons_of_mem i hj)
      simp only [ensureAll, hi, his, Nat.add_zero]

/-- The second run of a list does nothing. -/
theorem again (h : Ensuring step P) (is : List ι) (s : σ) :
    ensureAll step is (ensureAll step is s).2 = (0, (ensureAll step is s).2) :=
  h.restsAll (h.bringsAll is s)

end Ensuring

/-- What the steps report is what a table has grown by. -/
theorem ensureAll_grown {ρ : Type} {table : σ → List ρ}
    (hstep : ∀ i s, GrownBy (step i s).1 (table s) (table (step i s).2)) (is : List ι) (s : σ) :
    GrownBy (ensureAll step is s).1 (table s) (table (ensureAll step is s).2) := by
  induction is generalizing s with
  | nil => exact GrownBy.refl (table s)
  | cons i is ih => exact (hstep i s).trans (ih (step i s).2)

/-- `rows'` are `rows`, with the missing ones of the rows `added` behind them. -/
def ExtendedBy {ρ : Type} (added : ρ → Prop) (rows rows' : List ρ) : Prop :=
  rows <+: rows' ∧ ∀ row, row ∈ rows' ↔ row ∈ rows ∨ added row

theorem extended_ensureRow {ρ : Type} [DecidableEq ρ] (rows : List ρ) (row : ρ) :
    ExtendedBy (· = row) rows (ensureRow id rows row) := by
  refine ⟨(grown_ensureRow id rows row).1, fun r => ⟨mem_of_mem_ensureRow, ?_⟩⟩
  rintro (h | rfl)
  · exact mem_ensureRow h row
  · have hmem := key_mem_ensureRow id rows r
    rwa [List.map_id] at hmem

end Lib
