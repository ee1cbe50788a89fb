import Mathlib.Order.Lattice

/-!
# KeyNetra.Lib.Expiring — cells that expire

A cell holds a value up to a deadline, or without one. A reader that finds the deadline passed
empties the cell.

* `readAt` / `popped` — what a reader finds, and what it leaves;
* `Worn` — a cell that readers may have emptied, once its deadline had passed;
* `Worn.read` — readers cannot tell a worn cell from the cell.
-/

namespace Lib

variable {ν τ : Type} [LinearOrder τ]

/-- A value, and the time from which on it is not read. -/
structure Expiring (ν τ : Type) where
  value : ν
  deadline : Option τ
deriving DecidableEq

/-- The value before the deadline. -/
def Expiring.at? (e : Expiring ν τ) (now : τ) : Option ν :=
  match e.deadline with
  | none => some e.value
  | some deadline => if deadline ≤ now then none else some e.value

/-- What a reader finds. -/
def readAt (now : τ) (cell : Option (Expiring ν τ)) : Option ν := cell.bind fun e => e.at? now

/-- What a reader leaves. -/
def popped (now : τ) (cell : Option (Expiring ν τ)) : Option (Expiring ν τ) :=
  if (readAt now cell).isSome then cell else none

/-- Readers until `now` may have emptied the cell. -/
def Worn (now : τ) (cell worn : Option (Expiring ν τ)) : Prop :=
  worn = cell ∨ worn = none ∧ readAt now cell = none

variable {now later : τ} {cell worn : Option (Expiring ν τ)}

@[simp] theorem readAt_none (now : τ) : readAt now (none : Option (Expiring ν τ)) = none := rfl

/-- A cell is not read again once its deadline has passed. -/
theorem readAt_later (h : readAt now cell = none) (hle : now ≤ later) : readAt later cell = none := by
  cases cell with
  | none => rfl
  | some e =>
      obtain ⟨value, deadline⟩ := e
      cases deadline with
      | none => cases h
      | some deadline =>
          simp only [readAt, Option.bind_some, Expiring.at?] at h ⊢
          split at h
          · rename_i hpassed
            rw [if_pos (hpassed.trans hle)]
          · cases h

namespace Worn

theorem refl (now : τ) (cell : Option (Expiring ν τ)) : Worn now cell cell := Or.inl rfl

theorem mono (h : Worn now cell worn) (hle : now ≤ later) : Worn later cell worn := by
  rcases h with rfl | ⟨rfl, hpassed⟩
  · exact refl later _
  · exact Or.inr ⟨rfl, readAt_later hpassed hle⟩

/-- Readers cannot tell a worn cell from the cell. -/
theorem read (h : Worn now cell worn) : readAt now worn = readAt now cell := by
  rcases h with rfl | ⟨rfl, hpassed⟩
  · rfl
  · rw [hpassed, readAt_none]

/-- A reader wears a worn cell. -/
theorem pop (h : Worn now cell worn) : Worn now cell (popped now worn) := by
  unfold popped
  split
  · exact h
  · rename_i hnone
    rw [h.read] at hnone
    exact Or.inr ⟨rfl, Option.not_isSome_iff_eq_none.mp hnone⟩

end Worn

/-- A cell that a reader leaves has been read. -/
theorem readAt_of_kept (h : popped now cell = cell) :
    readAt now cell = cell.map Expiring.value := by
  cases cell with
  | none => rfl
  | some e =>
      unfold popped at h
      split at h
      · rename_i hread
        obtain ⟨value, deadline⟩ := e
        cases deadline with
        | none => rfl
        | some deadline =>
            simp only [readAt, Option.bind_some, Expiring.at?] at hread ⊢
            split
            · rename_i hpassed
              rw [if_pos hpassed] at hread
              cases hread
            · rfl
      · cases h

/-- A cell that a reader empties has not been read. -/
theorem readAt_of_gone (h : popped now cell = none) : readAt now cell = none := by
  unfold popped at h
  split at h
  · rw [h, readAt_none]
  · rename_i hnone
    exact Option.not_isSome_iff_eq_none.mp hnone

theorem popped_eq (now : τ) (cell : Option (Expiring ν τ)) :
    popped now cell = cell ∨ popped now cell = none := by
  unfold popped
  split
  · exact Or.inl rfl
  · exact Or.inr rfl

end Lib
