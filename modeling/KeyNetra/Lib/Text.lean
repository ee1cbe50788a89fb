import Mathlib.Data.List.Basic
import Std.Data.String.ToInt

/-!
# KeyNetra.Lib.Text — separator-joined texts

A composite key is often a list of fields joined by a separator. Joining is
injective in a leading field as long as that field does not contain the
separator, and in a last one; a field that may contain it can be confused with its
neighbours.
-/

namespace Lib

/-- A property of the characters of a text is decided along the text, not over all the
characters there are. -/
instance decidableForallMem (p : Char → Prop) [DecidablePred p] (text : List Char) :
    Decidable (∀ c ∈ text, p c) :=
  List.decidableBAll p text

instance decidableExistsMem (p : Char → Prop) [DecidablePred p] (text : List Char) :
    Decidable (∃ c ∈ text, p c) :=
  List.decidableBEx p text

/-- Two lists that agree up to and including a separator, with no earlier
separator in either, agree before and after it. -/
theorem append_sep_inj {α : Type} {c : α} {a b x y : List α} (ha : c ∉ a) (hb : c ∉ b) :
    a ++ c :: x = b ++ c :: y ↔ a = b ∧ x = y := by
  constructor
  · intro h
    induction a generalizing b with
    | nil =>
        cases b with
        | nil => exact ⟨rfl, (List.cons.inj h).2⟩
        | cons d b => exact absurd (List.cons.inj h).1 (List.ne_of_not_mem_cons hb)
    | cons d a ih =>
        cases b with
        | nil => exact absurd (List.cons.inj h).1.symm (List.ne_of_not_mem_cons ha)
        | cons e b =>
            obtain ⟨hde, hrest⟩ := List.cons.inj h
            obtain ⟨hab, hxy⟩ := ih (List.not_mem_of_not_mem_cons ha)
              (List.not_mem_of_not_mem_cons hb) hrest
            exact ⟨by rw [hde, hab], hxy⟩
  · rintro ⟨rfl, rfl⟩
    rfl

/-- The same from the right: two lists agree around the last separator of each. -/
theorem append_sep_inj_right {α : Type} {c : α} {a b x y : List α} (hx : c ∉ x) (hy : c ∉ y) :
    a ++ c :: x = b ++ c :: y ↔ a = b ∧ x = y := by
  have hreverse : ∀ u v : List α, (u ++ c :: v).reverse = v.reverse ++ c :: u.reverse := by
    intro u v
    simp
  rw [← List.reverse_inj, hreverse, hreverse,
    append_sep_inj (by simpa using hx) (by simpa using hy), List.reverse_inj, List.reverse_inj]
  exact and_comm

/-- Joining with a one-character separator is injective in the first field when
the separator does not occur in it. -/
theorem intercalate_cons_inj {sep : String} {c : Char} (hsep : sep.toList = [c])
    {a b x y : String} {xs ys : List String} (ha : c ∉ a.toList) (hb : c ∉ b.toList) :
    sep.intercalate (a :: x :: xs) = sep.intercalate (b :: y :: ys) ↔
      a = b ∧ sep.intercalate (x :: xs) = sep.intercalate (y :: ys) := by
  rw [← String.toList_inj, String.intercalate_cons_cons, String.intercalate_cons_cons]
  simp only [String.toList_append, hsep, List.append_assoc, List.singleton_append]
  rw [append_sep_inj ha hb, String.toList_inj, String.toList_inj]

/-- Joining is injective behind a common first field. -/
theorem intercalate_cons_left {sep a x y : String} {xs ys : List String} :
    sep.intercalate (a :: x :: xs) = sep.intercalate (a :: y :: ys) ↔
      sep.intercalate (x :: xs) = sep.intercalate (y :: ys) := by
  rw [← String.toList_inj, String.intercalate_cons_cons, String.intercalate_cons_cons]
  simp only [String.toList_append, List.append_assoc, List.append_cancel_left_eq,
    String.toList_inj]

/-- A join ends in its last field. -/
theorem toList_intercalate_concat {sep : String} {c : Char} (hsep : sep.toList = [c])
    (a : String) (xs : List String) (z : String) :
    (sep.intercalate (a :: xs ++ [z])).toList =
      (sep.intercalate (a :: xs)).toList ++ c :: z.toList := by
  induction xs generalizing a with
  | nil =>
      simp [String.intercalate_cons_cons, hsep]
  | cons x xs ih =>
      have hrest := ih x
      simp only [List.cons_append] at hrest ⊢
      rw [String.intercalate_cons_cons, String.intercalate_cons_cons]
      simp only [String.toList_append, hrest, List.append_assoc]

/-- Joining is injective in the last field when the separator does not occur in it. -/
theorem intercalate_concat_inj {sep : String} {c : Char} (hsep : sep.toList = [c])
    {a b y z : String} {xs ys : List String} (hy : c ∉ y.toList) (hz : c ∉ z.toList) :
    sep.intercalate (a :: xs ++ [y]) = sep.intercalate (b :: ys ++ [z]) ↔
      sep.intercalate (a :: xs) = sep.intercalate (b :: ys) ∧ y = z := by
  rw [← String.toList_inj, toList_intercalate_concat hsep, toList_intercalate_concat hsep,
    append_sep_inj_right hy hz, String.toList_inj, String.toList_inj]

/-! ## Splitting a join -/

/-- A join splits back into its fields when none of them holds a separator. -/
theorem splitOnP_intercalate {p : Char → Bool} {sep : String} {c : Char} (hsep : sep.toList = [c])
    (hc : p c = true) (x : String) (xs : List String)
    (h : ∀ field ∈ x :: xs, ∀ d ∈ field.toList, p d = false) :
    (sep.intercalate (x :: xs)).toList.splitOnP p = (x :: xs).map String.toList := by
  induction xs generalizing x with
  | nil =>
      rw [String.intercalate_singleton]
      exact List.splitOnP_eq_singleton (h x List.mem_cons_self)
  | cons y ys ih =>
      have hrest := ih y fun field hfield => h field (List.mem_cons_of_mem _ hfield)
      rw [String.intercalate_cons_cons, String.toList_append, String.toList_append, hsep,
        List.append_assoc, List.singleton_append,
        List.splitOnP_append_cons_of_forall_mem (h x List.mem_cons_self) c hc, hrest]
      rfl

/-- No part of a split holds the separator. -/
theorem notMem_of_mem_splitOn {c : Char} {cs part : List Char} (h : part ∈ cs.splitOn c) :
    c ∉ part := by
  induction cs generalizing part with
  | nil =>
      rw [List.splitOn_eq_splitOnP, List.splitOnP_nil, List.mem_singleton] at h
      rw [h]
      exact List.not_mem_nil
  | cons d cs ih =>
      rw [List.splitOn_cons_eq_if_modifyHead] at h
      split at h
      · rcases List.mem_cons.mp h with rfl | h
        · exact List.not_mem_nil
        · exact ih h
      · rename_i hother
        obtain ⟨first, parts, hparts⟩ := List.exists_cons_of_ne_nil (List.splitOn_ne_nil c cs)
        rw [hparts, List.modifyHead_cons] at h
        rw [hparts] at ih
        rcases List.mem_cons.mp h with rfl | h
        · intro hmem
          rcases List.mem_cons.mp hmem with hc | hmem
          · exact hother (beq_iff_eq.mpr hc.symm)
          · exact ih List.mem_cons_self hmem
        · exact ih (List.mem_cons_of_mem _ h)

/-! ## Numerals hold no separator -/

theorem digit_of_mem_natRepr {n : Nat} {c : Char} (h : c ∈ (Nat.repr n).toList) :
    c.isDigit = true := by
  rw [Nat.toList_repr] at h
  exact Nat.isDigit_of_mem_toDigits (by decide) (by decide) h

theorem colon_notMem_natRepr (n : Nat) : ':' ∉ (toString n).toList := by
  intro h
  exact absurd (digit_of_mem_natRepr h) (by decide)

/-- The numeral of an integer holds digits and the sign. -/
theorem notMem_intRepr {c : Char} (hdigit : c.isDigit = false) (hsign : c ≠ '-') (n : Int) :
    c ∉ (toString n).toList := by
  intro h
  rw [Int.toString_eq_repr, Int.repr_eq_if] at h
  split at h
  · rw [digit_of_mem_natRepr h] at hdigit
    cases hdigit
  · rw [String.toList_append, List.mem_append] at h
    rcases h with h | h
    · exact hsign (List.mem_singleton.mp h)
    · rw [digit_of_mem_natRepr h] at hdigit
      cases hdigit

theorem colon_notMem_intRepr (n : Int) : ':' ∉ (toString n).toList :=
  notMem_intRepr (by decide) (by decide) n

theorem toString_nat_inj {m n : Nat} : toString m = toString n ↔ m = n := Nat.repr_inj

theorem toString_int_inj {m n : Int} : toString m = toString n ↔ m = n := by
  rw [Int.toString_eq_repr, Int.toString_eq_repr, Int.repr_inj]

end Lib
