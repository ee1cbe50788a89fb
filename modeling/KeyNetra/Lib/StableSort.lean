import Mathlib.Data.List.Sort

/-!
# KeyNetra.Lib.StableSort — stable sorting by a key

`sortOn key l` is the stable sort of `l` by `key`. The rules: it is a
permutation, it commutes with filtering, it is idempotent, and it is the only
sorted list with the elements of each key in their order.
-/

namespace Lib

variable {α β κ : Type} [LinearOrder κ]

/-- The stable sort of a list by a key. -/
def sortOn (key : α → κ) (l : List α) : List α :=
  l.insertionSort fun a b => key a ≤ key b

@[simp] theorem sortOn_nil (key : α → κ) : sortOn key [] = [] := rfl

theorem sortOn_cons (key : α → κ) (a : α) (l : List α) :
    sortOn key (a :: l) = (sortOn key l).orderedInsert (fun a b => key a ≤ key b) a := rfl

theorem perm_sortOn (key : α → κ) (l : List α) : (sortOn key l).Perm l :=
  List.perm_insertionSort _ l

@[simp] theorem mem_sortOn {key : α → κ} {l : List α} {a : α} : a ∈ sortOn key l ↔ a ∈ l :=
  (perm_sortOn key l).mem_iff

theorem pairwise_sortOn (key : α → κ) (l : List α) :
    (sortOn key l).Pairwise fun a b => key a ≤ key b := by
  have : IsTrans α fun a b => key a ≤ key b := ⟨fun _ _ _ => le_trans⟩
  have : Std.Total fun a b : α => key a ≤ key b := ⟨fun a b => le_total (key a) (key b)⟩
  exact List.pairwise_insertionSort _ l

/-- Without two elements of one key the order is strict. -/
theorem pairwise_lt_sortOn {key : α → κ} {l : List α} (h : (l.map key).Nodup) :
    (sortOn key l).Pairwise fun a b => key a < key b := by
  have hnodup : ((sortOn key l).map key).Nodup :=
    ((perm_sortOn key l).map key).nodup_iff.mpr h
  exact (pairwise_sortOn key l).imp₂ (fun _ _ => lt_of_le_of_ne) (List.pairwise_map.mp hnodup)

/-- A sorted list is its own sort. -/
theorem sortOn_eq_self {key : α → κ} {l : List α}
    (h : l.Pairwise fun a b => key a ≤ key b) : sortOn key l = l :=
  h.insertionSort_eq

/-- Sorting twice is sorting once. -/
@[simp] theorem sortOn_sortOn (key : α → κ) (l : List α) :
    sortOn key (sortOn key l) = sortOn key l :=
  sortOn_eq_self (pairwise_sortOn key l)

/-! ## Filtering -/

theorem filter_orderedInsert_neg {key : α → κ} {p : α → Bool} {a : α} (ha : p a = false)
    (l : List α) :
    (l.orderedInsert (fun a b => key a ≤ key b) a).filter p = l.filter p := by
  induction l with
  | nil => simp [ha]
  | cons b l ih =>
      rw [List.orderedInsert_cons]
      split
      · simp [ha]
      · simp [List.filter_cons, ih]

theorem filter_orderedInsert_pos {key : α → κ} {p : α → Bool} {a : α} (ha : p a = true)
    {l : List α} (hl : l.Pairwise fun a b => key a ≤ key b) :
    (l.orderedInsert (fun a b => key a ≤ key b) a).filter p =
      (l.filter p).orderedInsert (fun a b => key a ≤ key b) a := by
  induction l with
  | nil => simp [ha]
  | cons b l ih =>
      obtain ⟨hb, hl⟩ := List.pairwise_cons.mp hl
      rw [List.orderedInsert_cons]
      split
      · rename_i hab
        -- everything that follows has a key at least as large, so `a` stays in front
        have hall : ∀ c ∈ (b :: l).filter p, key a ≤ key c := by
          intro c hc
          rcases List.mem_cons.mp (List.mem_filter.mp hc).1 with rfl | hcl
          · exact hab
          · exact le_trans hab (hb c hcl)
        rw [List.filter_cons_of_pos ha]
        generalize (b :: l).filter p = m at hall
        cases m with
        | nil => rfl
        | cons c m =>
            rw [List.orderedInsert_cons, if_pos (hall c List.mem_cons_self)]
      · rename_i hab
        cases hpb : p b with
        | false => simpa [List.filter_cons, hpb] using ih hl
        | true => simp [hpb, hab, ih hl]

/-- Filtering commutes with the stable sort. -/
theorem sortOn_filter (key : α → κ) (p : α → Bool) (l : List α) :
    (sortOn key l).filter p = sortOn key (l.filter p) := by
  induction l with
  | nil => rfl
  | cons a l ih =>
      rw [sortOn_cons]
      cases ha : p a with
      | false => rw [filter_orderedInsert_neg ha, ih, List.filter_cons_of_neg (by simp [ha])]
      | true =>
          rw [filter_orderedInsert_pos ha (pairwise_sortOn key l), ih,
            List.filter_cons_of_pos ha, sortOn_cons]

/-- The elements of one key keep their order. -/
theorem filter_key_sortOn (key : α → κ) (l : List α) (k : κ) :
    (sortOn key l).filter (fun a => key a = k) = l.filter fun a => key a = k := by
  rw [sortOn_filter]
  apply sortOn_eq_self
  apply List.pairwise_of_forall_mem_list
  intro a ha b hb
  have hka : key a = k := by simpa using (List.mem_filter.mp ha).2
  have hkb : key b = k := by simpa using (List.mem_filter.mp hb).2
  rw [hka, hkb]

theorem mem_of_filter_key {key : α → κ} {l l' : List α}
    (h : ∀ k, (l.filter fun a => key a = k) = l'.filter fun a => key a = k) {a : α} (ha : a ∈ l) :
    a ∈ l' := by
  have hfiltered : a ∈ l.filter fun b => key b = key a := by simp [ha]
  rw [h] at hfiltered
  exact (List.mem_filter.mp hfiltered).1

/-- Two sorted lists with the same elements of each key, in the same order, are equal. -/
theorem eq_of_filter_key {key : α → κ} {l l' : List α} (hl : l.Pairwise fun a b => key a ≤ key b)
    (hl' : l'.Pairwise fun a b => key a ≤ key b)
    (h : ∀ k, (l.filter fun a => key a = k) = l'.filter fun a => key a = k) : l = l' := by
  induction l generalizing l' with
  | nil =>
      cases l' with
      | nil => rfl
      | cons b l' => cases mem_of_filter_key (fun k => (h k).symm) List.mem_cons_self
  | cons a l ih =>
      cases l' with
      | nil => cases mem_of_filter_key h List.mem_cons_self
      | cons b l' =>
          rcases List.pairwise_cons.mp hl with ⟨ha, hrest⟩
          rcases List.pairwise_cons.mp hl' with ⟨hb, hrest'⟩
          -- the heads have the least key, and are the first of it
          have hkeys : key a = key b := by
            apply le_antisymm
            · rcases List.mem_cons.mp (mem_of_filter_key (fun k => (h k).symm)
                List.mem_cons_self) with heq | hmem
              · rw [heq]
              · exact ha b hmem
            · rcases List.mem_cons.mp (mem_of_filter_key h List.mem_cons_self) with heq | hmem
              · rw [heq]
              · exact hb a hmem
          have hheads := h (key a)
          rw [List.filter_cons_of_pos (by simp), List.filter_cons_of_pos (by simp [hkeys])] at hheads
          have hab : a = b := (List.cons.inj hheads).1
          rw [hab]
          congr 1
          apply ih hrest hrest'
          intro k
          have hk := h k
          rw [hab] at hk
          by_cases hbk : key b = k
          · rw [List.filter_cons_of_pos (by simp [hbk]), List.filter_cons_of_pos (by simp [hbk])] at hk
            exact (List.cons.inj hk).2
          · rwa [List.filter_cons_of_neg (by simp [hbk]), List.filter_cons_of_neg (by simp [hbk])] at hk

/-- Sorting the front of a list first changes nothing. -/
theorem sortOn_sortOn_append (key : α → κ) (l l' : List α) :
    sortOn key (sortOn key l ++ l') = sortOn key (l ++ l') := by
  apply eq_of_filter_key (pairwise_sortOn key _) (pairwise_sortOn key _)
  intro k
  rw [filter_key_sortOn, filter_key_sortOn, List.filter_append, List.filter_append,
    filter_key_sortOn]

/-- A last element of the greatest key stays last. -/
theorem sortOn_concat {key : α → κ} {l : List α} {a : α} (h : ∀ b ∈ l, key b ≤ key a) :
    sortOn key (l ++ [a]) = sortOn key l ++ [a] := by
  rw [← sortOn_sortOn_append]
  apply sortOn_eq_self
  rw [List.pairwise_append]
  refine ⟨pairwise_sortOn key l, List.pairwise_singleton _ _, ?_⟩
  intro b hb c hc
  rw [List.mem_singleton.mp hc]
  exact h b (mem_sortOn.mp hb)

/-- Mapping by a function that keeps the key commutes with the sort. -/
theorem sortOn_map {key : α → κ} {key' : β → κ} {f : α → β} (hf : ∀ a, key' (f a) = key a)
    (l : List α) : sortOn key' (l.map f) = (sortOn key l).map f := by
  refine (List.map_insertionSort (fun a b => key a ≤ key b) (fun a b => key' a ≤ key' b) f l
    fun a _ b _ => ?_).symm
  rw [hf, hf]

end Lib
