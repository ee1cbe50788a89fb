import Mathlib.Data.List.Nodup

/-!
# KeyNetra.Lib.Table — rows with automatic ids and unique keys

A table is a list of rows. `freshId` is the next automatic id; the lemmas say
that appending, updating and filtering rows keep a unique key unique.
-/

namespace Lib

variable {ρ κ : Type}

/-- The next automatic id of a table. -/
def freshId (ids : List Int) : Int := ids.foldr max 0 + 1

theorem lt_freshId {ids : List Int} {i : Int} (h : i ∈ ids) : i < freshId ids := by
  unfold freshId
  induction ids with
  | nil => cases h
  | cons j ids ih =>
      rw [List.foldr_cons]
      rcases List.mem_cons.mp h with rfl | h
      · omega
      · have := ih h
        omega

theorem freshId_notMem (ids : List Int) : freshId ids ∉ ids := by
  intro h
  exact absurd (lt_freshId h) (Int.lt_irrefl _)

/-- Appending a row with a new key keeps the key unique. -/
theorem nodup_map_append {key : ρ → κ} {rows : List ρ} {row : ρ} (h : (rows.map key).Nodup)
    (hnew : key row ∉ rows.map key) : ((rows ++ [row]).map key).Nodup := by
  rw [List.map_append, List.map_singleton]
  refine List.nodup_append.mpr ⟨h, List.nodup_singleton _, ?_⟩
  intro k hk k' hk' heq
  apply hnew
  rw [← List.mem_singleton.mp hk', ← heq]
  exact hk

/-- Updating rows without touching their key keeps the key unique. -/
theorem nodup_map_update {key : ρ → κ} {rows : List ρ} {update : ρ → ρ}
    (hkey : ∀ row, key (update row) = key row) (h : (rows.map key).Nodup) :
    ((rows.map update).map key).Nodup := by
  have hmap : (rows.map update).map key = rows.map key := by
    rw [List.map_map]
    exact List.map_congr_left fun row _ => hkey row
  rwa [hmap]

/-- Deleting rows keeps the key unique. -/
theorem nodup_map_filter {key : ρ → κ} {rows : List ρ} (p : ρ → Bool)
    (h : (rows.map key).Nodup) : ((rows.filter p).map key).Nodup :=
  h.sublist (List.filter_sublist.map key)

/-- The row found by a unique key is the only one with it. -/
theorem eq_of_key_eq {key : ρ → κ} {rows : List ρ} (h : (rows.map key).Nodup) {r₁ r₂ : ρ}
    (h₁ : r₁ ∈ rows) (h₂ : r₂ ∈ rows) (hkey : key r₁ = key r₂) : r₁ = r₂ :=
  List.inj_on_of_nodup_map h h₁ h₂ hkey

/-- A list without repetitions whose members are all equal has at most one. -/
theorem length_le_one {xs : List ρ} (h : xs.Nodup) (hall : ∀ x ∈ xs, ∀ y ∈ xs, x = y) :
    xs.length ≤ 1 := by
  cases xs with
  | nil => exact Nat.zero_le 1
  | cons x xs =>
      have hrest : xs = [] := by
        apply List.eq_nil_iff_forall_not_mem.mpr
        intro y hy
        have hxy := hall x List.mem_cons_self y (List.mem_cons_of_mem x hy)
        exact (List.nodup_cons.mp h).1 (hxy ▸ hy)
      rw [hrest]
      exact Nat.le_refl 1

/-- A unique key selects one row. -/
theorem filter_key_eq [DecidableEq κ] {key : ρ → κ} {rows : List ρ} (h : (rows.map key).Nodup)
    {row : ρ} (hrow : row ∈ rows) : (rows.filter fun r => key r = key row) = [row] := by
  have hmem : row ∈ rows.filter fun r => key r = key row :=
    List.mem_filter.mpr ⟨hrow, decide_eq_true rfl⟩
  have hlength : (rows.filter fun r => key r = key row).length ≤ 1 := by
    apply length_le_one (h.of_map.filter _)
    intro x hx y hy
    have hx := List.mem_filter.mp hx
    have hy := List.mem_filter.mp hy
    exact eq_of_key_eq h hx.1 hy.1 ((of_decide_eq_true hx.2).trans (of_decide_eq_true hy.2).symm)
  cases hrows : rows.filter fun r => key r = key row with
  | nil =>
      rw [hrows] at hmem
      cases hmem
  | cons x xs =>
      rw [hrows, List.length_cons] at hlength
      have hxs : xs = [] := List.length_eq_zero_iff.mp (by omega)
      rw [hrows, hxs, List.mem_singleton] at hmem
      rw [hmem, hxs]

/-! ## Rows that are added once -/

section Ensure

variable [DecidableEq κ]

/-- The rows, with a row whose key no row has. -/
def ensureRow (key : ρ → κ) (rows : List ρ) (row : ρ) : List ρ :=
  if key row ∈ rows.map key then rows else rows ++ [row]

theorem ensureRow_of_mem {key : ρ → κ} {rows : List ρ} {row : ρ} (h : key row ∈ rows.map key) :
    ensureRow key rows row = rows := if_pos h

theorem nodup_ensureRow {key : ρ → κ} {rows : List ρ} (h : (rows.map key).Nodup) (row : ρ) :
    ((ensureRow key rows row).map key).Nodup := by
  unfold ensureRow
  split
  · exact h
  · rename_i hnew
    exact nodup_map_append h hnew

theorem key_mem_ensureRow (key : ρ → κ) (rows : List ρ) (row : ρ) :
    key row ∈ (ensureRow key rows row).map key := by
  unfold ensureRow
  split
  · assumption
  · rw [List.map_append]
    exact List.mem_append_right _ (List.mem_singleton.mpr rfl)

theorem mem_ensureRow {key : ρ → κ} {rows : List ρ} {r : ρ} (h : r ∈ rows) (row : ρ) :
    r ∈ ensureRow key rows row := by
  unfold ensureRow
  split
  · exact h
  · exact List.mem_append_left _ h

theorem mem_of_mem_ensureRow {key : ρ → κ} {rows : List ρ} {r row : ρ}
    (h : r ∈ ensureRow key rows row) : r ∈ rows ∨ r = row := by
  unfold ensureRow at h
  split at h
  · exact Or.inl h
  · rcases List.mem_append.mp h with h | h
    · exact Or.inl h
    · exact Or.inr (List.mem_singleton.mp h)

/-- `rows'` are `rows` with `n` rows behind them. -/
def GrownBy (n : Nat) (rows rows' : List ρ) : Prop :=
  rows <+: rows' ∧ rows'.length = rows.length + n

theorem GrownBy.refl (rows : List ρ) : GrownBy 0 rows rows := ⟨List.prefix_refl rows, rfl⟩

theorem GrownBy.append_singleton (rows : List ρ) (row : ρ) : GrownBy 1 rows (rows ++ [row]) :=
  ⟨List.prefix_append rows [row], List.length_append⟩

theorem GrownBy.trans {n m : Nat} {rows₁ rows₂ rows₃ : List ρ} (h₁ : GrownBy n rows₁ rows₂)
    (h₂ : GrownBy m rows₂ rows₃) : GrownBy (n + m) rows₁ rows₃ := by
  refine ⟨h₁.1.trans h₂.1, ?_⟩
  have hlength₁ := h₁.2
  have hlength₂ := h₂.2
  omega

theorem grown_ensureRow (key : ρ → κ) (rows : List ρ) (row : ρ) :
    GrownBy (if key row ∈ rows.map key then 0 else 1) rows (ensureRow key rows row) := by
  unfold ensureRow
  split
  · exact GrownBy.refl rows
  · exact GrownBy.append_singleton rows row

end Ensure

/-- Rows without images can be dropped before they are mapped. -/
theorem flatMap_filter_of_nil {α β : Type} {p : α → Bool} {f : α → List β} {l : List α}
    (h : ∀ a ∈ l, p a = false → f a = []) : (l.filter p).flatMap f = l.flatMap f := by
  induction l with
  | nil => rfl
  | cons a l ih =>
      have htail := ih fun b hb => h b (List.mem_cons_of_mem _ hb)
      cases ha : p a with
      | true => rw [List.filter_cons_of_pos ha, List.flatMap_cons, List.flatMap_cons, htail]
      | false =>
          rw [List.filter_cons_of_neg (by simp [ha]), List.flatMap_cons,
            h a List.mem_cons_self ha, List.nil_append, htail]

theorem key_mem_iff {key : ρ → κ} {k : κ} {rows : List ρ} :
    (∃ row ∈ rows, key row = k) ↔ k ∈ rows.map key := List.mem_map.symm

/-- Whether a row has the key, decided row by row. -/
@[reducible] def decidableKeyMem [DecidableEq κ] (key : ρ → κ) (k : κ) (rows : List ρ) :
    Decidable (k ∈ rows.map key) :=
  decidable_of_iff (∃ row ∈ rows, key row = k) key_mem_iff

end Lib
