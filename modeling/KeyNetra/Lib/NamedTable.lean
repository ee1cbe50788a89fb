import KeyNetra.Lib.Table
import Mathlib.Logic.Function.Basic

/-!
# KeyNetra.Lib.NamedTable — rows with an automatic id and a unique name

* `NamedTable` — the rows, their ids and names without repetitions;
* `create` / `rename` / `delete` — the writes, refused when the name is taken;
* `create_eq_some`, `rename_eq_some`, `mem_delete` — what each leaves;
* `exists_mem_create`, `exists_mem_renamed`, `exists_mem_delete` — the same, by id and name.
-/

namespace Lib

/-- A row is an id and a name. -/
class NamedRow (ρ : Type) (ν : outParam Type) where
  id : ρ → Int
  name : ρ → ν
  row : Int → ν → ρ
  id_row : ∀ i n, id (row i n) = i
  name_row : ∀ i n, name (row i n) = n

attribute [simp] NamedRow.id_row NamedRow.name_row

/-- A table under its primary key and its unique constraint. -/
@[ext]
structure NamedTable (ρ : Type) {ν : Type} [NamedRow ρ ν] where
  rows : List ρ
  ids : (rows.map NamedRow.id).Nodup
  names : (rows.map NamedRow.name).Nodup

namespace NamedTable

variable {ρ ν : Type} [NamedRow ρ ν] [DecidableEq ν] {t t' : NamedTable ρ} {i : Int} {n : ν}
  {row row' : ρ}

/-- The row of an id. -/
def find? (t : NamedTable ρ) (i : Int) : Option ρ := t.rows.find? fun row => NamedRow.id row = i

/-- The row of a name. -/
def named? (t : NamedTable ρ) (n : ν) : Option ρ := t.rows.find? fun row => NamedRow.name row = n

/-- The row of a name under another id. -/
def otherNamed? (t : NamedTable ρ) (i : Int) (n : ν) : Option ρ :=
  t.rows.find? fun row => NamedRow.name row = n ∧ NamedRow.id row ≠ i

omit [DecidableEq ν] in
theorem find?_eq_some : t.find? i = some row ↔ row ∈ t.rows ∧ NamedRow.id row = i := by
  constructor
  · intro h
    exact ⟨List.mem_of_find?_eq_some h, by simpa using List.find?_some h⟩
  · rintro ⟨hrow, rfl⟩
    cases hfind : t.find? (NamedRow.id row) with
    | none => simpa using List.find?_eq_none.mp hfind row hrow
    | some other =>
        have hother : NamedRow.id other = NamedRow.id row := by simpa using List.find?_some hfind
        rw [eq_of_key_eq t.ids (List.mem_of_find?_eq_some hfind) hrow hother]

omit [DecidableEq ν] in
theorem find?_eq_none : t.find? i = none ↔ ∀ row ∈ t.rows, NamedRow.id row ≠ i := by
  simp [find?]

theorem named?_eq_some : t.named? n = some row ↔ row ∈ t.rows ∧ NamedRow.name row = n := by
  constructor
  · intro h
    exact ⟨List.mem_of_find?_eq_some h, by simpa using List.find?_some h⟩
  · rintro ⟨hrow, rfl⟩
    cases hfind : t.named? (NamedRow.name row) with
    | none => simpa using List.find?_eq_none.mp hfind row hrow
    | some other =>
        have hother : NamedRow.name other = NamedRow.name row := by
          simpa using List.find?_some hfind
        rw [eq_of_key_eq t.names (List.mem_of_find?_eq_some hfind) hrow hother]

theorem named?_eq_none : t.named? n = none ↔ ∀ row ∈ t.rows, NamedRow.name row ≠ n := by
  simp [named?]

theorem otherNamed?_eq_none :
    t.otherNamed? i n = none ↔ ∀ row ∈ t.rows, NamedRow.name row = n → NamedRow.id row = i := by
  simp [otherNamed?]

omit [DecidableEq ν] in
/-- The row of an id is one. -/
theorem row_unique (h : row ∈ t.rows) (h' : row' ∈ t.rows)
    (hid : NamedRow.id row = NamedRow.id row') : row = row' :=
  eq_of_key_eq t.ids h h' hid

/-! ## Writes -/

/-- The row a new name gets. -/
def newRow (t : NamedTable ρ) (n : ν) : ρ := NamedRow.row (freshId (t.rows.map NamedRow.id)) n

theorem notMem_names (h : t.named? n = none) : n ∉ t.rows.map NamedRow.name := by
  intro hmem
  obtain ⟨row, hrow, hname⟩ := List.mem_map.mp hmem
  exact named?_eq_none.mp h row hrow hname

omit [DecidableEq ν] in
theorem newRow_id_notMem (t : NamedTable ρ) (n : ν) :
    NamedRow.id (t.newRow n) ∉ t.rows.map NamedRow.id := by
  rw [newRow, NamedRow.id_row]
  exact freshId_notMem _

theorem newRow_name_notMem (h : t.named? n = none) :
    NamedRow.name (t.newRow n) ∉ t.rows.map NamedRow.name := by
  rw [newRow, NamedRow.name_row]
  exact notMem_names h

/-- A new row under a name that is not taken. -/
def insert (t : NamedTable ρ) (n : ν) (h : t.named? n = none) : NamedTable ρ where
  rows := t.rows ++ [t.newRow n]
  ids := nodup_map_append t.ids (newRow_id_notMem t n)
  names := nodup_map_append t.names (newRow_name_notMem h)

/-- A new row, unless the name is taken. -/
def create (t : NamedTable ρ) (n : ν) : Option (ρ × NamedTable ρ) :=
  match h : t.named? n with
  | some _ => none
  | none => some (t.newRow n, t.insert n h)

/-- The row of the name, which is new when there was none. -/
def ensure (t : NamedTable ρ) (n : ν) : ρ × NamedTable ρ :=
  match h : t.named? n with
  | some row => (row, t)
  | none => (t.newRow n, t.insert n h)

/-- The rows with one of them renamed. -/
def renamed (rows : List ρ) (i : Int) (n : ν) : List ρ :=
  rows.map fun row => if NamedRow.id row = i then NamedRow.row i n else row

omit [DecidableEq ν] in
theorem id_renamed (rows : List ρ) (i : Int) (n : ν) :
    (renamed rows i n).map NamedRow.id = rows.map NamedRow.id := by
  unfold renamed
  rw [List.map_map]
  apply List.map_congr_left
  intro row _
  dsimp only [Function.comp]
  split
  · rename_i h
    rw [NamedRow.id_row, h]
  · rfl

omit [DecidableEq ν] in
/-- A name no other row has can be given to a row. -/
theorem nodup_renamed {rows : List ρ} (hids : (rows.map NamedRow.id).Nodup)
    (hnames : (rows.map NamedRow.name).Nodup)
    (hother : ∀ row ∈ rows, NamedRow.name row = n → NamedRow.id row = i) :
    ((renamed rows i n).map NamedRow.name).Nodup := by
  unfold renamed
  rw [List.map_map]
  apply (List.nodup_map_iff_inj_on hids.of_map).mpr
  intro row hrow row' hrow' heq
  dsimp only [Function.comp] at heq
  split at heq <;> split at heq
  · rename_i h h'
    exact eq_of_key_eq hids hrow hrow' (h.trans h'.symm)
  · rename_i h h'
    rw [NamedRow.name_row] at heq
    exact absurd (hother row' hrow' heq.symm) h'
  · rename_i h h'
    rw [NamedRow.name_row] at heq
    exact absurd (hother row hrow heq) h
  · exact eq_of_key_eq hnames hrow hrow' heq

/-- Another name for the row of an id, unless another row has it. -/
def rename (t : NamedTable ρ) (i : Int) (n : ν) : Option (NamedTable ρ) :=
  match h : t.otherNamed? i n with
  | some _ => none
  | none => some
      { rows := renamed t.rows i n
        ids := by
          rw [id_renamed]
          exact t.ids
        names := nodup_renamed t.ids t.names (otherNamed?_eq_none.mp h) }

/-- The table without the row of an id. -/
def delete (t : NamedTable ρ) (i : Int) : NamedTable ρ where
  rows := t.rows.filter fun row => NamedRow.id row ≠ i
  ids := nodup_map_filter _ t.ids
  names := nodup_map_filter _ t.names

/-- The table without the rows of some ids. -/
def deleteAll (t : NamedTable ρ) (is : List Int) : NamedTable ρ where
  rows := t.rows.filter fun row => NamedRow.id row ∉ is
  ids := nodup_map_filter _ t.ids
  names := nodup_map_filter _ t.names

/-! ## What each write leaves -/

/-- A create that is not refused. -/
theorem create_eq_some (h : t.create n = some (row, t')) :
    (∀ r ∈ t.rows, NamedRow.name r ≠ n) ∧ row = t.newRow n ∧ t'.rows = t.rows ++ [row] := by
  unfold create at h
  split at h
  · cases h
  · rename_i hnone
    cases h
    exact ⟨named?_eq_none.mp hnone, rfl, rfl⟩

theorem ensure_of_named? (h : t.named? n = some row) : t.ensure n = (row, t) := by
  unfold ensure
  split
  · rename_i row' h'
    rw [h] at h'
    cases h'
    rfl
  · rename_i h'
    rw [h] at h'
    cases h'

/-- Where the name is not taken, a row is added. -/
theorem ensure_of_none (h : t.named? n = none) :
    (t.ensure n).1 = t.newRow n ∧ (t.ensure n).2.rows = t.rows ++ [t.newRow n] := by
  unfold ensure
  split
  · rename_i row' h'
    rw [h] at h'
    cases h'
  · exact ⟨rfl, rfl⟩

/-- After an `ensure` the name is the row's. -/
theorem named?_ensure (t : NamedTable ρ) (n : ν) :
    (t.ensure n).2.named? n = some (t.ensure n).1 := by
  cases h : t.named? n with
  | some row =>
      rw [ensure_of_named? h]
      exact h
  | none =>
      obtain ⟨hrow, hrows⟩ := ensure_of_none h
      apply named?_eq_some.mpr
      rw [hrow, hrows]
      exact ⟨List.mem_append_right _ (List.mem_singleton.mpr rfl), NamedRow.name_row _ _⟩

/-- An `ensure` keeps the rows, and adds one where the name was not taken. -/
theorem grown_ensure (t : NamedTable ρ) (n : ν) :
    GrownBy (if (t.named? n).isSome then 0 else 1) t.rows (t.ensure n).2.rows := by
  cases hn : t.named? n with
  | some row =>
      rw [ensure_of_named? hn]
      exact GrownBy.refl t.rows
  | none =>
      rw [(ensure_of_none hn).2]
      exact GrownBy.append_singleton t.rows _

theorem mem_ensure (h : row ∈ t.rows) (n : ν) : row ∈ (t.ensure n).2.rows :=
  (t.grown_ensure n).1.subset h

theorem create_eq_none : t.create n = none ↔ ∃ r ∈ t.rows, NamedRow.name r = n := by
  unfold create
  split
  · rename_i r hr
    exact iff_of_true rfl ⟨r, named?_eq_some.mp hr⟩
  · rename_i hnone
    apply iff_of_false (by simp)
    rintro ⟨r, hr, hname⟩
    exact named?_eq_none.mp hnone r hr hname

/-- A rename that is not refused. -/
theorem rename_eq_some (h : t.rename i n = some t') :
    (∀ r ∈ t.rows, NamedRow.name r = n → NamedRow.id r = i) ∧ t'.rows = renamed t.rows i n := by
  unfold rename at h
  split at h
  · cases h
  · rename_i hnone
    cases h
    exact ⟨otherNamed?_eq_none.mp hnone, rfl⟩

theorem rename_eq_none :
    t.rename i n = none ↔ ∃ r ∈ t.rows, NamedRow.name r = n ∧ NamedRow.id r ≠ i := by
  unfold rename
  split
  · rename_i r hr
    refine iff_of_true rfl ⟨r, List.mem_of_find?_eq_some hr, ?_⟩
    simpa using List.find?_some hr
  · rename_i hnone
    apply iff_of_false (by simp)
    rintro ⟨r, hr, hname, hid⟩
    exact hid (otherNamed?_eq_none.mp hnone r hr hname)

omit [DecidableEq ν] in
theorem mem_delete : row ∈ (t.delete i).rows ↔ row ∈ t.rows ∧ NamedRow.id row ≠ i := by
  simp [delete]

omit [DecidableEq ν] in
theorem mem_renamed {rows : List ρ} :
    row ∈ renamed rows i n ↔ (row ∈ rows ∧ NamedRow.id row ≠ i) ∨
      (row = NamedRow.row i n ∧ ∃ r ∈ rows, NamedRow.id r = i) := by
  unfold renamed
  rw [List.mem_map]
  constructor
  · rintro ⟨r, hr, rfl⟩
    split
    · rename_i hid
      exact Or.inr ⟨rfl, r, hr, hid⟩
    · rename_i hid
      exact Or.inl ⟨hr, hid⟩
  · rintro (⟨hrow, hid⟩ | ⟨rfl, r, hr, hid⟩)
    · exact ⟨row, hrow, if_neg hid⟩
    · exact ⟨r, hr, if_pos hid⟩

/-! ## Ids and names after a write -/

/-- The ids and names after a create. -/
theorem exists_mem_create {P : Int → ν → Prop} (h : t.create n = some (row, t')) :
    (∃ r ∈ t'.rows, P (NamedRow.id r) (NamedRow.name r)) ↔
      (∃ r ∈ t.rows, P (NamedRow.id r) (NamedRow.name r)) ∨ P (NamedRow.id row) n := by
  obtain ⟨-, hrow, hrows⟩ := create_eq_some h
  have hname : NamedRow.name row = n := by
    rw [hrow, newRow, NamedRow.name_row]
  rw [hrows]
  constructor
  · rintro ⟨r, hr, hP⟩
    rcases List.mem_append.mp hr with hr | hr
    · exact Or.inl ⟨r, hr, hP⟩
    · rw [List.mem_singleton.mp hr, hname] at hP
      exact Or.inr hP
  · rintro (⟨r, hr, hP⟩ | hP)
    · exact ⟨r, List.mem_append_left _ hr, hP⟩
    · refine ⟨row, List.mem_append_right _ (List.mem_singleton.mpr rfl), ?_⟩
      rwa [hname]

/-- The ids and names after a rename: the old name stands for the new one. -/
theorem exists_mem_renamed {P : Int → ν → Prop} (hrow : row ∈ t.rows)
    (hid : NamedRow.id row = i) :
    (∃ r ∈ renamed t.rows i n, P (NamedRow.id r) (NamedRow.name r)) ↔
      ∃ r ∈ t.rows, P (NamedRow.id r)
        (Function.update id (NamedRow.name row) n (NamedRow.name r)) := by
  -- names are unique, so another row does not have the old name
  have hold : ∀ r ∈ t.rows, NamedRow.id r ≠ i → NamedRow.name r ≠ NamedRow.name row := by
    intro r hr hne hname
    exact hne ((congrArg NamedRow.id (eq_of_key_eq t.names hr hrow hname)).trans hid)
  constructor
  · -- the renamed row stands for the old one, every other for itself
    rintro ⟨r, hr, hP⟩
    rcases mem_renamed.mp hr with ⟨hr, hne⟩ | ⟨rfl, -⟩
    · refine ⟨r, hr, ?_⟩
      rwa [Function.update_of_ne (hold r hr hne)]
    · refine ⟨row, hrow, ?_⟩
      rw [NamedRow.id_row, NamedRow.name_row] at hP
      rwa [Function.update_self, hid]
  · rintro ⟨r, hr, hP⟩
    by_cases hri : NamedRow.id r = i
    · have hr' : r = row := eq_of_key_eq t.ids hr hrow (hri.trans hid.symm)
      refine ⟨NamedRow.row i n, mem_renamed.mpr (Or.inr ⟨rfl, r, hr, hri⟩), ?_⟩
      rw [hr', Function.update_self, hid] at hP
      rwa [NamedRow.id_row, NamedRow.name_row]
    · refine ⟨r, mem_renamed.mpr (Or.inl ⟨hr, hri⟩), ?_⟩
      rwa [Function.update_of_ne (hold r hr hri)] at hP

omit [DecidableEq ν] in
/-- The ids and names after a delete: the name of the row is gone. -/
theorem exists_mem_delete {P : Int → ν → Prop} (hrow : row ∈ t.rows)
    (hid : NamedRow.id row = i) :
    (∃ r ∈ (t.delete i).rows, P (NamedRow.id r) (NamedRow.name r)) ↔
      ∃ r ∈ t.rows, NamedRow.name r ≠ NamedRow.name row ∧ P (NamedRow.id r) (NamedRow.name r) := by
  constructor
  · rintro ⟨r, hr, hP⟩
    obtain ⟨hr, hne⟩ := mem_delete.mp hr
    refine ⟨r, hr, ?_, hP⟩
    intro hname
    exact hne ((congrArg NamedRow.id (eq_of_key_eq t.names hr hrow hname)).trans hid)
  · rintro ⟨r, hr, hname, hP⟩
    refine ⟨r, mem_delete.mpr ⟨hr, ?_⟩, hP⟩
    intro hri
    exact hname (congrArg NamedRow.name (eq_of_key_eq t.ids hr hrow (hri.trans hid.symm)))

omit [DecidableEq ν] in
/-- A row that has the name already is left alone. -/
theorem renamed_self {rows : List ρ}
    (hrow : ∀ r ∈ rows, NamedRow.id r = i → r = NamedRow.row i n) : renamed rows i n = rows := by
  unfold renamed
  have hmap : rows.map (fun row => if NamedRow.id row = i then NamedRow.row i n else row) =
      rows.map fun row => row := by
    apply List.map_congr_left
    intro r hr
    split
    · rename_i hid
      exact (hrow r hr hid).symm
    · rfl
  rw [hmap, List.map_id']

/-! ## The same write again -/

/-- A name that was created is taken. -/
theorem create_again (h : t.create n = some (row, t')) : t'.create n = none := by
  apply create_eq_none.mpr
  obtain ⟨-, hrow, hrows⟩ := create_eq_some h
  refine ⟨row, ?_, ?_⟩
  · rw [hrows]
    exact List.mem_append_right _ (List.mem_singleton.mpr rfl)
  · rw [hrow, newRow, NamedRow.name_row]

/-- A row that was renamed has the name. -/
theorem rename_again (h : t.rename i n = some t') : t'.rename i n = some t' := by
  obtain ⟨-, hrows⟩ := rename_eq_some h
  have hrenamed : ∀ r ∈ t'.rows, NamedRow.id r = i → r = NamedRow.row i n := by
    intro r hr hid
    rw [hrows] at hr
    rcases mem_renamed.mp hr with ⟨-, hne⟩ | ⟨hr, -⟩
    · exact absurd hid hne
    · exact hr
  cases hagain : t'.rename i n with
  | none =>
      obtain ⟨r, hr, hname, hid⟩ := rename_eq_none.mp hagain
      -- the other row would have had the name before
      rw [hrows] at hr
      rcases mem_renamed.mp hr with ⟨hr, -⟩ | ⟨rfl, -⟩
      · exact absurd ((rename_eq_some h).1 r hr hname) hid
      · exact absurd (NamedRow.id_row i n) hid
  | some t'' =>
      obtain ⟨-, hrows'⟩ := rename_eq_some hagain
      rw [renamed_self hrenamed] at hrows'
      exact congrArg some (NamedTable.ext hrows')

omit [DecidableEq ν] in
/-- A row that was deleted is gone. -/
theorem find?_delete (t : NamedTable ρ) (i : Int) : (t.delete i).find? i = none := by
  apply find?_eq_none.mpr
  intro r hr
  exact (mem_delete.mp hr).2

end NamedTable

end Lib
