import KeyNetra.Concurrency.VersionBumps

/-!
# KeyNetra.Concurrency.TenantCreation — concurrent first use of a tenant

`get_or_create` selects the tenant by its key, and where there is none it inserts a row, commits, and
selects the row again. Sessions interleave between these, and the key is unique: an insert of a key
that is taken raises.

* `CreateState.step` — any number of calls for one key, step by step;
* `getOrCreate_alone` — a call that nothing interrupts is the repository's;
* `three_steps` — a call ends with its third step;
* `first_use_safe_iff` — all calls return one tenant, and it has one row, iff every insert of the run
  finds the key still free.
-/

namespace KeyNetra

/-! ## The table -/

theorem TenantTable.newRow_ids (t : TenantTable) (tenantKey : String) :
    ((t.rows ++ [t.newRow tenantKey]).map TenantRecord.id).Nodup :=
  Lib.nodup_map_append t.ids (Lib.freshId_notMem _)

theorem TenantTable.newRow_keys (t : TenantTable) (tenantKey : String)
    (h : tenantKey ∉ t.rows.map TenantRecord.tenantKey) :
    ((t.rows ++ [t.newRow tenantKey]).map TenantRecord.tenantKey).Nodup :=
  Lib.nodup_map_append t.keys h

/-- `INSERT INTO tenants`, under the unique constraint. -/
def TenantTable.insert (t : TenantTable) (tenantKey : String) :
    Except PyError (TenantRecord × TenantTable) :=
  if h : tenantKey ∈ t.rows.map TenantRecord.tenantKey then .error .integrityError
  else .ok (t.newRow tenantKey,
    { rows := t.rows ++ [t.newRow tenantKey]
      ids := t.newRow_ids tenantKey
      keys := t.newRow_keys tenantKey h })

/-- The key has no row. -/
def TenantTable.Free (t : TenantTable) (tenantKey : String) : Prop :=
  tenantKey ∉ t.rows.map TenantRecord.tenantKey

/-- A key without a row is free. -/
theorem TenantTable.find?_none_iff {t : TenantTable} {tenantKey : String} :
    t.find? tenantKey = none ↔ t.Free tenantKey := by
  constructor
  · exact TenantTable.find?_none
  · intro hfree
    rw [TenantTable.find?, List.find?_eq_none]
    intro row hrow hkey
    exact hfree (List.mem_map.mpr ⟨row, hrow, by simpa using hkey⟩)

theorem TenantTable.insert_free {t : TenantTable} {tenantKey : String} (h : t.Free tenantKey) :
    t.insert tenantKey = .ok (t.getOrCreate tenantKey) := by
  unfold TenantTable.insert TenantTable.getOrCreate
  rw [dif_neg h]
  split
  · rename_i row hfound
    rw [TenantTable.find?_none_iff.mpr h] at hfound
    cases hfound
  · rfl

theorem TenantTable.insert_taken {t : TenantTable} {tenantKey : String} (h : ¬ t.Free tenantKey) :
    t.insert tenantKey = .error .integrityError :=
  dif_pos (not_not.mp h)

/-- A row of the table is selected by its id. -/
theorem TenantTable.byId_of_mem {t : TenantTable} {row : TenantRecord} (h : row ∈ t.rows) :
    t.byId row.id = some row := by
  cases hfind : t.byId row.id with
  | none =>
      have hnone := List.find?_eq_none.mp hfind row h
      simp at hnone
  | some found =>
      have hid : found.id = row.id := by simpa using List.find?_some hfind
      have hmem : found ∈ t.rows := List.mem_of_find?_eq_some hfind
      rw [Lib.eq_of_key_eq t.ids hmem h hid]

/-! ## The system -/

/-- Where a call stands. -/
inductive CreatePc where
  | idle
  | missed
  | committed (row : TenantRecord)
  | returned (record : TenantRecord)
  | failed (error : PyError)

/-- The committed table and the calls, each with a session of its own. -/
structure CreateState where
  table : TenantTable
  calls : Nat → CreatePc

namespace CreateState

variable (tenantKey : String)

/-- Move one call. -/
def setPc (s : CreateState) (i : Nat) (pc : CreatePc) : CreateState :=
  { s with calls := Function.update s.calls i pc }

/-- Call `i` takes its next step. A session whose commit has raised is left as it is. -/
def step (s : CreateState) (i : Nat) : CreateState :=
  match s.calls i with
  | .idle =>
      match s.table.find? tenantKey with
      | some row => s.setPc i (.returned row)
      | none => s.setPc i .missed
  | .missed =>
      match s.table.insert tenantKey with
      | .ok (row, table) => { table, calls := Function.update s.calls i (.committed row) }
      | .error e => s.setPc i (.failed e)
  | .committed row =>
      match s.table.byId row.id with
      | none => s.setPc i (.failed (.valueError "could not refresh the instance"))
      | some row => s.setPc i (.returned row)
  | .returned _ | .failed _ => s

/-- The tenants before any of the calls. -/
def initial (t : TenantTable) : CreateState where
  table := t
  calls _ := .idle

/-- If the step is an insert, the key is still free. -/
def OnTime (s : CreateState) (i : Nat) : Prop :=
  s.calls i = .missed → s.table.Free tenantKey

/-- The rows of the key. -/
def rows (s : CreateState) : List TenantRecord :=
  s.table.rows.filter fun row => row.tenantKey = tenantKey

/-- Behind the steps of the run: no call has raised, each that has taken its three steps has
returned, all that have returned have the same tenant, and it is the one row of the key. -/
structure Safe (run : List Nat) (s : CreateState) : Prop where
  normal : ∀ i e, s.calls i ≠ .failed e
  returns : ∀ i, 3 ≤ run.count i → ∃ record, s.calls i = .returned record
  same : ∀ i j record record', s.calls i = .returned record → s.calls j = .returned record' →
    record.id = record'.id
  one : ∀ i record, s.calls i = .returned record → s.rows tenantKey = [record]

/-! ## One step -/

variable {tenantKey} {s : CreateState} {i : Nat}

theorem calls_setPc_self (s : CreateState) (i : Nat) (pc : CreatePc) :
    (s.setPc i pc).calls i = pc := Function.update_self ..

theorem calls_setPc_ne (s : CreateState) {i j : Nat} (pc : CreatePc) (h : j ≠ i) :
    (s.setPc i pc).calls j = s.calls j := Function.update_of_ne h ..

/-- The move of a call that inserts. -/
def created (s : CreateState) (tenantKey : String) (i : Nat) : CreateState where
  table := (s.table.getOrCreate tenantKey).2
  calls := Function.update s.calls i (.committed (s.table.getOrCreate tenantKey).1)

theorem step_found {row : TenantRecord} (hpc : s.calls i = .idle)
    (hrow : s.table.find? tenantKey = some row) :
    s.step tenantKey i = s.setPc i (.returned row) := by
  unfold step
  simp only [hpc, hrow]

theorem step_missed (hpc : s.calls i = .idle) (hfree : s.table.Free tenantKey) :
    s.step tenantKey i = s.setPc i .missed := by
  unfold step
  simp only [hpc, TenantTable.find?_none_iff.mpr hfree]

theorem step_created (hpc : s.calls i = .missed) (hfree : s.table.Free tenantKey) :
    s.step tenantKey i = s.created tenantKey i := by
  unfold step
  simp only [hpc, TenantTable.insert_free hfree]
  rfl

theorem step_refused (hpc : s.calls i = .missed) (htaken : ¬ s.table.Free tenantKey) :
    s.step tenantKey i = s.setPc i (.failed .integrityError) := by
  unfold step
  simp only [hpc, TenantTable.insert_taken htaken]

theorem step_refreshed {row : TenantRecord} (hpc : s.calls i = .committed row)
    (hrow : row ∈ s.table.rows) : s.step tenantKey i = s.setPc i (.returned row) := by
  unfold step
  simp only [hpc, TenantTable.byId_of_mem hrow]

/-! ## Every call ends -/

/-- A step moves its own call only. -/
theorem step_other {j : Nat} (h : j ≠ i) : (s.step tenantKey i).calls j = s.calls j := by
  unfold step
  split
  · split
    · exact calls_setPc_ne s _ h
    · exact calls_setPc_ne s _ h
  · split
    · exact Function.update_of_ne h ..
    · exact calls_setPc_ne s _ h
  · split
    · exact calls_setPc_ne s _ h
    · exact calls_setPc_ne s _ h
  · rfl
  · rfl

/-- How many steps a call has behind it. -/
def rank : CreatePc → Nat
  | .idle => 0
  | .missed => 1
  | .committed _ => 2
  | .returned _ | .failed _ => 3

/-- Each step brings its call forward. -/
theorem rank_step : min 3 (rank (s.calls i) + 1) ≤ rank ((s.step tenantKey i).calls i) := by
  unfold step
  cases hpc : s.calls i with
  | idle =>
      -- idle: the row is found, or missed
      dsimp only
      split
      · rw [calls_setPc_self]
        simp [rank]
      · rw [calls_setPc_self]
        simp [rank]
  | missed =>
      -- missed: the insert commits, or fails on the key
      dsimp only
      split
      · show _ ≤ rank (Function.update s.calls i _ i)
        rw [Function.update_self]
        simp [rank]
      · rw [calls_setPc_self]
        simp [rank]
  | committed row =>
      -- committed: the row is read back, or gone
      dsimp only
      split
      · rw [calls_setPc_self]
        simp [rank]
      · rw [calls_setPc_self]
        simp [rank]
  | returned record => simp [hpc, rank]
  | failed e => simp [hpc, rank]

/-- A call ends with its third step. -/
theorem three_steps (run : List Nat) (i : Nat) :
    min 3 (rank (s.calls i) + run.count i) ≤ rank ((Lib.run (step tenantKey) s run).calls i) := by
  induction run generalizing s with
  | nil => exact min_le_right _ _
  | cons j run ih =>
      rw [Lib.run_cons]
      have hrest := @ih (s.step tenantKey j)
      by_cases hj : j = i
      · have hrank := @rank_step tenantKey s i
        rw [hj] at hrest
        rw [hj, List.count_cons_self]
        omega
      · have hother := @step_other tenantKey s j i fun h => hj h.symm
        rw [hother] at hrest
        rw [List.count_cons_of_ne hj]
        exact hrest

/-- A call that has raised stays so. -/
theorem failed_run {e : PyError} (h : s.calls i = .failed e) (run : List Nat) :
    (Lib.run (step tenantKey) s run).calls i = .failed e := by
  have hstep : ∀ (s : CreateState) (j : Nat), s.calls i = .failed e →
      (s.step tenantKey j).calls i = .failed e := by
    intro s j hfailed
    by_cases hj : i = j
    · unfold step
      rw [← hj, hfailed]
      exact hfailed
    · rw [step_other hj]
      exact hfailed
  exact @Lib.run_preserves _ _ _ (fun s : CreateState => s.calls i = .failed e) hstep s h run

/-! ## One tenant -/

/-- No call has raised, and what the calls hold is a row of the key. -/
structure Inv (tenantKey : String) (s : CreateState) : Prop where
  normal : ∀ i e, s.calls i ≠ .failed e
  inserted : ∀ i row, s.calls i = .committed row → row ∈ s.table.rows ∧ row.tenantKey = tenantKey
  found : ∀ i row, s.calls i = .returned row → row ∈ s.table.rows ∧ row.tenantKey = tenantKey

theorem inv_initial (t : TenantTable) : Inv tenantKey (initial t) := by
  constructor
  · intro i e h
    cases h
  · intro i row h
    cases h
  · intro i row h
    cases h

/-- Moving a call to a point that is neither an error nor a stray row. -/
theorem Inv.setPc (h : Inv tenantKey s) {pc : CreatePc} (hnormal : ∀ e, pc ≠ .failed e)
    (hrow : ∀ row, pc = .committed row ∨ pc = .returned row →
      row ∈ s.table.rows ∧ row.tenantKey = tenantKey) : Inv tenantKey (s.setPc i pc) := by
  constructor
  · intro j e hj
    by_cases hij : j = i
    · rw [hij, calls_setPc_self] at hj
      exact hnormal e hj
    · rw [calls_setPc_ne s pc hij] at hj
      exact h.normal j e hj
  · intro j row hj
    by_cases hij : j = i
    · rw [hij, calls_setPc_self] at hj
      exact hrow row (.inl hj)
    · rw [calls_setPc_ne s pc hij] at hj
      exact h.inserted j row hj
  · intro j row hj
    by_cases hij : j = i
    · rw [hij, calls_setPc_self] at hj
      exact hrow row (.inr hj)
    · rw [calls_setPc_ne s pc hij] at hj
      exact h.found j row hj

/-- Rows are only added. -/
theorem Inv.grow (h : Inv tenantKey s) {table : TenantTable}
    (hgrow : ∀ row ∈ s.table.rows, row ∈ table.rows) :
    Inv tenantKey { s with table := table } := by
  constructor
  · exact h.normal
  · intro i row hi
    exact ⟨hgrow row (h.inserted i row hi).1, (h.inserted i row hi).2⟩
  · intro i row hi
    exact ⟨hgrow row (h.found i row hi).1, (h.found i row hi).2⟩

theorem mem_getOrCreate {t : TenantTable} {row : TenantRecord} (h : row ∈ t.rows) :
    row ∈ (t.getOrCreate tenantKey).2.rows := by
  unfold TenantTable.getOrCreate
  split
  · exact h
  · exact List.mem_append_left _ h

/-- A step on time keeps the invariant. -/
theorem Inv.step (h : Inv tenantKey s) (htime : s.OnTime tenantKey i) :
    Inv tenantKey (s.step tenantKey i) := by
  cases hpc : s.calls i with
  | idle =>
      by_cases hfree : s.table.Free tenantKey
      · rw [step_missed hpc hfree]
        exact h.setPc (by simp) (by simp)
      · rcases hfind : s.table.find? tenantKey with _ | row
        · exact absurd (TenantTable.find?_none_iff.mp hfind) hfree
        · rw [step_found hpc hfind]
          refine h.setPc (by simp) ?_
          rintro row' (hrow | hrow)
          · cases hrow
          · cases hrow
            exact TenantTable.find?_some hfind
  | missed =>
      -- on time means that nobody has inserted the tenant since it was missed
      have hfree := htime hpc
      have hcreated := TenantTable.find?_some (s.table.find?_getOrCreate tenantKey)
      have hgrown := h.grow fun row => @mem_getOrCreate tenantKey s.table row
      rw [step_created hpc hfree]
      refine hgrown.setPc (by simp) ?_
      rintro row' (hrow | hrow)
      · cases hrow
        exact hcreated
      · cases hrow
  | committed row =>
      have hrow := h.inserted i row hpc
      rw [step_refreshed hpc hrow.1]
      refine h.setPc (by simp) ?_
      rintro row' (hrow' | hrow')
      · cases hrow'
      · cases hrow'
        exact hrow
  | returned record =>
      unfold CreateState.step
      rw [hpc]
      exact h
  | failed e => exact absurd hpc (h.normal i e)

/-- The row of a key is the only one. -/
theorem rows_of_mem {row : TenantRecord} (hrow : row ∈ s.table.rows)
    (hkey : row.tenantKey = tenantKey) : s.rows tenantKey = [row] := by
  have hone := Lib.filter_key_eq s.table.keys hrow
  rw [hkey] at hone
  exact hone

/-- Under the invariant, what a run has left is safe. -/
theorem Inv.safe {t : TenantTable} {run : List Nat}
    (h : Inv tenantKey (Lib.run (CreateState.step tenantKey) (initial t) run)) :
    Safe tenantKey run (Lib.run (CreateState.step tenantKey) (initial t) run) := by
  have hone : ∀ i record,
      (Lib.run (CreateState.step tenantKey) (initial t) run).calls i = .returned record →
        (Lib.run (CreateState.step tenantKey) (initial t) run).rows tenantKey = [record] := by
    intro i record hi
    have ⟨hrow, hkey⟩ := h.found i record hi
    exact rows_of_mem hrow hkey
  constructor
  · exact h.normal
  · intro i hcount
    have hrank := @three_steps tenantKey (initial t) run i
    -- three steps bring a call to its end
    cases hpc : (Lib.run (CreateState.step tenantKey) (initial t) run).calls i with
    | returned record => exact ⟨record, rfl⟩
    | failed e => exact absurd hpc (h.normal i e)
    -- before its end a call has made fewer than three steps
    | idle =>
        rw [hpc] at hrank
        simp only [rank] at hrank
        omega
    | missed =>
        rw [hpc] at hrank
        simp only [rank] at hrank
        omega
    | committed row =>
        rw [hpc] at hrank
        simp only [rank] at hrank
        omega
  · -- two calls return the one row of the key
    intro i j record record' hi hj
    have hsame := (hone i record hi).symm.trans (hone j record' hj)
    cases hsame
    rfl
  · exact hone

/-- A run in which no call has raised has inserted on time. -/
theorem onTime_of_normal {run : List Nat}
    (h : ∀ i e, (Lib.run (step tenantKey) s run).calls i ≠ .failed e) :
    Lib.Along (step tenantKey) (OnTime tenantKey) s run := by
  induction run generalizing s with
  | nil => trivial
  | cons i run ih =>
      refine ⟨?_, ih h⟩
      intro hpc
      by_contra htaken
      -- the late insert raises, and the call never recovers
      have hfailed : (s.step tenantKey i).calls i = .failed .integrityError := by
        rw [step_refused hpc htaken, calls_setPc_self]
      exact h i .integrityError (failed_run hfailed run)

/-- However the calls interleave: none raises, each returns with its third step, all return the same
tenant and it is the one row of the key, iff every insert of the run finds the key still free. -/
theorem first_use_safe_iff (t : TenantTable) (tenantKey : String) (run : List Nat) :
    Safe tenantKey run (Lib.run (step tenantKey) (initial t) run) ↔
      Lib.Along (step tenantKey) (OnTime tenantKey) (initial t) run := by
  constructor
  · intro hsafe
    exact onTime_of_normal hsafe.normal
  · intro htime
    have hinv := Lib.run_invariant (fun s i (hs : Inv tenantKey s) htime => hs.step htime)
      (inv_initial t) htime
    exact hinv.safe

/-- A call that nothing interrupts is the repository's. -/
theorem getOrCreate_alone (s : CreateState) (hidle : s.calls i = .idle) :
    (Lib.run (step tenantKey) s [i, i, i]).calls i =
        .returned (s.table.getOrCreate tenantKey).1 ∧
      (Lib.run (step tenantKey) s [i, i, i]).table = (s.table.getOrCreate tenantKey).2 := by
  simp only [Lib.run_cons, Lib.run_nil]
  rcases hfind : s.table.find? tenantKey with _ | row
  · -- no row: the call inserts one, and finds it again
    have hfree := TenantTable.find?_none_iff.mp hfind
    have hmissed : (s.setPc i .missed).calls i = .missed := calls_setPc_self s i .missed
    have hcommitted : ((s.setPc i .missed).created tenantKey i).calls i =
        .committed (s.table.getOrCreate tenantKey).1 := Function.update_self ..
    have hstored := TenantTable.find?_some (s.table.find?_getOrCreate tenantKey)
    rw [step_missed hidle hfree, step_created hmissed hfree,
      step_refreshed hcommitted hstored.1, calls_setPc_self]
    exact ⟨rfl, rfl⟩
  · have hreturned : (s.setPc i (.returned row)).calls i = .returned row :=
      calls_setPc_self s i (.returned row)
    have hstays : (s.setPc i (.returned row)).step tenantKey i = s.setPc i (.returned row) := by
      unfold step
      rw [hreturned]
    rw [step_found hidle hfind, hstays, hstays, TenantTable.getOrCreate_of_find? hfind]
    exact ⟨hreturned, rfl⟩

/-- Two sessions select before either inserts: the first returns tenant 1, and the second raises
and stays so. -/
theorem second_insert_raises :
    let t : TenantTable := ⟨[], List.nodup_nil, List.nodup_nil⟩
    let last := Lib.run (step "acme") (initial t) [0, 1, 0, 1, 0, 1]
    last.calls 0 = .returned ⟨1, "acme", 1, 1⟩ ∧ last.calls 1 = .failed .integrityError ∧
      ¬ Safe "acme" [0, 1, 0, 1, 0, 1] last := by
  intro t last
  have hfailed : last.calls 1 = .failed .integrityError := rfl
  refine ⟨rfl, hfailed, ?_⟩
  intro hsafe
  exact hsafe.normal 1 _ hfailed

end CreateState

end KeyNetra
