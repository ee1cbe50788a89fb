import Mathlib.Logic.Function.Basic

/-!
# KeyNetra.Lib.Mealy — machines that answer

A machine takes a label to an answer and its next state. Two machines give the same answers when a
relation between their states survives every label; a family of machines, one for each key, answers
the labels of a key as the machine of that key does alone.

* `answers step s as` / `after step s as` — the answers to a run, and the state after it;
* `answers_at` — the answer to one label;
* `answers_eq_of_related` — the answers of two related machines;
* `answers_of_simulated` — the answers of a machine whose labels say more;
* `answers_keyed` — the answers of one key.
-/

namespace Lib

variable {σ τ α β κ : Type}

/-- The answers to the labels of a run. -/
def answers (step : σ → α → β × σ) : σ → List α → List β
  | _, [] => []
  | s, a :: as => (step s a).1 :: answers step (step s a).2 as

/-- The state after a run. -/
def after (step : σ → α → β × σ) : σ → List α → σ
  | s, [] => s
  | s, a :: as => after step (step s a).2 as

theorem answers_append (step : σ → α → β × σ) (s : σ) (as bs : List α) :
    answers step s (as ++ bs) = answers step s as ++ answers step (after step s as) bs := by
  induction as generalizing s with
  | nil => rfl
  | cons a as ih => rw [List.cons_append, answers, ih, answers, after, List.cons_append]

theorem after_append (step : σ → α → β × σ) (s : σ) (as bs : List α) :
    after step s (as ++ bs) = after step (after step s as) bs := by
  induction as generalizing s with
  | nil => rfl
  | cons a as ih => rw [List.cons_append, after, ih, after]

theorem length_answers (step : σ → α → β × σ) (s : σ) (as : List α) :
    (answers step s as).length = as.length := by
  induction as generalizing s with
  | nil => rfl
  | cons a as ih => rw [answers, List.length_cons, List.length_cons, ih]

/-- The answer to a label is given in the state that the labels before it lead to. -/
theorem answers_at (step : σ → α → β × σ) (s : σ) (before later : List α) (a : α) :
    (answers step s (before ++ a :: later))[before.length]? =
      some (step (after step s before) a).1 := by
  rw [answers_append, List.getElem?_append_right (Nat.le_of_eq (length_answers step s before)),
    length_answers, Nat.sub_self, answers]
  rfl

/-- What every answered label keeps holds after a run. -/
theorem after_preserves {step : σ → α → β × σ} {inv : σ → Prop}
    (hstep : ∀ s a, inv s → inv (step s a).2) {s : σ} (hs : inv s) (as : List α) :
    inv (after step s as) := by
  induction as generalizing s with
  | nil => exact hs
  | cons a as ih => exact ih (hstep s a hs)

/-- Two machines whose states stay related give the same answers; the relation may speak of the
labels to come. -/
theorem answers_eq_of_related {step : σ → α → β × σ} {step' : τ → α → β × τ}
    {related : σ → τ → List α → Prop}
    (hstep : ∀ s t a as, related s t (a :: as) →
      (step s a).1 = (step' t a).1 ∧ related (step s a).2 (step' t a).2 as)
    {s : σ} {t : τ} {as : List α} (h : related s t as) : answers step s as = answers step' t as := by
  induction as generalizing s t with
  | nil => rfl
  | cons a as ih =>
      have ⟨hanswer, hnext⟩ := hstep s t a as h
      rw [answers, answers, hanswer, ih hnext]

/-- A machine is simulated by one whose labels say more when a related label answers alike. -/
theorem answers_of_simulated {α' : Type} {step : σ → α → β × σ} {step' : τ → α' → β × τ}
    {erase : α' → α} {related : σ → τ → List α → Prop}
    (hstep : ∀ s t a as, related s t (a :: as) → ∃ a', erase a' = a ∧
      (step s a).1 = (step' t a').1 ∧ related (step s a).2 (step' t a').2 as)
    {s : σ} {t : τ} {as : List α} (h : related s t as) :
    ∃ as', as'.map erase = as ∧ answers step s as = answers step' t as' ∧
      related (after step s as) (after step' t as') [] := by
  induction as generalizing s t with
  | nil => exact ⟨[], rfl, rfl, h⟩
  | cons a as ih =>
      obtain ⟨a', rfl, hanswer, hnext⟩ := hstep s t a as h
      obtain ⟨as', rfl, hanswers, hafter⟩ := ih hnext
      refine ⟨a' :: as', rfl, ?_, hafter⟩
      rw [answers, answers, hanswer, hanswers]

/-! ## One machine for each key -/

variable [DecidableEq κ]

/-- The machine of a key answers, and the others stay. -/
def keyed (step : σ → α → β × σ) (s : κ → σ) (label : κ × α) : (κ × β) × (κ → σ) :=
  ((label.1, (step (s label.1) label.2).1),
    Function.update s label.1 (step (s label.1) label.2).2)

theorem keyed_self (step : σ → α → β × σ) (s : κ → σ) (key : κ) (a : α) :
    (keyed step s (key, a)).2 key = (step (s key) a).2 := Function.update_self ..

/-- Frame: the machines of the other keys stay. -/
theorem keyed_other (step : σ → α → β × σ) (s : κ → σ) {key other : κ} (h : other ≠ key) (a : α) :
    (keyed step s (other, a)).2 key = s key :=
  Function.update_of_ne (fun hsame => h hsame.symm) _ _

/-- The part of a list that belongs to a key. -/
def ofKey {γ : Type} (key : κ) (items : List (κ × γ)) : List γ :=
  items.filterMap fun item => if item.1 = key then some item.2 else none

theorem ofKey_cons_self {γ : Type} (key : κ) (item : γ) (items : List (κ × γ)) :
    ofKey key ((key, item) :: items) = item :: ofKey key items := by
  unfold ofKey
  rw [List.filterMap_cons, if_pos rfl]

theorem ofKey_cons_other {γ : Type} {key other : κ} (h : other ≠ key) (item : γ)
    (items : List (κ × γ)) : ofKey key ((other, item) :: items) = ofKey key items := by
  unfold ofKey
  rw [List.filterMap_cons, if_neg h]

/-- A key is answered as if it were alone. -/
theorem answers_keyed (step : σ → α → β × σ) (s : κ → σ) (labels : List (κ × α)) (key : κ) :
    ofKey key (answers (keyed step) s labels) = answers step (s key) (ofKey key labels) := by
  induction labels generalizing s with
  | nil => rfl
  | cons label labels ih =>
      obtain ⟨other, a⟩ := label
      rw [answers]
      by_cases hkey : other = key
      · subst hkey
        show ofKey other ((other, (step (s other) a).1) :: _) = _
        rw [ofKey_cons_self, ofKey_cons_self, answers, ih, keyed_self]
      · show ofKey key ((other, (step (s other) a).1) :: _) = _
        rw [ofKey_cons_other hkey, ofKey_cons_other hkey, ih, keyed_other step s hkey]

theorem after_keyed (step : σ → α → β × σ) (s : κ → σ) (labels : List (κ × α)) (key : κ) :
    after (keyed step) s labels key = after step (s key) (ofKey key labels) := by
  induction labels generalizing s with
  | nil => rfl
  | cons label labels ih =>
      obtain ⟨other, a⟩ := label
      rw [after, ih]
      by_cases hkey : other = key
      · subst hkey
        rw [ofKey_cons_self, after, keyed_self]
      · rw [ofKey_cons_other hkey, keyed_other step s hkey]

end Lib
