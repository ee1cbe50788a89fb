import Mathlib.Data.List.Basic

/-!
# KeyNetra.Lib.Runs — runs of a deterministic machine

A machine is a step function `step : σ → α → σ` over labels; a run is a list of
labels. Interleavings of several parties are runs whose labels name the party
that moves; a disabled label stutters.

* `run step s as` — the state after the run;
* `Along step P s as` — `P` holds of every step of the run, in the state
  before the step;
* `run_preserves` / `run_invariant` / `along_of_invariant` — the induction over
  the run, once;
* `along_simulation` — step properties along the runs of a refined machine.
-/

namespace Lib

variable {σ α : Type}

/-- The state a run ends in. -/
def run (step : σ → α → σ) (s : σ) (as : List α) : σ := as.foldl step s

/-- `P` holds of every step of the run, in the state before it. -/
def Along (step : σ → α → σ) (P : σ → α → Prop) : σ → List α → Prop
  | _, [] => True
  | s, a :: as => P s a ∧ Along step P (step s a) as

@[simp] theorem run_nil (step : σ → α → σ) (s : σ) : run step s [] = s := rfl

@[simp] theorem run_cons (step : σ → α → σ) (s : σ) (a : α) (as : List α) :
    run step s (a :: as) = run step (step s a) as := rfl

theorem run_append (step : σ → α → σ) (s : σ) (as bs : List α) :
    run step s (as ++ bs) = run step (run step s as) bs := List.foldl_append

theorem along_append {step : σ → α → σ} {P : σ → α → Prop} {s : σ} {as bs : List α} :
    Along step P s (as ++ bs) ↔ Along step P s as ∧ Along step P (run step s as) bs := by
  induction as generalizing s with
  | nil => simp [Along]
  | cons a as ih => simp only [List.cons_append, Along, run_cons, ih, and_assoc]

/-- A step somewhere in the run, in the state the run has reached before it. -/
theorem Along.at {step : σ → α → σ} {P : σ → α → Prop} {s : σ} {pre post : List α} {a : α}
    (h : Along step P s (pre ++ a :: post)) : P (run step s pre) a :=
  (along_append.mp h).2.1

/-- A run whose last step misses the property. -/
theorem not_along_of_last {step : σ → α → σ} {P : σ → α → Prop} {s : σ} {pre : List α} {a : α}
    (h : ¬ P (run step s pre) a) : ¬ Along step P s (pre ++ [a]) :=
  fun hrun => h hrun.at

theorem Along.mono {step : σ → α → σ} {P Q : σ → α → Prop} (hPQ : ∀ s a, P s a → Q s a)
    {s : σ} {as : List α} (h : Along step P s as) : Along step Q s as := by
  induction as generalizing s with
  | nil => trivial
  | cons a as ih => exact ⟨hPQ s a h.1, ih h.2⟩

/-- Two properties hold along a run iff both do. -/
theorem along_and {step : σ → α → σ} {P Q : σ → α → Prop} {s : σ} {as : List α} :
    Along step (fun s a => P s a ∧ Q s a) s as ↔ Along step P s as ∧ Along step Q s as := by
  induction as generalizing s with
  | nil => exact (and_self_iff (a := True)).symm
  | cons a as ih =>
      simp only [Along, ih]
      exact and_and_and_comm

/-- A property of the labels of a run holds along it. -/
theorem Along.and_forall {step : σ → α → σ} {P : σ → α → Prop} {Q : α → Prop} {s : σ} {as : List α}
    (h : Along step P s as) (hQ : ∀ a ∈ as, Q a) : Along step (fun s a => P s a ∧ Q a) s as := by
  induction as generalizing s with
  | nil => trivial
  | cons a as ih =>
      have ha := hQ a List.mem_cons_self
      exact ⟨⟨h.1, ha⟩, ih h.2 fun b hb => hQ b (List.mem_cons_of_mem _ hb)⟩

/-- A property of all labels of a run. -/
theorem along_of_forall {step : σ → α → σ} {Q : α → Prop} {s : σ} {as : List α}
    (hQ : ∀ a ∈ as, Q a) : Along step (fun _ a => Q a) s as := by
  induction as generalizing s with
  | nil => trivial
  | cons a as ih =>
      exact ⟨hQ a List.mem_cons_self, ih fun b hb => hQ b (List.mem_cons_of_mem _ hb)⟩

/-- Invariant induction over a run whose steps all meet `ok`. -/
theorem run_invariant {step : σ → α → σ} {ok : σ → α → Prop} {inv : σ → Prop}
    (hstep : ∀ s a, inv s → ok s a → inv (step s a)) {s : σ} {as : List α}
    (hs : inv s) (hok : Along step ok s as) : inv (run step s as) := by
  induction as generalizing s with
  | nil => exact hs
  | cons a as ih => exact ih (hstep s a hs hok.1) hok.2

/-- Invariant induction over a run of any steps. -/
theorem run_preserves {step : σ → α → σ} {inv : σ → Prop}
    (hstep : ∀ s a, inv s → inv (step s a)) {s : σ} (hs : inv s) (as : List α) :
    inv (run step s as) := by
  induction as generalizing s with
  | nil => exact hs
  | cons a as ih => exact ih (hstep s a hs)

/-- What a run brings about is brought about by one of its steps. -/
theorem exists_flip {step : σ → α → σ} {P : σ → Prop} {s : σ} {as : List α} (hs : ¬ P s)
    (h : P (run step s as)) :
    ∃ pre a post, as = pre ++ a :: post ∧ ¬ P (run step s pre) ∧
      P (step (run step s pre) a) := by
  induction as generalizing s with
  | nil => exact absurd h hs
  | cons a as ih =>
      by_cases ha : P (step s a)
      · exact ⟨[], a, as, rfl, hs, ha⟩
      · obtain ⟨pre, b, post, rfl, hpre, hflip⟩ := ih ha h
        exact ⟨a :: pre, b, post, rfl, hpre, hflip⟩

/-- What the invariant gives at each step holds along the whole run. -/
theorem along_of_invariant {step : σ → α → σ} {ok P : σ → α → Prop} {inv : σ → Prop}
    (hstep : ∀ s a, inv s → ok s a → inv (step s a)) (hP : ∀ s a, inv s → ok s a → P s a)
    {s : σ} {as : List α} (hs : inv s) (hok : Along step ok s as) : Along step P s as := by
  induction as generalizing s with
  | nil => trivial
  | cons a as ih => exact ⟨hP s a hs hok.1, ih (hstep s a hs hok.1) hok.2⟩

/-- Two step properties that agree under an invariant, which the steps with the second
keep, hold along the same runs. -/
theorem along_iff {step : σ → α → σ} {P Q : σ → α → Prop} {inv : σ → Prop}
    (hstep : ∀ s a, inv s → Q s a → inv (step s a)) (hPQ : ∀ s a, inv s → (P s a ↔ Q s a))
    {s : σ} {as : List α} (hs : inv s) : Along step P s as ↔ Along step Q s as := by
  induction as generalizing s with
  | nil => exact Iff.rfl
  | cons a as ih =>
      simp only [Along, hPQ s a hs]
      exact and_congr_right fun hQ => ih (hstep s a hs hQ)

/-- A simulation carries step properties from one machine to the other. -/
theorem along_simulation {τ : Type} {step : σ → α → σ} {step' : τ → α → τ} {abs : σ → τ}
    {inv : σ → Prop} {P : σ → α → Prop} {P' : τ → α → Prop}
    (hinv : ∀ s a, inv s → inv (step s a))
    (hsim : ∀ s a, inv s → abs (step s a) = step' (abs s) a)
    (hP : ∀ s a, inv s → (P s a ↔ P' (abs s) a)) {s : σ} {as : List α} (hs : inv s) :
    Along step P s as ↔ Along step' P' (abs s) as := by
  induction as generalizing s with
  | nil => exact Iff.rfl
  | cons a as ih =>
      simp only [Along, ← hsim s a hs]
      exact and_congr (hP s a hs) (ih (hinv s a hs))

end Lib
