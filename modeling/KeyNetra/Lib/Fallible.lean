import KeyNetra.Lib.Runs
import Mathlib.Data.List.Forall2

/-!
# KeyNetra.Lib.Fallible — computations that may raise

Inversion lemmas for `Except`: what a computation that returned has done.

* `bind_eq_ok` / `seq_eq_ok` — a sequence returned, so both parts did;
* `forM_eq_ok_iff` — a loop of checks passed, so every check did;
* `mapM_eq_ok_iff` — a loop of conversions returned, so each element converted;
* `foldlM_inv` / `foldlM_returns` — a loop that accumulates;
* `thread` — a loop that carries a state along and stops at the first exception, which
  keeps it; `thread_invariant` is its induction rule, `thread_spec` relates it to the loop
  of conversions its steps stand for,
  `thread_alike` and `thread_related` to a loop over related states;
* `returns_iff_along` — the loop returns, step by step;
* `findM?_filter` — the first element that passes a fallible test, among fewer elements.
-/

namespace Lib

variable {ε α β : Type}

theorem bind_eq_ok {x : Except ε α} {f : α → Except ε β} {b : β} :
    (x >>= f) = .ok b ↔ ∃ a, x = .ok a ∧ f a = .ok b := by
  cases x with
  | error e => simp [bind, Except.bind]
  | ok a => simp [bind, Except.bind]

/-- A check followed by a computation. -/
theorem seq_eq_ok {x : Except ε Unit} {y : Except ε β} {b : β} :
    (do x; y) = .ok b ↔ x = .ok () ∧ y = .ok b := by
  rw [bind_eq_ok]
  constructor
  · rintro ⟨⟨⟩, hx, hy⟩
    exact ⟨hx, hy⟩
  · rintro ⟨hx, hy⟩
    exact ⟨(), hx, hy⟩

theorem isOk_iff {x : Except ε α} : x.isOk = true ↔ ∃ a, x = .ok a := by
  cases x with
  | error e => simp [Except.isOk, Except.toBool]
  | ok a => simp [Except.isOk, Except.toBool]

/-- A pair by its first component: the result of a computation that threads a state. -/
theorem eq_mk_snd {p : α × β} {a : α} (h : p.1 = a) : p = (a, p.2) := by
  rw [← h]

@[simp] theorem ok_bind (a : α) (f : α → Except ε β) : ((Except.ok a : Except ε α) >>= f) = f a :=
  rfl

@[simp] theorem error_bind (e : ε) (f : α → Except ε β) :
    ((Except.error e : Except ε α) >>= f) = .error e := rfl

/-- A loop of checks passes exactly when every check does. -/
theorem forM_eq_ok_iff {check : α → Except ε Unit} {xs : List α} :
    xs.forM check = .ok () ↔ ∀ x ∈ xs, check x = .ok () := by
  induction xs with
  | nil => simp [pure, Except.pure]
  | cons x xs ih =>
      rw [List.forM_eq_forM] at ih ⊢
      rw [List.forM_cons, seq_eq_ok, List.forall_mem_cons, ih]

/-- A loop of conversions returns exactly the list of converted elements. -/
theorem mapM_eq_ok_iff {f : α → Except ε β} {xs : List α} {ys : List β} :
    xs.mapM f = .ok ys ↔ List.Forall₂ (fun x y => f x = .ok y) xs ys := by
  induction xs generalizing ys with
  | nil => simp [pure, Except.pure, eq_comm, List.forall₂_nil_left_iff]
  | cons x xs ih =>
      rw [List.mapM_cons, bind_eq_ok]
      constructor
      · rintro ⟨y, hy, h⟩
        obtain ⟨zs, hzs, h⟩ := bind_eq_ok.mp h
        cases h
        exact .cons hy (ih.mp hzs)
      · rintro (_ | ⟨hy, h⟩)
        exact ⟨_, hy, bind_eq_ok.mpr ⟨_, ih.mpr h, rfl⟩⟩

/-- A loop of conversions none of which raises. -/
theorem mapM_ok_of_forall {f : α → Except ε β} {g : α → β} {xs : List α}
    (h : ∀ x ∈ xs, f x = .ok (g x)) : xs.mapM f = .ok (xs.map g) := by
  rw [mapM_eq_ok_iff]
  induction xs with
  | nil => exact .nil
  | cons x xs ih =>
      exact .cons (h x List.mem_cons_self) (ih fun y hy => h y (List.mem_cons_of_mem _ hy))

/-- A value that is mapped is there if and only if it was before. -/
theorem map_returns_iff {f : α → β} {x : Except ε α} :
    (∃ b, f <$> x = .ok b) ↔ ∃ a, x = .ok a := by
  cases x with
  | error e =>
      refine iff_of_false ?_ ?_
      · rintro ⟨b, hb⟩
        cases hb
      · rintro ⟨a, ha⟩
        cases ha
  | ok a => exact iff_of_true ⟨f a, rfl⟩ ⟨a, rfl⟩

/-- A conversion that never raises commutes with the loop. -/
theorem mapM_ok (f : α → β) (xs : List α) :
    (xs.mapM fun x => (.ok (f x) : Except ε β)) = .ok (xs.map f) :=
  mapM_ok_of_forall fun _ _ => rfl

/-- A loop of conversions one of which raises does not return. -/
theorem mapM_ne_ok {f : α → Except ε β} {xs : List α} {x : α} (hx : x ∈ xs) {e : ε}
    (he : f x = .error e) (ys : List β) : xs.mapM f ≠ .ok ys := by
  intro h
  have hall := mapM_eq_ok_iff.mp h
  clear h
  induction hall with
  | nil => cases hx
  | cons hxy _ ih =>
      rcases List.mem_cons.mp hx with rfl | hx
      · rw [he] at hxy
        cases hxy
      · exact ih hx

/-- What every step of an accumulating loop keeps, the loop keeps. -/
theorem foldlM_inv {f : β → α → Except ε β} {inv : β → Prop} {xs : List α} {b r : β}
    (hstep : ∀ b x b', x ∈ xs → inv b → f b x = .ok b' → inv b') (hb : inv b)
    (h : xs.foldlM f b = .ok r) : inv r := by
  induction xs generalizing b with
  | nil =>
      cases h
      exact hb
  | cons x xs ih =>
      rw [List.foldlM_cons, bind_eq_ok] at h
      rcases h with ⟨b', hx, hrest⟩
      refine ih ?_ (hstep b x b' List.mem_cons_self hb hx) hrest
      intro b x b' hmem
      exact hstep b x b' (List.mem_cons_of_mem _ hmem)

/-- An accumulating loop no step of which raises returns. -/
theorem foldlM_returns {f : β → α → Except ε β} {xs : List α}
    (hstep : ∀ b, ∀ x ∈ xs, ∃ b', f b x = .ok b') (b : β) : ∃ r, xs.foldlM f b = .ok r := by
  induction xs generalizing b with
  | nil => exact ⟨b, rfl⟩
  | cons x xs ih =>
      rcases hstep b x List.mem_cons_self with ⟨b', hx⟩
      rw [List.foldlM_cons, hx, ok_bind]
      apply ih
      intro b x hmem
      exact hstep b x (List.mem_cons_of_mem _ hmem)

/-! ## Loops that carry a state -/

variable {σ τ γ : Type}

/-- The loop: the results in order, or the first exception, and the state reached. -/
def thread (step : σ → α → Except ε β × σ) (s : σ) : List α → Except ε (List β) × σ
  | [] => (.ok [], s)
  | x :: xs =>
      match step s x with
      | (.error e, s) => (.error e, s)
      | (.ok y, s) =>
          match thread step s xs with
          | (.error e, s) => (.error e, s)
          | (.ok ys, s) => (.ok (y :: ys), s)

/-- What each step keeps, the loop keeps. -/
theorem thread_invariant {step : σ → α → Except ε β × σ} {inv : σ → Prop} {xs : List α}
    (hstep : ∀ s x, inv s → x ∈ xs → inv (step s x).2) {s : σ} (hs : inv s) :
    inv (thread step s xs).2 := by
  induction xs generalizing s with
  | nil => exact hs
  | cons x xs ih =>
      have hx := hstep s x hs List.mem_cons_self
      rcases hresult : step s x with ⟨result, s'⟩
      rw [hresult] at hx
      rw [thread, hresult]
      cases result with
      | error e => exact hx
      | ok y =>
          have htail := ih (fun s x hs hx => hstep s x hs (List.mem_cons_of_mem _ hx)) hx
          rcases hloop : thread step s' xs with ⟨results, s''⟩
          rw [hloop] at htail
          dsimp only
          rw [hloop]
          cases results with
          | error e => exact htail
          | ok ys => exact htail

/-- When each step keeps the invariant and answers as `spec` does, as far as `f` tells, so
does the loop. -/
theorem thread_spec {step : σ → α → Except ε β × σ} {inv : σ → Prop} {f : β → γ}
    {spec : α → Except ε γ} {xs : List α}
    (hstep : ∀ s x, inv s → x ∈ xs → inv (step s x).2 ∧ (step s x).1.map f = spec x)
    {s : σ} (hs : inv s) :
    inv (thread step s xs).2 ∧ (thread step s xs).1.map (List.map f) = xs.mapM spec := by
  induction xs generalizing s with
  | nil => exact ⟨hs, rfl⟩
  | cons x xs ih =>
      have hx := hstep s x hs List.mem_cons_self
      rcases hresult : step s x with ⟨result, s'⟩
      rw [hresult] at hx
      rw [thread, hresult, List.mapM_cons, ← hx.2]
      cases result with
      | error e => exact ⟨hx.1, rfl⟩
      | ok y =>
          have htail := ih (fun s x hs hx => hstep s x hs (List.mem_cons_of_mem _ hx)) hx.1
          rcases hloop : thread step s' xs with ⟨results, s''⟩
          rw [hloop] at htail
          dsimp only [Except.map]
          rw [← htail.2, hloop, ok_bind]
          cases results with
          | error e => exact ⟨htail.1, rfl⟩
          | ok ys => exact ⟨htail.1, rfl⟩

/-- Loops whose steps answer alike in related states, and keep them related, answer alike. -/
theorem thread_alike {step : σ → α → Except ε β × σ} {step' : τ → α → Except ε β × τ}
    {related : σ → τ → Prop}
    (hstep : ∀ s t x, related s t →
      (step' t x).1 = (step s x).1 ∧ related (step s x).2 (step' t x).2)
    {s : σ} {t : τ} (hs : related s t) (xs : List α) :
    (thread step' t xs).1 = (thread step s xs).1 ∧
      related (thread step s xs).2 (thread step' t xs).2 := by
  induction xs generalizing s t with
  | nil => exact ⟨rfl, hs⟩
  | cons x xs ih =>
      have hx := hstep s t x hs
      rcases hresult : step s x with ⟨result, u⟩
      rcases hresult' : step' t x with ⟨result', u'⟩
      rw [hresult, hresult'] at hx
      rcases hx with ⟨hsame, hu⟩
      dsimp only at hsame hu
      rw [thread, thread, hresult, hresult', hsame]
      rcases result with e | y
      · exact ⟨rfl, hu⟩
      · -- the first step is alike, and the rest from related states
        have htail := ih hu
        dsimp only
        rcases hloop : thread step u xs with ⟨results, v⟩
        rcases hloop' : thread step' u' xs with ⟨results', v'⟩
        rw [hloop, hloop'] at htail
        rcases htail with ⟨hrest, hv⟩
        dsimp only at hrest hv
        rw [hrest]
        rcases results with e | ys
        · exact ⟨rfl, hv⟩
        · exact ⟨rfl, hv⟩

/-- No step of the loop raises. -/
def Returns (step : σ → α → Except ε β × σ) : σ → List α → Prop
  | _, [] => True
  | s, x :: xs => (∃ y, (step s x).1 = .ok y) ∧ Returns step (step s x).2 xs

theorem thread_returns_iff {step : σ → α → Except ε β × σ} {s : σ} {xs : List α} :
    (∃ ys, (thread step s xs).1 = .ok ys) ↔ Returns step s xs := by
  induction xs generalizing s with
  | nil => exact ⟨fun _ => trivial, fun _ => ⟨[], rfl⟩⟩
  | cons x xs ih =>
      rw [thread, Returns]
      rcases step s x with ⟨e | y, u⟩
      · constructor
        · rintro ⟨ys, hys⟩
          cases hys
        · rintro ⟨⟨y, hy⟩, -⟩
          cases hy
      · dsimp only
        rw [← ih]
        rcases thread step u xs with ⟨e | ys, v⟩
        · constructor
          · rintro ⟨ys, hys⟩
            cases hys
          · rintro ⟨-, ys, hys⟩
            cases hys
        · exact ⟨fun _ => ⟨⟨y, rfl⟩, ys, rfl⟩, fun _ => ⟨y :: ys, rfl⟩⟩

/-- That no step of the loop raises, as a property along its run. -/
theorem returns_iff_along {step : σ → α → Except ε β × σ} {s : σ} {xs : List α} :
    Returns step s xs ↔
      Along (fun s x => (step s x).2) (fun s x => ∃ y, (step s x).1 = .ok y) s xs := by
  induction xs generalizing s with
  | nil => exact Iff.rfl
  | cons x xs ih => exact and_congr_right fun _ => ih

/-- A loop that returns has returned from each of its starts. -/
theorem Returns.take {step : σ → α → Except ε β × σ} {s : σ} {xs : List α}
    (h : Returns step s xs) (n : ℕ) : Returns step s (xs.take n) := by
  rw [returns_iff_along] at h ⊢
  rw [← List.take_append_drop n xs, along_append] at h
  exact h.1

/-- One result for each element. -/
theorem length_of_thread {step : σ → α → Except ε β × σ} {s : σ} {xs : List α} {ys : List β}
    (h : (thread step s xs).1 = .ok ys) : ys.length = xs.length := by
  induction xs generalizing s ys with
  | nil =>
      cases h
      rfl
  | cons x xs ih =>
      rw [thread] at h
      rcases hresult : step s x with ⟨e | y, u⟩
      · rw [hresult] at h
        cases h
      · rw [hresult] at h
        dsimp only at h
        rcases hloop : thread step u xs with ⟨e | rest, v⟩
        · rw [hloop] at h
          cases h
        · rw [hloop] at h
          have hrest := ih (congrArg Prod.fst hloop)
          rw [← Except.ok.inj h, List.length_cons, List.length_cons, hrest]

/-- When each step of one loop that returns is matched by a step of another, the other loop
returns, and the results agree place by place. -/
theorem thread_related {step : σ → α → Except ε β × σ} {step' : τ → α → Except ε γ × τ}
    {related : σ → τ → Prop} {agree : α → β → γ → Prop} {xs : List α}
    (hstep : ∀ s t x y, x ∈ xs → related s t → (step s x).1 = .ok y →
      ∃ y', (step' t x).1 = .ok y' ∧ agree x y y' ∧ related (step s x).2 (step' t x).2)
    {s : σ} {t : τ} (hs : related s t) {ys : List β} (h : (thread step s xs).1 = .ok ys) :
    ∃ ys' : List γ, (thread step' t xs).1 = .ok ys' ∧ ∀ (k : ℕ) x y, xs[k]? = some x → ys[k]? = some y →
      ∃ y', ys'[k]? = some y' ∧ agree x y y' := by
  induction xs generalizing s t ys with
  | nil =>
      refine ⟨[], rfl, ?_⟩
      intro k x y hx hy
      cases hx
  | cons x xs ih =>
      rw [thread] at h
      have hmatched := hstep s t x
      rcases hresult : step s x with ⟨e | y, u⟩
      · rw [hresult] at h
        cases h
      · rw [hresult] at h hmatched
        dsimp only at h hmatched
        rcases hloop : thread step u xs with ⟨e | rest, v⟩
        · rw [hloop] at h
          cases h
        · rw [hloop] at h
          -- the second loop keeps up by one step, and then by the rest
          rcases hmatched y List.mem_cons_self hs rfl with ⟨y', hy', hagree, hnext⟩
          have htail := ih (fun s t x y hx => hstep s t x y (List.mem_cons_of_mem _ hx)) hnext
            (congrArg Prod.fst hloop)
          rcases htail with ⟨rest', hrest', hagrees⟩
          rcases hresult' : step' t x with ⟨result', u'⟩
          rw [hresult'] at hy' hrest'
          dsimp only at hy' hrest'
          rcases hloop' : thread step' u' xs with ⟨results', v'⟩
          rw [hloop'] at hrest'
          dsimp only at hrest'
          refine ⟨y' :: rest', ?_, ?_⟩
          · rw [thread, hresult', hy']
            dsimp only
            rw [hloop', hrest']
          · intro k x' z hx' hz
            rw [← Except.ok.inj h] at hz
            cases k with
            | zero =>
                rw [List.getElem?_cons_zero] at hx' hz
                rw [← Option.some.inj hx', ← Option.some.inj hz]
                exact ⟨y', rfl, hagree⟩
            | succ k => exact hagrees k x' z hx' hz

/-! ## The first element that passes a test -/

section First

variable {ρ δ : Type} {test : ρ → Except ε Bool} {kept : ρ → Bool} {xs : List ρ}

theorem findM?_raised {x : ρ} {e : ε} (h : test x = .error e) :
    (x :: xs).findM? test = .error e := by
  rw [List.findM?, h, error_bind]

theorem findM?_passed {x : ρ} (h : test x = .ok true) :
    (x :: xs).findM? test = .ok (some x) := by
  rw [List.findM?, h, ok_bind]
  rfl

theorem findM?_failed {x : ρ} (h : test x = .ok false) :
    (x :: xs).findM? test = xs.findM? test := by
  rw [List.findM?, h, ok_bind]

theorem mem_of_findM? {x : ρ} (h : xs.findM? test = .ok (some x)) : x ∈ xs := by
  induction xs with
  | nil => cases h
  | cons y ys ih =>
      rcases htest : test y with e | passed
      · rw [findM?_raised htest] at h
        cases h
      · cases passed with
        | true =>
            rw [findM?_passed htest] at h
            cases h
            exact List.mem_cons_self
        | false =>
            rw [findM?_failed htest] at h
            exact List.mem_cons_of_mem _ (ih h)

/-- An element that is found and kept is found among the kept elements; where none is found,
none is found among these. -/
theorem findM?_filter {found : Option ρ} (h : xs.findM? test = .ok found)
    (hkept : ∀ x, found = some x → kept x = true) :
    (xs.filter kept).findM? test = .ok found := by
  induction xs with
  | nil => exact h
  | cons x xs ih =>
      -- nothing raises before the element that passes
      rcases htest : test x with e | passed
      · rw [findM?_raised htest] at h
        cases h
      · cases passed with
        -- which is kept, as it is the one found
        | true =>
            rw [findM?_passed htest] at h
            have hx : kept x = true := hkept x (Except.ok.inj h).symm
            rw [List.filter_cons_of_pos hx, findM?_passed htest]
            exact h
        -- what fails may be filtered out or not
        | false =>
            rw [findM?_failed htest] at h
            cases hx : kept x with
            | true =>
                rw [List.filter_cons_of_pos hx, findM?_failed htest]
                exact ih h
            | false =>
                rw [List.filter_cons_of_neg (by simp [hx])]
                exact ih h

/-- An exception that ends the search ends it among the kept elements too, when the test returns on
the others. -/
theorem findM?_filter_raised {e : ε} (h : xs.findM? test = .error e)
    (hquiet : ∀ x ∈ xs, kept x = false → ∃ passed, test x = .ok passed) :
    (xs.filter kept).findM? test = .error e := by
  induction xs with
  | nil => cases h
  | cons x xs ih =>
      have hquiet' : ∀ y ∈ xs, kept y = false → ∃ passed, test y = .ok passed := by
        intro y hy
        exact hquiet y (List.mem_cons_of_mem _ hy)
      rcases htest : test x with e' | passed
      · rw [findM?_raised htest] at h
        -- the test raises on this element, so it is kept
        have hx : kept x = true := by
          rw [← Bool.not_eq_false]
          intro hdropped
          rcases hquiet x List.mem_cons_self hdropped with ⟨passed, hpassed⟩
          rw [htest] at hpassed
          cases hpassed
        rw [List.filter_cons_of_pos hx, findM?_raised htest]
        exact h
      · cases passed with
        | true =>
            rw [findM?_passed htest] at h
            cases h
        | false =>
            rw [findM?_failed htest] at h
            cases hx : kept x with
            | true =>
                rw [List.filter_cons_of_pos hx, findM?_failed htest]
                exact ih h hquiet'
            | false =>
                rw [List.filter_cons_of_neg (by simp [hx])]
                exact ih h hquiet'

/-- The search in a mapped list. -/
theorem findM?_map (f : δ → ρ) (ys : List δ) :
    (ys.map f).findM? test = (ys.findM? fun y => test (f y)).map (Option.map f) := by
  induction ys with
  | nil => rfl
  | cons y ys ih =>
      rw [List.map_cons]
      rcases htest : test (f y) with e | passed
      · rw [findM?_raised htest, @findM?_raised _ _ (fun y => test (f y)) _ _ _ htest]
        rfl
      · cases passed with
        | true =>
            rw [findM?_passed htest, @findM?_passed _ _ (fun y => test (f y)) _ _ htest]
            rfl
        | false =>
            rw [findM?_failed htest, @findM?_failed _ _ (fun y => test (f y)) _ _ htest]
            exact ih

end First

end Lib
