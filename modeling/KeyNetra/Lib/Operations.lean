import KeyNetra.Lib.Fallible

/-!
# KeyNetra.Lib.Operations — computations whose operations may fail

A computation performs operations, each of which its surroundings may refuse with an
exception; apart from these it has a result of its own. `Performs fails x ops a` says that `x`
performs `ops` in this order, stops at the first that is refused, and returns `a`.

* `Performs.bind`, `Performs.and`, `performs_mapM`, `performs_filterM`, `performs_anyM` —
  sequences and loops;
* `Performs.returns_iff` — it returns exactly when no operation is refused;
* `Performs.eq` — what it then returns.
-/

namespace Lib

section Operations

variable {ε ω α β : Type} {fails : ω → Option ε}

/-- One operation: its result, or the exception it ends in. -/
def perform (fails : ω → Option ε) (op : ω) (a : α) : Except ε α :=
  match fails op with
  | some e => .error e
  | none => .ok a

/-- The operations in order, and then the result. -/
def performAll (fails : ω → Option ε) (ops : List ω) (a : α) : Except ε α :=
  match ops.findSome? fails with
  | some e => .error e
  | none => .ok a

def Performs (fails : ω → Option ε) (x : Except ε α) (ops : List ω) (a : α) : Prop :=
  x = performAll fails ops a

theorem performs_ok (a : α) : Performs fails (.ok a) [] a := rfl

theorem performs_perform (op : ω) (a : α) : Performs fails (perform fails op a) [op] a := by
  unfold Performs performAll perform
  rw [List.findSome?_cons]
  rcases fails op with _ | e
  · rfl
  · rfl

theorem Performs.bind {x : Except ε α} {f : α → Except ε β} {ops ops' : List ω} {a : α} {b : β}
    (hx : Performs fails x ops a) (hf : Performs fails (f a) ops' b) :
    Performs fails (x >>= f) (ops ++ ops') b := by
  unfold Performs performAll at hx hf ⊢
  rw [hx, List.findSome?_append]
  rcases ops.findSome? fails with _ | e
  · rw [ok_bind, hf, Option.none_or]
  · rfl

/-- A sequence whose last part performs nothing. -/
theorem Performs.map {x : Except ε α} {f : α → Except ε β} {ops : List ω} {a : α} {b : β}
    (hx : Performs fails x ops a) (hf : f a = .ok b) : Performs fails (x >>= f) ops b := by
  have hall := @Performs.bind _ _ _ _ _ _ f _ [] _ b hx (hf.trans (performs_ok b))
  rwa [List.append_nil] at hall

/-- The computation returns exactly when none of its operations is refused. -/
theorem Performs.returns_iff {x : Except ε α} {ops : List ω} {a : α} (h : Performs fails x ops a) :
    (∃ b, x = .ok b) ↔ ∀ op ∈ ops, fails op = none := by
  rw [← List.findSome?_eq_none_iff]
  unfold Performs performAll at h
  rw [h]
  rcases ops.findSome? fails with _ | e
  · exact ⟨fun _ => rfl, fun _ => ⟨a, rfl⟩⟩
  · constructor
    · rintro ⟨b, hb⟩
      cases hb
    · intro hnone
      cases hnone

/-- What it returns. -/
theorem Performs.eq {x : Except ε α} {ops : List ω} {a b : α} (h : Performs fails x ops a)
    (hx : x = .ok b) : b = a := by
  unfold Performs performAll at h
  rw [h] at hx
  rcases hfound : ops.findSome? fails with _ | e
  · rw [hfound] at hx
    exact (Except.ok.inj hx).symm
  · rw [hfound] at hx
    cases hx

/-- It returns its result when none of its operations is refused. -/
theorem Performs.eq_ok {x : Except ε α} {ops : List ω} {a : α} (h : Performs fails x ops a)
    (hall : ∀ op ∈ ops, fails op = none) : x = .ok a := by
  rcases h.returns_iff.mpr hall with ⟨b, hb⟩
  rw [hb, h.eq hb]

/-- `x and y`. -/
theorem Performs.and {x y : Except ε Bool} {ops ops' : List ω} {a b : Bool}
    (hx : Performs fails x ops a) (hy : Performs fails y ops' b) :
    Performs fails (x <&&> y) (ops ++ if a then ops' else []) (a && b) := by
  apply hx.bind
  rcases a with - | -
  · exact performs_ok false
  · exact hy

/-- `x or y`. -/
theorem Performs.or {x y : Except ε Bool} {ops ops' : List ω} {a b : Bool}
    (hx : Performs fails x ops a) (hy : Performs fails y ops' b) :
    Performs fails (x <||> y) (ops ++ if a then [] else ops') (a || b) := by
  apply hx.bind
  rcases a with - | -
  · exact hy
  · exact performs_ok true

/-! ## Loops -/

variable {ops : α → List ω} {f : α → Except ε β} {g : α → β} {test : α → Except ε Bool}
  {passes : α → Bool} {xs : List α}

/-- A loop of conversions. -/
theorem performs_mapM (h : ∀ x ∈ xs, Performs fails (f x) (ops x) (g x)) :
    Performs fails (xs.mapM f) (xs.flatMap ops) (xs.map g) := by
  induction xs with
  | nil => exact performs_ok []
  | cons x xs ih =>
      rw [List.mapM_cons, List.flatMap_cons, List.map_cons]
      apply (h x List.mem_cons_self).bind
      exact (ih fun y hy => h y (List.mem_cons_of_mem _ hy)).map rfl

/-- A loop that keeps the elements which pass a test. -/
theorem performs_filterM (h : ∀ x ∈ xs, Performs fails (test x) (ops x) (passes x)) :
    Performs fails (xs.filterM test) (xs.flatMap ops) (xs.filter passes) := by
  -- the loop collects in reverse what it has kept so far
  have haux : ∀ (xs kept : List α), (∀ x ∈ xs, Performs fails (test x) (ops x) (passes x)) →
      Performs fails (List.filterAuxM test xs kept) (xs.flatMap ops)
        ((xs.filter passes).reverse ++ kept) := by
    intro xs
    induction xs with
    | nil =>
        intro kept _
        exact performs_ok kept
    | cons x xs ih =>
        intro kept h
        rw [List.filterAuxM, List.flatMap_cons]
        apply (h x List.mem_cons_self).bind
        have htail := ih (cond (passes x) (x :: kept) kept)
          fun y hy => h y (List.mem_cons_of_mem _ hy)
        rcases hx : passes x with - | -
        · -- an element that fails is left out
          rw [hx] at htail
          rw [List.filter_cons_of_neg (by rw [hx]; exact Bool.false_ne_true)]
          exact htail
        · -- one that passes goes in front of those kept
          rw [hx] at htail
          rw [List.filter_cons_of_pos hx, List.reverse_cons, List.append_assoc]
          exact htail
  have hall := haux xs [] h
  rw [List.append_nil] at hall
  apply hall.map
  rw [List.reverse_reverse]
  rfl

/-- The operations of a search: those of the elements up to the first that passes. -/
def upTo (passes : α → Bool) (ops : α → List ω) : List α → List ω
  | [] => []
  | x :: xs => ops x ++ if passes x then [] else upTo passes ops xs

/-- A search for an element that passes a test. -/
theorem performs_anyM (h : ∀ x ∈ xs, Performs fails (test x) (ops x) (passes x)) :
    Performs fails (xs.anyM test) (upTo passes ops xs) (xs.any passes) := by
  induction xs with
  | nil => exact performs_ok false
  | cons x xs ih =>
      rw [List.anyM, upTo, List.any_cons]
      apply (h x List.mem_cons_self).bind
      rcases passes x with - | -
      · exact ih fun y hy => h y (List.mem_cons_of_mem _ hy)
      · exact performs_ok true

end Operations

end Lib
