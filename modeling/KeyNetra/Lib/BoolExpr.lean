import Mathlib.Order.WellFoundedSet

/-!
# KeyNetra.Lib.BoolExpr — Boolean expressions over defined names

Boolean expressions over names, where a name is either a *base* name, whose
value is given, or a *defined* name, whose value is that of its body.

* `DependsOnlyOn e S` — the value of `e` is a function of the names in `S`;
* `Definitions.Acyclic` — no defined name refers to itself through bodies;
* `Definitions.reading` — the value of every name under a valuation of the
  base names, by recursion along the references; `reading_eq` is its equation.
-/

namespace Lib

variable {ν : Type}

/-- A Boolean expression over names. -/
inductive BoolExpr (ν : Type) where
  | var (x : ν)
  | not (e : BoolExpr ν)
  | and (l r : BoolExpr ν)
  | or (l r : BoolExpr ν)

namespace BoolExpr

/-- The names of an expression. -/
def vars : BoolExpr ν → Set ν
  | var x => {x}
  | not e => e.vars
  | and l r => l.vars ∪ r.vars
  | or l r => l.vars ∪ r.vars

/-- The value of an expression when each of its names has a value. -/
def evalOn : (e : BoolExpr ν) → ((x : ν) → x ∈ e.vars → Bool) → Bool
  | var x, v => v x rfl
  | not e, v => !e.evalOn v
  | and l r, v => l.evalOn (fun x h => v x (Or.inl h)) && r.evalOn (fun x h => v x (Or.inr h))
  | or l r, v => l.evalOn (fun x h => v x (Or.inl h)) || r.evalOn (fun x h => v x (Or.inr h))

/-- The value of an expression under a valuation of all names. -/
def eval (v : ν → Bool) : BoolExpr ν → Bool
  | var x => v x
  | not e => !e.eval v
  | and l r => l.eval v && r.eval v
  | or l r => l.eval v || r.eval v

theorem evalOn_eq_eval (v : ν → Bool) (e : BoolExpr ν) :
    e.evalOn (fun x _ => v x) = e.eval v := by
  induction e with
  | var x => rfl
  | not e ih => exact congrArg Bool.not ih
  | and l r ihl ihr => simp [evalOn, eval, ihl, ihr]
  | or l r ihl ihr => simp [evalOn, eval, ihl, ihr]

/-- Valuations that agree on the names of an expression give it the same value. -/
theorem eval_congr {v w : ν → Bool} {e : BoolExpr ν} (h : ∀ x ∈ e.vars, v x = w x) :
    e.eval v = e.eval w := by
  induction e with
  | var x => exact h x rfl
  | not e ih => simp only [eval, ih h]
  | and l r ihl ihr =>
      simp only [eval, ihl fun x hx => h x (Or.inl hx), ihr fun x hx => h x (Or.inr hx)]
  | or l r ihl ihr =>
      simp only [eval, ihl fun x hx => h x (Or.inl hx), ihr fun x hx => h x (Or.inr hx)]

/-- The value of the expression is determined by the names in `S`. -/
def DependsOnlyOn (e : BoolExpr ν) (S : Set ν) : Prop :=
  ∀ v w : ν → Bool, (∀ x ∈ S, v x = w x) → e.eval v = e.eval w

/-- An expression all of whose names are in `S` depends only on `S`. -/
theorem dependsOnlyOn_of_vars_subset {e : BoolExpr ν} {S : Set ν} (h : e.vars ⊆ S) :
    e.DependsOnlyOn S := by
  intro v w hvw
  exact eval_congr fun x hx => hvw x (h hx)

end BoolExpr

/-! ## Definitions -/

/-- A set of base names, and bodies for the defined names. -/
structure Definitions (ν : Type) where
  base : Set ν
  body : ν → Option (BoolExpr ν)

namespace Definitions

variable (D : Definitions ν)

/-- The body of `x` mentions the defined, non-base name `y`. -/
def Refers (x y : ν) : Prop :=
  ∃ e, D.body x = some e ∧ y ∈ e.vars ∧ y ∉ D.base ∧ (D.body y).isSome

/-- No name refers to itself through bodies. -/
def Acyclic : Prop := ∀ x, ¬ Relation.TransGen D.Refers x x

/-- References that lower a rank form no cycle. -/
theorem acyclic_of_rank (rank : ν → Nat) (h : ∀ x y, D.Refers x y → rank y < rank x) :
    D.Acyclic := by
  have hpath : ∀ x y, Relation.TransGen D.Refers x y → rank y < rank x := by
    intro x y hxy
    induction hxy with
    | single hstep => exact h _ _ hstep
    | tail _ hstep ih => exact (h _ _ hstep).trans ih
  intro x hx
  exact Nat.lt_irrefl _ (hpath x x hx)

/-- Acyclic references among finitely many defined names are well-founded. -/
theorem wellFounded_refers (hfin : {x | (D.body x).isSome}.Finite) (hac : D.Acyclic) :
    WellFounded fun y x => D.Refers x y := by
  let R : ν → ν → Prop := fun y x => Relation.TransGen D.Refers x y
  have : IsStrictOrder ν R :=
    { irrefl := hac
      trans := fun _ _ _ hab hbc => hbc.trans hab }
  have hon : {x | (D.body x).isSome}.WellFoundedOn R := hfin.wellFoundedOn
  have hsub : Subrelation (fun y x => D.Refers x y) fun y x =>
      R y x ∧ y ∈ {x | (D.body x).isSome} ∧ x ∈ {x | (D.body x).isSome} := by
    intro y x h
    obtain ⟨e, he, hy⟩ := h
    exact ⟨.single ⟨e, he, hy⟩, hy.2.2, by simp [he]⟩
  exact hsub.wf (Set.wellFoundedOn_iff.mp hon)

open Classical in
/-- The value of every name: a base name has its given value, a defined name
the value of its body, any other name is false. -/
noncomputable def reading (hwf : WellFounded fun y x => D.Refers x y) (v : ν → Bool) : ν → Bool :=
  hwf.fix fun x ih =>
    match hx : D.body x with
    | none => false
    | some e => e.evalOn fun y hy =>
        if hb : y ∈ D.base then v y
        else if hd : (D.body y).isSome then ih y ⟨e, hx, hy, hb, hd⟩ else false

open Classical in
/-- What an identifier stands for inside a body. -/
noncomputable def identifier (hwf : WellFounded fun y x => D.Refers x y) (v : ν → Bool)
    (y : ν) : Bool :=
  if y ∈ D.base then v y
  else if (D.body y).isSome then D.reading hwf v y else false

variable {D} {hwf : WellFounded fun y x => D.Refers x y} {v w : ν → Bool}

/-- The value of a defined name is the value of its body, identifiers standing
for base values or for the values of the names they refer to. -/
theorem reading_eq {x : ν} {e : BoolExpr ν} (hx : D.body x = some e) :
    D.reading hwf v x = e.eval (D.identifier hwf v) := by
  unfold reading
  rw [hwf.fix_eq]
  split
  · rename_i h
    rw [h] at hx
    cases hx
  · rename_i e' h
    obtain rfl : e' = e := by
      rw [h] at hx
      exact Option.some.inj hx
    rw [← BoolExpr.evalOn_eq_eval]
    rfl

theorem identifier_base {x : ν} (hx : x ∈ D.base) : D.identifier hwf v x = v x := by
  simp [identifier, hx]

theorem identifier_defined {x : ν} (hx : x ∉ D.base) (hd : (D.body x).isSome) :
    D.identifier hwf v x = D.reading hwf v x := by
  simp [identifier, hx, hd]

theorem identifier_free {x : ν} (hx : x ∉ D.base) (hd : (D.body x).isSome = false) :
    D.identifier hwf v x = false := by
  simp [identifier, hx, hd]

/-- The reading is a function of the base names' values. -/
theorem reading_congr (h : ∀ x ∈ D.base, v x = w x) (x : ν) :
    D.reading hwf v x = D.reading hwf w x := by
  induction x using hwf.induction with
  | _ x ih =>
      cases hx : D.body x with
      | none =>
          unfold reading
          rw [hwf.fix_eq, hwf.fix_eq]
          split
          · rfl
          · rename_i e h'
            rw [hx] at h'
            cases h'
      | some e =>
          rw [reading_eq hx, reading_eq hx]
          refine BoolExpr.eval_congr fun y hy => ?_
          by_cases hb : y ∈ D.base
          · rw [identifier_base hb, identifier_base hb, h y hb]
          · cases hd : (D.body y).isSome with
            | true =>
                rw [identifier_defined hb hd, identifier_defined hb hd]
                exact ih y ⟨e, hx, hy, hb, hd⟩
            | false => rw [identifier_free hb hd, identifier_free hb hd]

end Definitions

end Lib
