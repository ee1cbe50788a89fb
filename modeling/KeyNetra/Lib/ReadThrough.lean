import Mathlib.Data.Set.Function

/-!
# KeyNetra.Lib.ReadThrough — read-through caches over a keyed store

A read-through cache answers a lookup `i` from the cell under `key i`, and
fills that cell from the source when it is empty. The key of a lookup may move
(a namespace counter was bumped) and so may the source.

* `Coherent live cells key truth` — whatever a live lookup can hit is what the
  source holds for it;
* `Coherent.lookup` — then a lookup answers the truth, hit or miss;
* `Coherent.fill` — filling a cell keeps coherence when the value is the truth of
  every live lookup with that key;
* `Coherent.move` — a write keeps coherence when every live lookup it affects
  has an empty cell under its key afterwards.
-/

namespace Lib

variable {ι κ ν : Type}

/-- What a live lookup can hit is what the source holds for it. -/
def Coherent (live : Set ι) (cells : κ → Option ν) (key : ι → κ) (truth : ι → ν) : Prop :=
  ∀ i ∈ live, ∀ v, cells (key i) = some v → v = truth i

variable {live : Set ι} {cells cells' : κ → Option ν} {key key' : ι → κ} {truth truth' : ι → ν}

/-- The empty store is coherent. -/
theorem coherent_of_empty (h : ∀ i ∈ live, cells (key i) = none) :
    Coherent live cells key truth := by
  intro i hi v hv
  rw [h i hi] at hv
  cases hv

/-- A lookup answers the truth, whether it hits or misses. -/
theorem Coherent.lookup (h : Coherent live cells key truth) {i : ι} (hi : i ∈ live) :
    (cells (key i)).getD (truth i) = truth i := by
  cases hv : cells (key i) with
  | none => rfl
  | some v => exact h i hi v hv

/-- Coherence only depends on the cells the live lookups read. -/
theorem Coherent.frame (h : Coherent live cells key truth)
    (hcells : ∀ i ∈ live, cells' (key' i) = cells (key i))
    (htruth : ∀ i ∈ live, truth' i = truth i) : Coherent live cells' key' truth' := by
  intro i hi v hv
  rw [hcells i hi] at hv
  rw [htruth i hi]
  exact h i hi v hv

/-- Filling a cell keeps coherence when the value is the truth of every live
lookup with that key. -/
theorem Coherent.fill (h : Coherent live cells key truth) {k : κ} {v : ν}
    (hfill : cells' k = some v) (hrest : ∀ k', k' ≠ k → cells' k' = cells k')
    (htruth : ∀ i ∈ live, key i = k → v = truth i) : Coherent live cells' key truth := by
  intro i hi w hw
  by_cases hk : key i = k
  · rw [hk, hfill] at hw
    rw [← Option.some.inj hw]
    exact htruth i hi hk
  · rw [hrest _ hk] at hw
    exact h i hi w hw

/-- A write keeps coherence when every live lookup is either unaffected or has
an empty cell under its key afterwards. -/
theorem Coherent.move (h : Coherent live cells key truth)
    (hmove : ∀ i ∈ live,
      (cells' (key' i) = cells (key i) ∧ truth' i = truth i) ∨ cells' (key' i) = none) :
    Coherent live cells' key' truth' := by
  intro i hi v hv
  rcases hmove i hi with ⟨hcell, htruth⟩ | hempty
  · rw [hcell] at hv
    rw [htruth]
    exact h i hi v hv
  · rw [hempty] at hv
    cases hv

end Lib
