import Mathlib.Data.Set.Basic

/-!
# KeyNetra.Lib.Footprint — what a result is read from

A state is read through its places. A result that reads no place outside a footprint is the same
for two states that agree on it.

* `AgreeOn` — two states with the same values at the places of a footprint;
* `Within` — a result that reads within a footprint;
* `Within.bind` / `Within.exceptBind` — one computation after another reads what both read.
-/

namespace Lib

section Footprint

variable {σ ι α β γ ε : Type} (read : σ → ι → α)

/-- The states have the same values on the footprint. -/
def AgreeOn (footprint : Set ι) (s s' : σ) : Prop := ∀ i ∈ footprint, read s i = read s' i

/-- The result reads within the footprint. -/
def Within (footprint : Set ι) (f : σ → β) : Prop :=
  ∀ s s', AgreeOn read footprint s s' → f s = f s'

variable {read} {footprint larger : Set ι}

theorem AgreeOn.mono {s s' : σ} (h : AgreeOn read larger s s') (hle : footprint ⊆ larger) :
    AgreeOn read footprint s s' :=
  fun i hi => h i (hle hi)

namespace Within

theorem const (footprint : Set ι) (b : β) : Within read footprint fun _ : σ => b :=
  fun _ _ _ => rfl

/-- What goes on from a result reads within the footprint if the result does. -/
theorem bind {f : σ → β} {g : β → σ → γ} (hf : Within read footprint f)
    (hg : ∀ b, Within read footprint (g b)) : Within read footprint fun s => g (f s) s := by
  intro s s' hagree
  have hfirst : f s = f s' := hf s s' hagree
  have hthen : g (f s') s = g (f s') s' := hg (f s') s s' hagree
  dsimp only
  rw [hfirst, hthen]

/-- The same for a result that may be an error. -/
theorem exceptBind {f : σ → Except ε β} {g : β → σ → Except ε γ} (hf : Within read footprint f)
    (hg : ∀ b, Within read footprint (g b)) :
    Within read footprint fun s => f s >>= fun b => g b s := by
  apply hf.bind (g := fun result s => result >>= fun b => g b s)
  intro result
  cases result with
  | error e => exact const footprint (Except.error e)
  | ok b => exact hg b

end Within

end Footprint

end Lib
