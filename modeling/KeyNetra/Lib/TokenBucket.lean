import KeyNetra.Lib.Mealy
import Mathlib.Algebra.Order.Field.Basic
import Mathlib.Algebra.Order.Floor.Ring
import Mathlib.Tactic.FieldSimp
import Mathlib.Tactic.Linarith
import Mathlib.Tactic.Ring

/-!
# KeyNetra.Lib.TokenBucket — token buckets over an ordered field

A bucket gains `rate` tokens in a unit of time, up to its capacity, and a request takes one token or
is refused.

* `Bucket.Within` — between no tokens and the capacity, kept by every request;
* `admitted_le` — what a run admits, against the time it was credited with (`forwardTime`);
* `Bucket.level` — the bucket at time zero, had it never been capped: refused requests keep it;
* `admitted_iff` — a request is admitted once the level has risen by a token.
-/

namespace Lib

variable {α : Type} [Field α] [LinearOrder α] [IsStrictOrderedRing α]

/-- The tokens of a bucket, as of a time. -/
structure Bucket (α : Type) where
  tokens : α
  updatedAt : α

/-- The bucket at a time; it gains nothing where the time is an earlier one. -/
def Bucket.refilled (rate capacity : α) (b : Bucket α) (now : α) : Bucket α :=
  ⟨min capacity (b.tokens + max 0 (now - b.updatedAt) * rate), now⟩

/-- A token is taken, if there is one. -/
def Bucket.take (b : Bucket α) : Bool × Bucket α :=
  if 1 ≤ b.tokens then (true, { b with tokens := b.tokens - 1 }) else (false, b)

/-- A request at a time. -/
def Bucket.request (rate capacity : α) (b : Bucket α) (now : α) : Bool × Bucket α :=
  (b.refilled rate capacity now).take

variable {rate capacity : α} {b : Bucket α} {now : α}

/-! ## Tokens stay within the capacity -/

/-- Between no tokens and the capacity. -/
def Bucket.Within (capacity : α) (b : Bucket α) : Prop := 0 ≤ b.tokens ∧ b.tokens ≤ capacity

theorem Bucket.Within.refilled (hrate : 0 ≤ rate) (h : b.Within capacity) (now : α) :
    (b.refilled rate capacity now).Within capacity := by
  have hgain : 0 ≤ max 0 (now - b.updatedAt) * rate :=
    mul_nonneg (le_max_left _ _) hrate
  constructor
  · show 0 ≤ min capacity (b.tokens + max 0 (now - b.updatedAt) * rate)
    apply le_min
    · exact le_trans h.1 h.2
    · exact add_nonneg h.1 hgain
  · exact min_le_left _ _

theorem Bucket.Within.take (h : b.Within capacity) : b.take.2.Within capacity := by
  unfold Bucket.take
  by_cases htoken : 1 ≤ b.tokens
  · rw [if_pos htoken]
    constructor
    · show 0 ≤ b.tokens - 1
      exact sub_nonneg.mpr htoken
    · show b.tokens - 1 ≤ capacity
      exact le_trans (sub_le_self _ zero_le_one) h.2
  · rw [if_neg htoken]
    exact h

theorem Bucket.Within.request (hrate : 0 ≤ rate) (h : b.Within capacity) (now : α) :
    (b.request rate capacity now).2.Within capacity :=
  (h.refilled hrate now).take

omit [IsStrictOrderedRing α] in
@[simp] theorem request_updatedAt (rate capacity : α) (b : Bucket α) (now : α) :
    (b.request rate capacity now).2.updatedAt = now := by
  unfold Bucket.request Bucket.take
  split <;> rfl

/-! ## What a run admits -/

/-- The time that the steps forward of a run add up to, from a time on. -/
def forwardTime : α → List α → α
  | _, [] => 0
  | last, now :: times => max 0 (now - last) + forwardTime now times

/-- The length of the time that a run covers. -/
def timeSpan (first : α) (times : List α) : α := times.foldr max first - times.foldr min first

/-- A request pays for itself: the potential is the tokens of the bucket. -/
theorem request_pays (rate capacity : α) (b : Bucket α) (now : α) :
    (if (b.request rate capacity now).1 then 1 else 0) + (b.request rate capacity now).2.tokens ≤
      b.tokens + max 0 (now - b.updatedAt) * rate := by
  have hrefilled : (b.refilled rate capacity now).tokens ≤
      b.tokens + max 0 (now - b.updatedAt) * rate := min_le_right _ _
  unfold Bucket.request Bucket.take
  by_cases htoken : 1 ≤ (b.refilled rate capacity now).tokens
  · rw [if_pos htoken]
    show 1 + ((b.refilled rate capacity now).tokens - 1) ≤ _
    linarith
  · rw [if_neg htoken]
    show 0 + (b.refilled rate capacity now).tokens ≤ _
    linarith

/-- The requests admitted, and the tokens left, are the tokens at first and those credited since. -/
theorem admitted_le (rate capacity : α) (b : Bucket α) (times : List α) :
    ((answers (Bucket.request rate capacity) b times).count true : α) +
        (after (Bucket.request rate capacity) b times).tokens ≤
      b.tokens + forwardTime b.updatedAt times * rate := by
  induction times generalizing b with
  | nil => simp [answers, after, forwardTime]
  | cons now times ih =>
      have hpays := request_pays rate capacity b now
      have hrest := ih (b.request rate capacity now).2
      rw [request_updatedAt] at hrest
      rw [answers, after, List.count_cons, forwardTime, Nat.cast_add]
      cases hanswer : (b.request rate capacity now).1 with
      | true =>
          rw [hanswer] at hpays
          simp only [if_true, beq_self_eq_true, Nat.cast_one] at hpays ⊢
          linarith
      | false =>
          rw [hanswer] at hpays
          simp only [Bool.false_eq_true, if_false, beq_iff_eq, Nat.cast_zero] at hpays ⊢
          linarith

omit [Field α] [IsStrictOrderedRing α] in
theorem foldr_min_eq {least : α} {later : List α} (h : ∀ t ∈ later, least ≤ t) :
    later.foldr min least = least := by
  induction later with
  | nil => rfl
  | cons t later ih =>
      rw [List.foldr_cons, ih fun t ht => h t (List.mem_cons_of_mem _ ht)]
      exact min_eq_right (h t List.mem_cons_self)

omit [Field α] [IsStrictOrderedRing α] in
theorem foldr_max_start {first now : α} (hnow : first ≤ now) (later : List α) :
    later.foldr max now = max now (later.foldr max first) := by
  induction later with
  | nil => exact (max_eq_left hnow).symm
  | cons t later ih => rw [List.foldr_cons, List.foldr_cons, ih, max_left_comm]

/-- Where time only goes forward, no interval is credited twice. -/
theorem forwardTime_of_sorted {first : α} {times : List α}
    (h : (first :: times).Pairwise (· ≤ ·)) :
    forwardTime first times = timeSpan first times := by
  induction times generalizing first with
  | nil => simp [forwardTime, timeSpan]
  | cons now times ih =>
      have ⟨hfirst, hrest⟩ := List.pairwise_cons.mp h
      have hnow : first ≤ now := hfirst now List.mem_cons_self
      rw [forwardTime, ih hrest, max_eq_right (sub_nonneg.mpr hnow)]
      unfold timeSpan
      -- the first time is the least one, and the greatest is the same from either
      rw [foldr_min_eq (List.pairwise_cons.mp hrest).1, foldr_min_eq hfirst, List.foldr_cons,
        foldr_max_start hnow]
      ring

/-! ## When a refused request would be admitted -/

/-- The bucket at time zero, had it never been capped. -/
def Bucket.level (rate : α) (b : Bucket α) : α := b.tokens - b.updatedAt * rate

/-- A request is admitted once the level has risen by a token. -/
theorem admitted_iff (hcapacity : 1 ≤ capacity) (hnow : b.updatedAt ≤ now) :
    (b.request rate capacity now).1 = true ↔ 1 ≤ b.level rate + now * rate := by
  have htokens : b.tokens + max 0 (now - b.updatedAt) * rate = b.level rate + now * rate := by
    rw [max_eq_right (sub_nonneg.mpr hnow)]
    unfold Bucket.level
    ring
  unfold Bucket.request Bucket.take Bucket.refilled
  rw [htokens]
  by_cases htoken : 1 ≤ b.level rate + now * rate
  · rw [if_pos (le_min hcapacity htoken)]
    exact iff_of_true rfl htoken
  · rw [if_neg fun hboth => htoken (le_trans hboth (min_le_right _ _))]
    exact iff_of_false Bool.false_ne_true htoken

/-- A refused request keeps the level. -/
theorem refused_level (hcapacity : 1 ≤ capacity) (hnow : b.updatedAt ≤ now)
    (h : (b.request rate capacity now).1 = false) :
    (b.request rate capacity now).2.level rate = b.level rate := by
  have hlow : ¬ 1 ≤ b.level rate + now * rate := by
    rw [← admitted_iff hcapacity hnow, h]
    exact Bool.false_ne_true
  have htokens : b.tokens + max 0 (now - b.updatedAt) * rate = b.level rate + now * rate := by
    rw [max_eq_right (sub_nonneg.mpr hnow)]
    unfold Bucket.level
    ring
  have hbelow : b.level rate + now * rate ≤ capacity := le_trans (le_of_not_ge hlow) hcapacity
  unfold Bucket.request Bucket.take Bucket.refilled
  rw [htokens, min_eq_right hbelow, if_neg hlow]
  show b.level rate + now * rate - now * rate = b.level rate
  ring

/-- Refused requests keep the level, however many. -/
theorem refused_run_level (hcapacity : 1 ≤ capacity) {times : List α}
    (hsorted : (b.updatedAt :: times).Pairwise (· ≤ ·))
    (h : ∀ answer ∈ answers (Bucket.request rate capacity) b times, answer = false) :
    (after (Bucket.request rate capacity) b times).level rate = b.level rate := by
  induction times generalizing b with
  | nil => rfl
  | cons now times ih =>
      have ⟨hfirst, hrest⟩ := List.pairwise_cons.mp hsorted
      have hrefused := h _ List.mem_cons_self
      rw [after, ih]
      · exact refused_level hcapacity (hfirst now List.mem_cons_self) hrefused
      · rw [request_updatedAt]
        exact hrest
      · intro answer hanswer
        exact h answer (List.mem_cons_of_mem _ hanswer)

omit [IsStrictOrderedRing α] in
/-- A bucket is as of the last request. -/
theorem after_updatedAt_le {bound : α} {times : List α} (hb : b.updatedAt ≤ bound)
    (h : ∀ t ∈ times, t ≤ bound) :
    (after (Bucket.request rate capacity) b times).updatedAt ≤ bound := by
  induction times generalizing b with
  | nil => exact hb
  | cons now times ih =>
      rw [after]
      apply ih
      · rw [request_updatedAt]
        exact h now List.mem_cons_self
      · intro t ht
        exact h t (List.mem_cons_of_mem _ ht)

/-- The bucket is full again once it has had the time for its whole capacity. -/
theorem refilled_full (h : 0 ≤ b.tokens) (hlong : capacity ≤ (now - b.updatedAt) * rate)
    (hnow : b.updatedAt ≤ now) : b.refilled rate capacity now = ⟨capacity, now⟩ := by
  unfold Bucket.refilled
  rw [max_eq_right (sub_nonneg.mpr hnow), min_eq_left]
  linarith

omit [IsStrictOrderedRing α] in
/-- A full bucket stays full. -/
theorem refilled_of_full (hb : b.tokens = capacity) (hnow : b.updatedAt = now) :
    b.refilled rate capacity now = b := by
  unfold Bucket.refilled
  rw [hnow, sub_self, max_self, zero_mul, add_zero, hb, min_self, ← hb, ← hnow]

/-! ## Whole units of time -/

variable [FloorRing α]

/-- The whole units of time until a bucket below one token has one. -/
def Bucket.wait (rate : α) (b : Bucket α) : ℤ := ⌈(1 - b.tokens) / rate⌉

theorem wait_pos (hrate : 0 < rate) (h : b.tokens < 1) : 1 ≤ b.wait rate := by
  have hpos : 0 < (1 - b.tokens) / rate := div_pos (sub_pos.mpr h) hrate
  have hceil : 0 < b.wait rate := Int.ceil_pos.mpr hpos
  omega

/-- The wait is long enough. -/
theorem wait_enough (hrate : 0 < rate) : 1 ≤ b.tokens + b.wait rate * rate := by
  have hceil : (1 - b.tokens) / rate ≤ b.wait rate := Int.le_ceil _
  have hgain := (div_le_iff₀ hrate).mp hceil
  linarith

/-- And a unit less is not. -/
theorem wait_least (hrate : 0 < rate) : b.tokens + (b.wait rate - 1) * rate < 1 := by
  have hceil : (b.wait rate : α) - 1 < (1 - b.tokens) / rate := by
    have hlt : (b.wait rate : α) < (1 - b.tokens) / rate + 1 := Int.ceil_lt_add_one _
    linarith
  have hgain := (lt_div_iff₀ hrate).mp hceil
  linarith

end Lib
