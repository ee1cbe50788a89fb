import KeyNetra.Cache.Backend
import KeyNetra.Lib.Expiring
import KeyNetra.Lib.Mealy
import Mathlib.Algebra.Order.Ring.Rat
import Std.Data.String.ToInt

/-!
# KeyNetra.Cache.MemoryBackend — the in-memory backend, and its clock

`InMemoryCacheBackend` keeps texts under keys, each with the time it expires at, if any. A get that
finds an entry expired deletes it; `time.time()` is read once a call.

* `InMemoryCacheBackend.get` / `set` / `delete` / `incr` — the operations, at the time they read;
* `last_write_read` — in every run, a get finds what the last write to its key left, up to its
  deadline;
* `memory_refines` — the answers of every run are those of the backend without a clock, in which
  entries are deleted now and then.
-/

namespace KeyNetra

/-! ## The backend -/

/-- `_values`. -/
structure InMemoryCacheBackend where
  values : String → Option (Lib.Expiring String ℚ)

namespace InMemoryCacheBackend

/-- `InMemoryCacheBackend()`. -/
def empty : InMemoryCacheBackend := ⟨fun _ => none⟩

def delete (b : InMemoryCacheBackend) (key : String) : InMemoryCacheBackend :=
  ⟨Function.update b.values key none⟩

def get (b : InMemoryCacheBackend) (now : ℚ) (key : String) :
    Option String × InMemoryCacheBackend :=
  match b.values key with
  | none => (none, b)
  | some item =>
      match item.at? now with
      | none => (none, b.delete key)
      | some value => (some value, b)

def set (b : InMemoryCacheBackend) (now : ℚ) (key value : String) (ttlSeconds : Option Int) :
    InMemoryCacheBackend :=
  ⟨Function.update b.values key
    (some ⟨value, ttlSeconds.map fun seconds => now + (max 1 seconds : Int)⟩)⟩

variable [PyRuntime]

/-- The count under a key: a missing one is 0, and a text that is no number raises. -/
def incr (b : InMemoryCacheBackend) (now : ℚ) (key : String) :
    Except PyError Int × InMemoryCacheBackend :=
  let (current, b) := b.get now key
  match current.elim (.ok 0) fun text => (Value.str text).toInt with
  | .error e => (.error e, b)
  | .ok count => (.ok (count + 1), b.set now key (toString (count + 1)) none)

end InMemoryCacheBackend

/-- A call of the backend. -/
inductive MemoryCall where
  | get (key : String)
  | set (key value : String) (ttlSeconds : Option Int)
  | delete (key : String)
  | incr (key : String)
deriving DecidableEq, Repr

/-- What a call returns. -/
inductive MemoryAnswer where
  | text (value : Option String)
  | done
  | count (next : Except PyError Int)

section Calls

variable [PyRuntime]

/-- A call at a time. -/
def InMemoryCacheBackend.step (b : InMemoryCacheBackend) (call : ℚ × MemoryCall) :
    MemoryAnswer × InMemoryCacheBackend :=
  match call.2 with
  | .get key => ((b.get call.1 key).1 |> .text, (b.get call.1 key).2)
  | .set key value ttlSeconds => (.done, b.set call.1 key value ttlSeconds)
  | .delete key => (.done, b.delete key)
  | .incr key => ((b.incr call.1 key).1 |> .count, (b.incr call.1 key).2)

/-! ## One call -/

variable {b : InMemoryCacheBackend}

omit [PyRuntime] in
/-- A get reads the entry up to its deadline, and deletes it behind that. -/
theorem InMemoryCacheBackend.get_eq (b : InMemoryCacheBackend) (now : ℚ) (key : String) :
    (b.get now key).1 = Lib.readAt now (b.values key) ∧
      (b.get now key).2.values = Function.update b.values key (Lib.popped now (b.values key)) := by
  unfold InMemoryCacheBackend.get
  cases hitem : b.values key with
  | none =>
      refine ⟨rfl, ?_⟩
      have hsame := Function.update_eq_self key b.values
      rw [hitem] at hsame
      exact hsame.symm
  | some item =>
      have hread : Lib.readAt now (some item) = item.at? now := rfl
      unfold Lib.popped
      rw [hread]
      dsimp only
      cases hat : item.at? now with
      | none => exact ⟨rfl, rfl⟩
      | some value =>
          refine ⟨rfl, ?_⟩
          have hsame := Function.update_eq_self key b.values
          rw [hitem] at hsame
          exact hsame.symm

/-- A count that is returned is stored without a deadline. -/
theorem InMemoryCacheBackend.incr_ok {now : ℚ} {key : String} {next : Int}
    (h : (b.incr now key).1 = .ok next) :
    (b.incr now key).2.values key = some ⟨toString next, none⟩ := by
  unfold InMemoryCacheBackend.incr at h ⊢
  dsimp only at h ⊢
  split at h
  · cases h
  · cases h
    exact Function.update_self ..

/-- A count that raises leaves the text that is no number. -/
theorem InMemoryCacheBackend.incr_error {now : ℚ} {key : String} {e : PyError}
    (h : (b.incr now key).1 = .error e) : (b.incr now key).2.values key = b.values key := by
  unfold InMemoryCacheBackend.incr at h ⊢
  dsimp only at h ⊢
  rw [(b.get_eq now key).1] at h ⊢
  cases hread : Lib.readAt now (b.values key) with
  | none =>
      rw [hread] at h
      cases h
  | some text =>
      rw [hread] at h
      dsimp only [Option.elim_some] at h ⊢
      cases hcount : (Value.str text).toInt with
      | ok count =>
          rw [hcount] at h
          cases h
      | error e' =>
          dsimp only
          rw [(b.get_eq now key).2, Function.update_self, Lib.popped, hread]
          rfl

/-! ## What a get finds -/

/-- The calls that write a key. -/
def MemoryCall.Writes (key : String) : MemoryCall → Prop
  | .get _ => False
  | .set k _ _ | .delete k | .incr k => k = key

/-- What a write leaves under its key; an `incr` that raises leaves what was there. -/
def InMemoryCacheBackend.left (b : InMemoryCacheBackend) (now : ℚ) :
    MemoryCall → Option (Lib.Expiring String ℚ)
  | .get key => b.values key
  | .set _ value ttlSeconds =>
      some ⟨value, ttlSeconds.map fun seconds => now + (max 1 seconds : Int)⟩
  | .delete _ => none
  | .incr key =>
      match (b.incr now key).1 with
      | .ok next => some ⟨toString next, none⟩
      | .error _ => b.values key

/-- A call that does not write a key wears its entry at most. -/
theorem InMemoryCacheBackend.step_worn {key : String} {now : ℚ} {call : MemoryCall}
    (hcall : ¬ call.Writes key) {cell : Option (Lib.Expiring String ℚ)}
    (h : Lib.Worn now cell (b.values key)) :
    Lib.Worn now cell ((b.step (now, call)).2.values key) := by
  cases call with
  | get k =>
      -- get: an expired cell is dropped, which leaves no younger one behind
      show Lib.Worn now cell ((b.get now k).2.values key)
      rw [(b.get_eq now k).2]
      by_cases hkey : key = k
      · subst hkey
        rw [Function.update_self]
        exact h.pop
      · rwa [Function.update_of_ne hkey]
  | set k value ttlSeconds =>
      have hkey : key ≠ k := fun heq => hcall heq.symm
      show Lib.Worn now cell (Function.update b.values k _ key)
      rwa [Function.update_of_ne hkey]
  | delete k =>
      have hkey : key ≠ k := fun heq => hcall heq.symm
      show Lib.Worn now cell (Function.update b.values k _ key)
      rwa [Function.update_of_ne hkey]
  | incr k =>
      -- incr: only the key that is counted up is written; the read before it may drop that one
      have hkey : key ≠ k := fun heq => hcall heq.symm
      have hother : (b.incr now k).2.values key = b.values key := by
        have hget : (b.get now k).2.values key = b.values key := by
          rw [(b.get_eq now k).2, Function.update_of_ne hkey]
        unfold InMemoryCacheBackend.incr
        dsimp only
        split
        · exact hget
        · exact (Function.update_of_ne hkey ..).trans hget
      show Lib.Worn now cell ((b.incr now k).2.values key)
      rwa [hother]

/-- Calls that do not write a key, in the order of their times, wear its entry at most. -/
theorem InMemoryCacheBackend.run_worn {key : String} {calls : List (ℚ × MemoryCall)}
    (hcalls : ∀ call ∈ calls, ¬ call.2.Writes key) {start now : ℚ}
    (htimes : (start :: calls.map Prod.fst ++ [now]).Pairwise (· ≤ ·))
    {cell : Option (Lib.Expiring String ℚ)} (h : Lib.Worn start cell (b.values key)) :
    Lib.Worn now cell ((Lib.after InMemoryCacheBackend.step b calls).values key) := by
  induction calls generalizing b start with
  | nil =>
      have hle : start ≤ now := (List.pairwise_cons.mp htimes).1 now (List.mem_singleton.mpr rfl)
      exact h.mono hle
  | cons call calls ih =>
      obtain ⟨hstart, hrest⟩ := List.pairwise_cons.mp htimes
      have hle : start ≤ call.1 := hstart call.1 List.mem_cons_self
      apply ih (fun c hc => hcalls c (List.mem_cons_of_mem call hc)) hrest
      exact InMemoryCacheBackend.step_worn (hcalls call List.mem_cons_self) (h.mono hle)

/-- In every run at times that do not go back, a get finds what the last write to its key left, up
to its deadline. -/
theorem last_write_read (b : InMemoryCacheBackend) {key : String}
    {pre post : List (ℚ × MemoryCall)} {written now : ℚ} {call : MemoryCall}
    (hcall : call.Writes key) (hpost : ∀ call ∈ post, ¬ call.2.Writes key)
    (htimes : (written :: post.map Prod.fst ++ [now]).Pairwise (· ≤ ·)) :
    ((Lib.after InMemoryCacheBackend.step b (pre ++ (written, call) :: post)).get now key).1 =
      Lib.readAt now ((Lib.after InMemoryCacheBackend.step b pre).left written call) := by
  rw [Lib.after_append, Lib.after, (InMemoryCacheBackend.get_eq _ now key).1]
  generalize Lib.after InMemoryCacheBackend.step b pre = b
  -- the written cell is determined by the call alone, whatever was stored before
  have hleft : (b.step (written, call)).2.values key = b.left written call := by
    cases call with
    | get k => exact hcall.elim
    | set k value ttlSeconds =>
        obtain rfl : k = key := hcall
        exact Function.update_self ..
    | delete k =>
        obtain rfl : k = key := hcall
        exact Function.update_self ..
    | incr k =>
        obtain rfl : k = key := hcall
        unfold InMemoryCacheBackend.left
        show (b.incr written k).2.values k = _
        dsimp only
        cases hincr : (b.incr written k).1 with
        | ok next => exact InMemoryCacheBackend.incr_ok hincr
        | error e => exact InMemoryCacheBackend.incr_error hincr
  apply Lib.Worn.read
  apply InMemoryCacheBackend.run_worn hpost htimes
  rw [hleft]
  exact Lib.Worn.refl written _

end Calls

/-! ## Against the backend without a clock -/

def DocumentKey (key : String) : Prop := ∃ kind ∈ documentKinds, HasKind kind key

def CounterKey (key : String) : Prop := ∃ kind ∈ counterKinds, HasKind kind key

theorem DocumentKey.ne {key key' : String} (h : DocumentKey key) (h' : CounterKey key') :
    key ≠ key' := by
  obtain ⟨kind, hkind, x, xs, rfl⟩ := h
  obtain ⟨kind', hkind', y, ys, rfl⟩ := h'
  exact documentKey_ne_counterKey hkind hkind'

/-- A call of a cache adapter. -/
inductive CacheCall where
  | read (key : String)
  | store (key : String) (value : Value) (ttlSeconds : Option Int)
  | drop (key : String)
  | count (key : String)
  | bump (key : String)

def CacheCall.key : CacheCall → String
  | .read key | .store key _ _ | .drop key | .count key | .bump key => key

/-- Documents go under the keys of documents, and counts under those of counters. -/
def CacheCall.Kinded : CacheCall → Prop
  | .read key | .store key _ _ | .drop key => DocumentKey key
  | .count key | .bump key => CounterKey key

variable (encode : Value → String)

/-- The call of the backend of texts. -/
def CacheCall.memoryCall : CacheCall → MemoryCall
  | .read key | .count key => .get key
  | .store key value ttlSeconds => .set key (encode value) ttlSeconds
  | .drop key => .delete key
  | .bump key => .incr key

/-- A call of an adapter, of the backend of texts. -/
def InMemoryCacheBackend.answer [PyRuntime] (m : InMemoryCacheBackend) (call : ℚ × CacheCall) :
    MemoryAnswer × InMemoryCacheBackend :=
  m.step (call.1, call.2.memoryCall encode)

/-- A call of the backend without a clock, before which the document under its key may have been
deleted. -/
def Backend.step (b : Backend) (call : Bool × ℚ × CacheCall) : MemoryAnswer × Backend :=
  let b := if call.1 then b.delete call.2.2.key else b
  match call.2.2 with
  | .read key => (.text ((b.get key).map encode), b)
  | .store key value _ => (.done, b.set key value)
  | .drop key => (.done, b.delete key)
  | .count key => (.text ((b.counters key).map toString), b)
  | .bump key => (.count (.ok ((b.counters key).getD 0 + 1)), b.incr key)

/-- The texts of a backend without a clock; counts have no deadline. -/
structure Represents (m : InMemoryCacheBackend) (b : Backend) : Prop where
  documents : ∀ key, DocumentKey key →
    (m.values key).map Lib.Expiring.value = (b.documents key).map encode
  counters : ∀ key, CounterKey key →
    m.values key = (b.counters key).map fun n => ⟨toString n, none⟩

namespace Represents

variable {encode} {m : InMemoryCacheBackend} {b : Backend} {key : String}

theorem set (h : Represents encode m b) (hkey : DocumentKey key) (value : Value)
    (deadline : Option ℚ) :
    Represents encode ⟨Function.update m.values key (some ⟨encode value, deadline⟩)⟩
      (b.set key value) := by
  refine ⟨?_, ?_⟩
  · intro k hk
    show (Function.update m.values key _ k).map _ = (Backend.get (b.set key value) k).map encode
    by_cases heq : k = key
    · subst heq
      rw [Function.update_self, Backend.get_set_self]
      rfl
    · rw [Function.update_of_ne heq, Backend.get_set_ne b value heq]
      exact h.documents k hk
  · intro k hk
    show Function.update m.values key _ k = _
    rw [Function.update_of_ne (hkey.ne hk).symm, Backend.counters_set]
    exact h.counters k hk

theorem delete (h : Represents encode m b) (hkey : DocumentKey key) :
    Represents encode ⟨Function.update m.values key none⟩ (b.delete key) := by
  refine ⟨?_, ?_⟩
  · intro k hk
    show (Function.update m.values key none k).map _ = (Backend.get (b.delete key) k).map encode
    by_cases heq : k = key
    · subst heq
      rw [Function.update_self, Backend.get_delete_self]
      rfl
    · rw [Function.update_of_ne heq, Backend.get_delete_ne b heq]
      exact h.documents k hk
  · intro k hk
    show Function.update m.values key none k = _
    rw [Function.update_of_ne (hkey.ne hk).symm, Backend.counters_delete]
    exact h.counters k hk

theorem incr (h : Represents encode m b) (hkey : CounterKey key) :
    Represents encode ⟨Function.update m.values key
      (some ⟨toString ((b.counters key).getD 0 + 1), none⟩)⟩ (b.incr key) := by
  refine ⟨?_, ?_⟩
  · intro k hk
    show (Function.update m.values key _ k).map _ = _
    rw [Function.update_of_ne (hk.ne hkey), Backend.documents_incr]
    exact h.documents k hk
  · intro k hk
    show Function.update m.values key _ k = _
    by_cases heq : k = key
    · subst heq
      rw [Function.update_self, Backend.counters_incr_self]
      rfl
    · rw [Function.update_of_ne heq, Backend.counters_incr_ne b heq]
      exact h.counters k hk

/-- Reading a key that is not emptied leaves the texts. -/
theorem popped_self (m : InMemoryCacheBackend) {now : ℚ}
    (h : Lib.popped now (m.values key) = m.values key) : (m.get now key).2 = m := by
  have hvalues := (m.get_eq now key).2
  rw [h, Function.update_eq_self] at hvalues
  exact congrArg InMemoryCacheBackend.mk hvalues

/-- Counts are read at any time. -/
theorem readAt_counter (h : Represents encode m b) (hkey : CounterKey key) (now : ℚ) :
    Lib.readAt now (m.values key) = (b.counters key).map toString ∧
      Lib.popped now (m.values key) = m.values key := by
  rw [h.counters key hkey]
  cases b.counters key with
  | none => exact ⟨rfl, rfl⟩
  | some n => exact ⟨rfl, rfl⟩

end Represents

/-- `int(str(n))` is `n`, for the counts a backend can reach. -/
class CountText [PyRuntime] : Prop where
  int_str : ∀ n : Nat, n ≤ 2 ^ 63 → PyRuntime.intOfStr (toString n) = some (n : Int)

section Refinement

variable [PyRuntime] {encode} {m : InMemoryCacheBackend} {b : Backend}

omit [PyRuntime] in
/-- Reading a document whose deadline has passed is reading behind a deletion. -/
theorem read_simulated (now : ℚ) (h : Represents encode m b) {key : String} (hkey : DocumentKey key) :
    ∃ evicted, .text (m.get now key).1 = (b.step encode (evicted, now, .read key)).1 ∧
      Represents encode (m.get now key).2 (b.step encode (evicted, now, .read key)).2 ∧
      (b.step encode (evicted, now, .read key)).2.counters = b.counters := by
  obtain ⟨hread, hvalues⟩ := m.get_eq now key
  rcases Lib.popped_eq now (m.values key) with hkept | hgone
  · refine ⟨false, ?_, ?_, rfl⟩
    · rw [hread, Lib.readAt_of_kept hkept, h.documents key hkey]
      rfl
    · rw [Represents.popped_self m hkept]
      exact h
  · refine ⟨true, ?_, ?_, rfl⟩
    · rw [hread, Lib.readAt_of_gone hgone]
      show _ = MemoryAnswer.text ((Backend.get (b.delete key) key).map encode)
      rw [Backend.get_delete_self]
      rfl
    · have hemptied : (m.get now key).2 = ⟨Function.update m.values key none⟩ := by
        rw [hgone] at hvalues
        exact congrArg InMemoryCacheBackend.mk hvalues
      rw [hemptied]
      exact h.delete hkey

/-- A count is the next number of the counter. -/
theorem incr_simulated [CountText] (now : ℚ) (h : Represents encode m b) {key : String}
    (hkey : CounterKey key) (hcount : (b.counters key).getD 0 ≤ 2 ^ 63) :
    (m.incr now key).1 = .ok ((b.counters key).getD 0 + 1) ∧
      Represents encode (m.incr now key).2 (b.incr key) := by
  obtain ⟨hread, hkept⟩ := h.readAt_counter hkey now
  have hget : m.get now key = ((b.counters key).map toString, m) :=
    Prod.ext ((m.get_eq now key).1.trans hread) (Represents.popped_self m hkept)
  have hnumber : ((b.counters key).map toString).elim (.ok 0)
      (fun text => (Value.str text).toInt) = .ok (((b.counters key).getD 0 : Nat) : Int) := by
    cases hcounter : b.counters key with
    | none => rfl
    | some n =>
        rw [hcounter, Option.getD_some] at hcount
        simp only [Option.map_some, Option.elim_some, Value.toInt, CountText.int_str n hcount,
          Option.getD_some]
  have hincr : m.incr now key = (.ok (((b.counters key).getD 0 : Nat) + 1),
      m.set now key (toString ((((b.counters key).getD 0 : Nat) : Int) + 1)) none) := by
    unfold InMemoryCacheBackend.incr
    rw [hget]
    dsimp only
    rw [hnumber]
  rw [hincr]
  exact ⟨rfl, h.incr hkey⟩

/-- Every call of an adapter is answered as without a clock. -/
theorem call_simulated [CountText] (now : ℚ) (h : Represents encode m b) {call : CacheCall}
    (hkinded : call.Kinded) (hcount : ∀ key, (b.counters key).getD 0 ≤ 2 ^ 63) :
    ∃ evicted, (m.step (now, call.memoryCall encode)).1 = (b.step encode (evicted, now, call)).1 ∧
      Represents encode (m.step (now, call.memoryCall encode)).2
        (b.step encode (evicted, now, call)).2 ∧
      ∀ key, ((b.step encode (evicted, now, call)).2.counters key).getD 0 ≤
        (b.counters key).getD 0 + 1 := by
  cases call with
  | read key =>
      -- a read may find its document expired: the other backend then evicts it first
      obtain ⟨evicted, hanswer, hnext, hcounters⟩ := read_simulated now h hkinded
      refine ⟨evicted, hanswer, hnext, fun other => ?_⟩
      rw [hcounters]
      omega
  | store key value ttlSeconds =>
      exact ⟨false, rfl, h.set hkinded value _, fun other => Nat.le_succ _⟩
  | drop key => exact ⟨false, rfl, h.delete hkinded, fun other => Nat.le_succ _⟩
  | count key =>
      -- a counter has no time to live, so reading it changes nothing
      obtain ⟨hread, hkept⟩ := h.readAt_counter hkinded now
      refine ⟨false, ?_, ?_, fun other => Nat.le_succ _⟩
      · show MemoryAnswer.text (m.get now key).1 = _
        rw [(m.get_eq now key).1, hread]
        rfl
      · show Represents encode (m.get now key).2 b
        rw [Represents.popped_self m hkept]
        exact h
  | bump key =>
      -- bump: the bound on the counter is what keeps its text an integer
      obtain ⟨hanswer, hnext⟩ := incr_simulated now h hkinded (hcount key)
      refine ⟨false, congrArg MemoryAnswer.count hanswer, hnext, fun other => ?_⟩
      show ((b.incr key).counters other).getD 0 ≤ _
      by_cases heq : other = key
      · rw [heq, Backend.counters_incr_self, Option.getD_some]
      · rw [Backend.counters_incr_ne b heq]
        omega

/-- In every run, at any times, the adapters are answered as by the backend without a clock, in
which documents are deleted now and then. -/
theorem memory_refines [CountText] (encode : Value → String) {calls : List (ℚ × CacheCall)}
    (hkinded : ∀ call ∈ calls, call.2.Kinded) (hlength : calls.length ≤ 2 ^ 63) :
    ∃ calls' : List (Bool × ℚ × CacheCall), calls'.map Prod.snd = calls ∧
      Lib.answers (InMemoryCacheBackend.answer encode) InMemoryCacheBackend.empty calls =
        Lib.answers (Backend.step encode) (Backend.cold fun _ => none) calls' := by
  -- a counter may be bumped by each of the calls still to come
  let related : InMemoryCacheBackend → Backend → List (ℚ × CacheCall) → Prop := fun m b calls =>
    Represents encode m b ∧ (∀ call ∈ calls, call.2.Kinded) ∧
      ∀ key, (b.counters key).getD 0 + calls.length ≤ 2 ^ 63
  have hstart : related InMemoryCacheBackend.empty (Backend.cold fun _ => none) calls := by
    refine ⟨⟨fun _ _ => rfl, fun _ _ => rfl⟩, hkinded, fun key => ?_⟩
    show 0 + calls.length ≤ 2 ^ 63
    omega
  have hstep : ∀ m b call calls, related m b (call :: calls) →
      ∃ call' : Bool × ℚ × CacheCall, call'.2 = call ∧
        (m.answer encode call).1 = (b.step encode call').1 ∧
        related (m.answer encode call).2 (b.step encode call').2 calls := by
    rintro m b ⟨now, call⟩ calls ⟨h, hkinded, hcount⟩
    have hbound : ∀ key, (b.counters key).getD 0 + (calls.length + 1) ≤ 2 ^ 63 := hcount
    have hcall : call.Kinded := hkinded (now, call) List.mem_cons_self
    -- one call is one call, with the eviction it may have made
    obtain ⟨evicted, hanswer, hnext, hcounters⟩ := call_simulated now h hcall
      (fun key => by have := hbound key; omega)
    refine ⟨(evicted, now, call), rfl, hanswer, hnext,
      fun call' hcall' => hkinded call' (List.mem_cons_of_mem _ hcall'), fun key => ?_⟩
    have hbefore := hbound key
    have hafter := hcounters key
    omega
  obtain ⟨calls', hcalls, hanswers, -⟩ := Lib.answers_of_simulated hstep hstart
  exact ⟨calls', hcalls, hanswers⟩

end Refinement

section Concrete

attribute [local instance] plainRuntime

/-- A text kept for two seconds is read after one. -/
theorem kept_read : ((Lib.after InMemoryCacheBackend.step .empty
    ([] ++ (0, .set "k" "v" (some 2)) :: [(1, .get "k")])).get 1 "k").1 = some "v" := by
  have hcall : (MemoryCall.set "k" "v" (some 2)).Writes "k" := rfl
  have hpost : ∀ call ∈ [((1 : ℚ), MemoryCall.get "k")], ¬ call.2.Writes "k" := by
    simp [MemoryCall.Writes]
  have htimes : ((0 : ℚ) :: [((1 : ℚ), MemoryCall.get "k")].map Prod.fst ++ [1]).Pairwise
      (· ≤ ·) := by decide +kernel
  rw [last_write_read .empty hcall hpost htimes]
  decide +kernel

theorem plain_countText : CountText where
  int_str n _ := Nat.toInt?_repr n

/-- A decision kept for one second, and asked for after two. -/
def lapsedCalls : List (ℚ × CacheCall) :=
  [(0, .store (cacheKey ["dec", "k"]) .null (some 1)), (2, .read (cacheKey ["dec", "k"]))]

theorem lapsed_refines : ∃ calls' : List (Bool × ℚ × CacheCall),
    calls'.map Prod.snd = lapsedCalls ∧
      Lib.answers (InMemoryCacheBackend.answer fun _ => "null") .empty lapsedCalls =
        Lib.answers (Backend.step fun _ => "null") (Backend.cold fun _ => none) calls' := by
  have hkey : DocumentKey (cacheKey ["dec", "k"]) := ⟨"dec", by decide, "k", [], rfl⟩
  have hkinded : ∀ call ∈ lapsedCalls, call.2.Kinded := by
    intro call hcall
    rcases List.mem_cons.mp hcall with rfl | hcall
    · exact hkey
    · rw [List.mem_singleton.mp hcall]
      exact hkey
  have hcounts := plain_countText
  exact memory_refines _ hkinded (by decide)

end Concrete

end KeyNetra
