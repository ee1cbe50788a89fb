import KeyNetra.Lib.Text
import KeyNetra.Py.Json

/-!
# KeyNetra.Py.CodedDigest — a digest without collisions

What is proved of a hash that no two texts share is about some digest: the characters of a
prefix code of the sorted value. No code of a value starts the code of another, so the
digests of two values agree exactly when their canonical texts do.

* `CollisionFreeDigest` — what is assumed of the hash;
* `Value.code` — the code, one natural number for each node, sign and character;
* `code_append_inj` — a code can be read off the front of a list;
* `codedRuntime` — the runtime that digests by it.
-/

namespace KeyNetra

/-- The digest is a hexadecimal text, and that of two values exactly when they have one
canonical text. -/
structure CollisionFreeDigest [PyRuntime] : Prop where
  hexadecimal : ∀ v, ':' ∉ (PyRuntime.digest v).toList
  canonical : ∀ v v', PyRuntime.digest v = PyRuntime.digest v' ↔ SameJson v v'

/-! ## The code -/

/-- The characters, each above zero, and a zero behind them. -/
def charsCode : List Char → List Nat
  | [] => [0]
  | c :: cs => (c.toNat + 1) :: charsCode cs

/-- The sign and the absolute value. -/
def intCode (n : Int) : List Nat := [if n < 0 then 1 else 0, n.natAbs]

def PyFloat.code : PyFloat → List Nat
  | .finite q => 0 :: (intCode q.num ++ [q.den])
  | .negZero => [1]
  | .inf negative => [2, negative.toNat]
  | .nan => [3]

mutual

/-- The constructor, and the codes of what it holds. -/
def Value.code : Value → List Nat
  | .null => [0]
  | .bool b => [1, b.toNat]
  | .int n => 2 :: intCode n
  | .float x => 3 :: x.code
  | .str s => 4 :: charsCode s.toList
  | .list xs => 5 :: Value.codeList xs
  | .dict items => 6 :: Value.codeItems items

def Value.codeList : List Value → List Nat
  | [] => [0]
  | v :: vs => 1 :: (v.code ++ Value.codeList vs)

def Value.codeItems : List (String × Value) → List Nat
  | [] => [0]
  | (key, v) :: items => 1 :: (charsCode key.toList ++ (v.code ++ Value.codeItems items))

end

/-! ## Reading a code off the front -/

variable {s t : List Nat}

theorem charsCode_append_inj {cs ds : List Char} (h : charsCode cs ++ s = charsCode ds ++ t) :
    cs = ds ∧ s = t := by
  induction cs generalizing ds with
  | nil =>
      cases ds with
      | nil => exact ⟨rfl, (List.cons.inj h).2⟩
      | cons d ds => cases (List.cons.inj h).1
  | cons c cs ih =>
      cases ds with
      | nil => cases (List.cons.inj h).1
      | cons d ds =>
          obtain ⟨hchar, hrest⟩ := List.cons.inj h
          obtain ⟨hchars, htails⟩ := ih hrest
          have hcd : c = d := Char.toNat_inj.mp (Nat.succ.inj hchar)
          exact ⟨by rw [hcd, hchars], htails⟩

theorem textCode_append_inj {a b : String} (h : charsCode a.toList ++ s = charsCode b.toList ++ t) :
    a = b ∧ s = t := by
  obtain ⟨hchars, htails⟩ := charsCode_append_inj h
  exact ⟨String.toList_inj.mp hchars, htails⟩

theorem intCode_append_inj {m n : Int} (h : intCode m ++ s = intCode n ++ t) : m = n ∧ s = t := by
  obtain ⟨hsign, hrest⟩ := List.cons.inj h
  obtain ⟨habs, htails⟩ := List.cons.inj hrest
  refine ⟨?_, htails⟩
  -- of two numbers with one absolute value, the negative one is told by its sign
  split at hsign
  · split at hsign
    · omega
    · cases hsign
  · split at hsign
    · cases hsign
    · omega

theorem toNat_append_inj {b c : Bool} (h : b.toNat :: s = c.toNat :: t) : b = c ∧ s = t := by
  obtain ⟨hbit, htails⟩ := List.cons.inj h
  refine ⟨?_, htails⟩
  cases b <;> cases c <;> first | rfl | cases hbit

theorem PyFloat.code_append_inj {x y : PyFloat} (h : x.code ++ s = y.code ++ t) :
    x = y ∧ s = t := by
  cases x with
  | finite p =>
      cases y <;> try cases (List.cons.inj h).1
      rename_i q
      have hparts : intCode p.num ++ (p.den :: s) = intCode q.num ++ (q.den :: t) := by
        simpa [PyFloat.code, List.append_assoc] using (List.cons.inj h).2
      obtain ⟨hnum, hrest⟩ := intCode_append_inj hparts
      obtain ⟨hden, htails⟩ := List.cons.inj hrest
      exact ⟨by rw [Rat.ext hnum hden], htails⟩
  | negZero =>
      cases y <;> try cases (List.cons.inj h).1
      exact ⟨rfl, (List.cons.inj h).2⟩
  | inf negative =>
      cases y <;> try cases (List.cons.inj h).1
      obtain ⟨hsign, htails⟩ := toNat_append_inj (List.cons.inj h).2
      exact ⟨by rw [hsign], htails⟩
  | nan =>
      cases y <;> try cases (List.cons.inj h).1
      exact ⟨rfl, (List.cons.inj h).2⟩

mutual

/-- The first number tells the constructor, and what it holds is read behind it. -/
theorem code_append_inj : ∀ (v w : Value) {s t : List Nat},
    v.code ++ s = w.code ++ t → v = w ∧ s = t
  -- each constructor has a number of its own in front
  | .null, w, s, t, h => by
      cases w <;> try cases (List.cons.inj h).1
      exact ⟨rfl, (List.cons.inj h).2⟩
  | .bool b, w, s, t, h => by
      cases w <;> try cases (List.cons.inj h).1
      obtain ⟨hbit, htails⟩ := toNat_append_inj (List.cons.inj h).2
      exact ⟨by rw [hbit], htails⟩
  | .int n, w, s, t, h => by
      cases w <;> try cases (List.cons.inj h).1
      obtain ⟨hint, htails⟩ := intCode_append_inj (List.cons.inj h).2
      exact ⟨by rw [hint], htails⟩
  | .float x, w, s, t, h => by
      cases w <;> try cases (List.cons.inj h).1
      obtain ⟨hfloat, htails⟩ := PyFloat.code_append_inj (List.cons.inj h).2
      exact ⟨by rw [hfloat], htails⟩
  | .str a, w, s, t, h => by
      cases w <;> try cases (List.cons.inj h).1
      obtain ⟨htext, htails⟩ := textCode_append_inj (List.cons.inj h).2
      exact ⟨by rw [htext], htails⟩
  | .list xs, w, s, t, h => by
      cases w <;> try cases (List.cons.inj h).1
      obtain ⟨hlist, htails⟩ := codeList_append_inj xs _ (List.cons.inj h).2
      exact ⟨by rw [hlist], htails⟩
  | .dict items, w, s, t, h => by
      cases w <;> try cases (List.cons.inj h).1
      obtain ⟨hitems, htails⟩ := codeItems_append_inj items _ (List.cons.inj h).2
      exact ⟨by rw [hitems], htails⟩

theorem codeList_append_inj : ∀ (xs ys : List Value) {s t : List Nat},
    Value.codeList xs ++ s = Value.codeList ys ++ t → xs = ys ∧ s = t
  | [], ys, s, t, h => by
      cases ys <;> try cases (List.cons.inj h).1
      exact ⟨rfl, (List.cons.inj h).2⟩
  | v :: vs, ys, s, t, h => by
      cases ys <;> try cases (List.cons.inj h).1
      rename_i w ws
      have hbehind : v.code ++ (Value.codeList vs ++ s) = w.code ++ (Value.codeList ws ++ t) := by
        simpa [Value.codeList, List.append_assoc] using (List.cons.inj h).2
      obtain ⟨hhead, hrest⟩ := code_append_inj v w hbehind
      obtain ⟨hlist, htails⟩ := codeList_append_inj vs ws hrest
      exact ⟨by rw [hhead, hlist], htails⟩

theorem codeItems_append_inj : ∀ (xs ys : List (String × Value)) {s t : List Nat},
    Value.codeItems xs ++ s = Value.codeItems ys ++ t → xs = ys ∧ s = t
  | [], ys, s, t, h => by
      cases ys <;> try cases (List.cons.inj h).1
      exact ⟨rfl, (List.cons.inj h).2⟩
  | (key, v) :: items, ys, s, t, h => by
      cases ys <;> try cases (List.cons.inj h).1
      rename_i other others
      obtain ⟨key', w⟩ := other
      have hbehind : charsCode key.toList ++ (v.code ++ (Value.codeItems items ++ s)) =
          charsCode key'.toList ++ (w.code ++ (Value.codeItems others ++ t)) := by
        simpa [Value.codeItems, List.append_assoc] using (List.cons.inj h).2
      obtain ⟨hkey, hvalue⟩ := textCode_append_inj hbehind
      obtain ⟨hhead, hrest⟩ := code_append_inj v w hvalue
      obtain ⟨hitems, htails⟩ := codeItems_append_inj items others hrest
      exact ⟨by rw [hkey, hhead, hitems], htails⟩

end

/-! ## The digest -/

/-- A number as the character it is the code of, where that is no digit and no colon, or as its
numeral with a point behind. -/
def glyph (n : Nat) : List Char :=
  if 59 ≤ n ∧ n ≤ 126 then [Char.ofNat n] else Nat.toDigits 10 n ++ ['.']

/-- The numbers, each as its glyph. -/
def glyphs : List Nat → List Char
  | [] => []
  | n :: ns => glyph n ++ glyphs ns

theorem toNat_character {n : Nat} (h : n ≤ 126) : (Char.ofNat n).toNat = n := by
  have hvalid : n.isValidChar := Or.inl (by omega)
  rw [Char.ofNat, dif_pos hvalid]
  rfl

/-- A digit comes before the characters that stand for a number. -/
theorem digit_lt {n : Nat} {c : Char} (h : c ∈ Nat.toDigits 10 n) : c.toNat < 58 := by
  have hdigit := Nat.isDigit_of_mem_toDigits (by decide) (by decide) h
  simp only [Char.isDigit, Bool.and_eq_true, decide_eq_true_eq] at hdigit
  exact Nat.lt_succ_of_le hdigit.2

/-- What starts a numeral or is the point behind it. -/
theorem head_lt {n : Nat} {c : Char} {cs ds : List Char}
    (h : c :: cs = Nat.toDigits 10 n ++ '.' :: ds) : c.toNat < 58 := by
  have hmem : c ∈ Nat.toDigits 10 n ++ ['.'] := by
    cases hdigits : Nat.toDigits 10 n with
    | nil =>
        rw [hdigits] at h
        rw [(List.cons.inj h).1]
        exact List.mem_singleton.mpr rfl
    | cons d digits =>
        rw [hdigits] at h
        rw [(List.cons.inj h).1]
        exact List.mem_cons_self
  rcases List.mem_append.mp hmem with hdigit | hpoint
  · exact digit_lt hdigit
  · rw [List.mem_singleton.mp hpoint]
    decide

/-- Which of the two forms a glyph has is told by its first character. -/
theorem glyph_append_inj {m n : Nat} {cs ds : List Char} (h : glyph m ++ cs = glyph n ++ ds) :
    m = n ∧ cs = ds := by
  have hpoint : ∀ k, '.' ∉ Nat.toDigits 10 k := by
    intro k hmem
    have hdigit := Nat.isDigit_of_mem_toDigits (by decide) (by decide) hmem
    cases hdigit
  unfold glyph at h
  split at h
  · next hm =>
    split at h
    · next hn =>
      obtain ⟨hchar, hrest⟩ := List.cons.inj h
      refine ⟨?_, hrest⟩
      rw [← toNat_character hm.2, ← toNat_character hn.2, hchar]
    · rw [List.append_assoc] at h
      have hlow := head_lt h
      rw [toNat_character hm.2] at hlow
      omega
  · split at h
    · next hn =>
      rw [List.append_assoc] at h
      have hlow := head_lt h.symm
      rw [toNat_character hn.2] at hlow
      omega
    · rw [List.append_assoc, List.append_assoc] at h
      obtain ⟨hdigits, hrest⟩ := (Lib.append_sep_inj (hpoint m) (hpoint n)).mp h
      have hrepr : Nat.repr m = Nat.repr n := congrArg String.ofList hdigits
      exact ⟨Nat.repr_inj.mp hrepr, hrest⟩

theorem colon_notMem_glyph (n : Nat) : ':' ∉ glyph n := by
  unfold glyph
  split
  · next hn =>
    intro h
    have hcolon := congrArg Char.toNat (List.mem_singleton.mp h)
    rw [toNat_character hn.2] at hcolon
    have hvalue : ':'.toNat = 58 := rfl
    omega
  · intro h
    rcases List.mem_append.mp h with hdigit | hpoint
    · exact absurd (digit_lt hdigit) (by decide)
    · exact absurd hpoint (by decide)

theorem glyph_ne_nil (n : Nat) : glyph n ≠ [] := by
  unfold glyph
  split
  · exact List.cons_ne_nil _ _
  · simp

theorem glyphs_inj {ms ns : List Nat} (h : glyphs ms = glyphs ns) : ms = ns := by
  induction ms generalizing ns with
  | nil =>
      cases ns with
      | nil => rfl
      | cons n ns => exact absurd (List.append_eq_nil_iff.mp h.symm).1 (glyph_ne_nil n)
  | cons m ms ih =>
      cases ns with
      | nil => exact absurd (List.append_eq_nil_iff.mp h).1 (glyph_ne_nil m)
      | cons n ns =>
          obtain ⟨hhead, hrest⟩ := glyph_append_inj h
          rw [hhead, ih hrest]

theorem colon_notMem_glyphs (ns : List Nat) : ':' ∉ glyphs ns := by
  induction ns with
  | nil => exact List.not_mem_nil
  | cons n ns ih =>
      rw [glyphs, List.mem_append, not_or]
      exact ⟨colon_notMem_glyph n, ih⟩

/-- A runtime that digests a value by the code of its sorted form. -/
@[reducible] def codedRuntime : PyRuntime :=
  { plainRuntime with digest := fun v => String.ofList (glyphs v.sorted.code) }

attribute [local instance] codedRuntime in
theorem codedRuntime_collisionFree : CollisionFreeDigest where
  hexadecimal v := by
    show ':' ∉ (String.ofList (glyphs v.sorted.code)).toList
    rw [String.toList_ofList]
    exact colon_notMem_glyphs _
  canonical v v' := by
    show String.ofList (glyphs v.sorted.code) = String.ofList (glyphs v'.sorted.code) ↔ _
    constructor
    · intro hdigest
      have hcode := glyphs_inj (String.ofList_injective hdigest)
      exact (code_append_inj v.sorted v'.sorted (congrArg (· ++ []) hcode)).1
    · intro hsame
      rw [show v.sorted = v'.sorted from hsame]

end KeyNetra
