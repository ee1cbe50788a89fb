import Mathlib.Data.List.Basic

/-!
# KeyNetra.Lib.Base64 — base64 in the URL alphabet

Three bytes are written as four characters, and one or two left over as two or three with padding.
The reader goes through the characters one by one: it skips what is not in the alphabet, ends at the
padding that completes a group, and fails when the text ends inside a group.

* `encode` — the writer;
* `decode` — the reader;
* `decode_encode` — what is written is read back;
* `ascii_encode` — and is ASCII.
-/

namespace Lib.Base64

/-! ## The alphabet -/

/-- The characters, by the six bits they stand for. -/
def alphabet : List Char :=
  "ABCDEFGHIJKLMNOPQRSTUVWXYZabcdefghijklmnopqrstuvwxyz0123456789-_".toList

def character (n : Nat) : Char := alphabet.getD n '='

/-- The six bits of a character; the reader takes the standard alphabet for this one as well. -/
def sextet? (c : Char) : Option Nat :=
  let plain := if c = '+' then '-' else if c = '/' then '_' else c
  if plain ∈ alphabet then some (alphabet.idxOf plain) else none

theorem sextet?_character {n : Nat} (h : n < 64) : sextet? (character n) = some n := by
  have hall : ∀ n < 64, sextet? (character n) = some n := by decide +kernel
  exact hall n h

theorem character_ne_pad {n : Nat} (h : n < 64) : character n ≠ '=' := by
  have hall : ∀ n < 64, character n ≠ '=' := by decide +kernel
  exact hall n h

/-! ## The writer -/

def encode : List UInt8 → List Char
  | [] => []
  | [a] => [character (a.toNat / 4), character (a.toNat % 4 * 16), '=', '=']
  | [a, b] =>
      [character (a.toNat / 4), character (a.toNat % 4 * 16 + b.toNat / 16),
        character (b.toNat % 16 * 4), '=']
  | a :: b :: c :: rest =>
      character (a.toNat / 4) :: character (a.toNat % 4 * 16 + b.toNat / 16) ::
        character (b.toNat % 16 * 4 + c.toNat / 64) :: character (c.toNat % 64) :: encode rest

/-! ## The reader -/

/-- Where the reader is: characters of the group read, their bits not yet written, and the padding
seen since. -/
structure Reader where
  quadPos : Nat
  leftover : Nat
  pads : Nat

def start : Reader := ⟨0, 0, 0⟩

/-- The reader, from one character to the end; `none` is the error. -/
def read : Reader → List Char → Option (List UInt8)
  | r, [] => if r.quadPos = 0 then some [] else none
  | r, c :: rest =>
      if c = '=' then
        if 2 ≤ r.quadPos then
          -- the padding completes the group: what follows is not read
          if 4 ≤ r.quadPos + (r.pads + 1) then some []
          else read { r with pads := r.pads + 1 } rest
        else read r rest
      else
        match sextet? c with
        | none => read r rest
        | some v =>
            match r.quadPos with
            | 0 => read ⟨1, v, 0⟩ rest
            | 1 => (read ⟨2, v % 16, 0⟩ rest).map (UInt8.ofNat (r.leftover * 4 + v / 16) :: ·)
            | 2 => (read ⟨3, v % 4, 0⟩ rest).map (UInt8.ofNat (r.leftover * 16 + v / 4) :: ·)
            | _ => (read start rest).map (UInt8.ofNat (r.leftover * 64 + v) :: ·)

def decode (text : List Char) : Option (List UInt8) := read start text

/-! ## Reading back -/

theorem read_character (r : Reader) {n : Nat} (h : n < 64) (rest : List Char) :
    read r (character n :: rest) =
      match r.quadPos with
      | 0 => read ⟨1, n, 0⟩ rest
      | 1 => (read ⟨2, n % 16, 0⟩ rest).map (UInt8.ofNat (r.leftover * 4 + n / 16) :: ·)
      | 2 => (read ⟨3, n % 4, 0⟩ rest).map (UInt8.ofNat (r.leftover * 16 + n / 4) :: ·)
      | _ => (read start rest).map (UInt8.ofNat (r.leftover * 64 + n) :: ·) := by
  rw [read, if_neg (character_ne_pad h), sextet?_character h]

/-- A byte that is written in two parts is put together again. -/
theorem ofNat_parts (a : UInt8) {n : Nat} (h : n = a.toNat) : UInt8.ofNat n = a := by
  rw [h]
  exact UInt8.ofNat_toNat

theorem decode_encode (bytes : List UInt8) : decode (encode bytes) = some bytes := by
  unfold decode
  induction bytes using encode.induct with
  | case1 => rfl
  | case2 a =>
      -- one byte: two characters and two pads
      have ha := a.toNat_lt
      rw [encode, read_character start (by omega)]
      show read ⟨1, a.toNat / 4, 0⟩ _ = _
      rw [read_character _ (by omega)]
      show (read ⟨2, _, 0⟩ ['=', '=']).map _ = _
      rw [ofNat_parts a (by show a.toNat / 4 * 4 + a.toNat % 4 * 16 / 16 = _; omega)]
      rfl
  | case3 a b =>
      -- two bytes: three characters and one pad
      have ha := a.toNat_lt
      have hb := b.toNat_lt
      rw [encode, read_character start (by omega)]
      show read ⟨1, a.toNat / 4, 0⟩ _ = _
      rw [read_character _ (by omega)]
      show (read ⟨2, (a.toNat % 4 * 16 + b.toNat / 16) % 16, 0⟩ _).map _ = _
      rw [read_character _ (by omega)]
      show ((read ⟨3, _, 0⟩ ['=']).map _).map _ = _
      rw [ofNat_parts a (by
          show a.toNat / 4 * 4 + (a.toNat % 4 * 16 + b.toNat / 16) / 16 = _; omega),
        ofNat_parts b (by
          show (a.toNat % 4 * 16 + b.toNat / 16) % 16 * 16 + b.toNat % 16 * 4 / 4 = _; omega)]
      rfl
  | case4 a b c rest ih =>
      -- three bytes: four characters, and the reader is back at the start
      have ha := a.toNat_lt
      have hb := b.toNat_lt
      have hc := c.toNat_lt
      rw [encode, read_character start (by omega)]
      show read ⟨1, a.toNat / 4, 0⟩ _ = _
      rw [read_character _ (by omega)]
      show (read ⟨2, (a.toNat % 4 * 16 + b.toNat / 16) % 16, 0⟩ _).map _ = _
      rw [read_character _ (by omega)]
      show ((read ⟨3, (b.toNat % 16 * 4 + c.toNat / 64) % 4, 0⟩ _).map _).map _ = _
      rw [read_character _ (by omega)]
      show (((read start (encode rest)).map _).map _).map _ = _
      rw [ih, ofNat_parts a (by
          show a.toNat / 4 * 4 + (a.toNat % 4 * 16 + b.toNat / 16) / 16 = _; omega),
        ofNat_parts b (by
          show (a.toNat % 4 * 16 + b.toNat / 16) % 16 * 16 +
            (b.toNat % 16 * 4 + c.toNat / 64) / 4 = _; omega),
        ofNat_parts c (by
          show (b.toNat % 16 * 4 + c.toNat / 64) % 4 * 64 + c.toNat % 64 = _; omega)]
      rfl

/-- What is written is ASCII. -/
theorem ascii_encode (bytes : List UInt8) : ∀ c ∈ encode bytes, c.toNat < 128 := by
  -- the characters are those of the alphabet
  have hcharacter : ∀ n, (character n).toNat < 128 := by
    intro n
    have hall : (alphabet.all fun c => c.toNat < 128) = true := by decide +kernel
    unfold character
    rw [List.getD_eq_getElem?_getD]
    cases hget : alphabet[n]? with
    | none => decide
    | some c => exact of_decide_eq_true (List.all_eq_true.mp hall c (List.mem_of_getElem? hget))
  have hpad : '='.toNat < 128 := by decide
  -- three bytes at a time, and one or two at the end
  induction bytes using encode.induct with
  | case1 =>
      intro c hc
      cases hc
  | case2 a =>
      rw [encode, List.forall_mem_cons, List.forall_mem_cons, List.forall_mem_cons,
        List.forall_mem_singleton]
      exact ⟨hcharacter _, hcharacter _, hpad, hpad⟩
  | case3 a b =>
      rw [encode, List.forall_mem_cons, List.forall_mem_cons, List.forall_mem_cons,
        List.forall_mem_singleton]
      exact ⟨hcharacter _, hcharacter _, hcharacter _, hpad⟩
  | case4 a b c rest ih =>
      rw [encode, List.forall_mem_cons, List.forall_mem_cons, List.forall_mem_cons,
        List.forall_mem_cons]
      exact ⟨hcharacter _, hcharacter _, hcharacter _, hcharacter _, ih⟩

end Lib.Base64
