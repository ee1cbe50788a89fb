import KeyNetra.Lib.StableSort
import KeyNetra.Lib.Text
import KeyNetra.Py.JsonText
import Mathlib.Order.Basic
import Mathlib.Data.String.Basic

/-!
# KeyNetra.Py.JsonScalars — strings and numerals, dumped and read back

The text of a string, with every character outside printable ASCII escaped, and that of an integer.

* `quoted` / `scanString_quoted` — a string, and it is read back;
* `toList_natCast` / `scanScalar_digit` — a numeral, and it is scanned as a number;
* `JsonDict.ofPairs_nodup` / `JsonDict.get?_of_mem` — the fields of a loaded object.
-/

namespace KeyNetra

/-! ## The text -/

def hexChar (n : Nat) : Char := "0123456789abcdef".toList.getD n '0'

/-- `\uXXXX`. -/
def unicodeEscape (unit : Nat) : List Char :=
  ['\\', 'u', hexChar (unit / 4096), hexChar (unit / 256 % 16), hexChar (unit / 16 % 16),
    hexChar (unit % 16)]

/-- One character of a string: with `ensure_ascii`, what is not printable ASCII is escaped, beyond
the first plane as a surrogate pair. -/
def escapeChar (c : Char) : List Char :=
  if c = '"' then ['\\', '"']
  else if c = '\\' then ['\\', '\\']
  else if c = '\n' then ['\\', 'n']
  else if c = '\r' then ['\\', 'r']
  else if c = '\t' then ['\\', 't']
  else if c.toNat = 12 then ['\\', 'f']
  else if c.toNat = 8 then ['\\', 'b']
  else if 32 ≤ c.toNat ∧ c.toNat ≤ 126 then [c]
  else if c.toNat < 0x10000 then unicodeEscape c.toNat
  else
    unicodeEscape (0xD800 + (c.toNat - 0x10000) / 0x400) ++
      unicodeEscape (0xDC00 + (c.toNat - 0x10000) % 0x400)

def quoted (s : String) : List Char := '"' :: s.toList.flatMap escapeChar ++ ['"']

/-! ## Strings are read back -/

/-- The code units of a character in UTF-16. -/
def charUnits (c : Char) : List Nat :=
  if c.toNat < 0x10000 then [c.toNat]
  else [0xD800 + (c.toNat - 0x10000) / 0x400, 0xDC00 + (c.toNat - 0x10000) % 0x400]

theorem hexValue_hexChar {n : Nat} (h : n < 16) : hexValue? (hexChar n) = some n := by
  have hall : ∀ n < 16, hexValue? (hexChar n) = some n := by decide
  exact hall n h

/-- An escaped code unit is read back. -/
theorem scanUnits_unicodeEscape {unit : Nat} (h : unit < 0x10000) (rest : List Char) :
    scanUnits (unicodeEscape unit ++ rest) = (scanUnits rest).map (consUnit unit) := by
  have hvalue : hexUnit? (hexChar (unit / 4096)) (hexChar (unit / 256 % 16))
      (hexChar (unit / 16 % 16)) (hexChar (unit % 16)) =
      some (unit / 4096 * 4096 + unit / 256 % 16 * 256 + unit / 16 % 16 * 16 + unit % 16) := by
    unfold hexUnit?
    rw [hexValue_hexChar (by omega), hexValue_hexChar (by omega), hexValue_hexChar (by omega),
      hexValue_hexChar (by omega)]
    rfl
  have hunit : unit / 4096 * 4096 + unit / 256 % 16 * 256 + unit / 16 % 16 * 16 + unit % 16 =
      unit := by omega
  rw [hunit] at hvalue
  show scanUnits ('\\' :: 'u' :: _ :: _ :: _ :: _ :: rest) = _
  rw [scanUnits_unicode, hvalue]
  rfl

theorem scanUnits_shortEscape {e : Char} {unit : Nat} (hu : e ≠ 'u')
    (h : escapedUnit? e = some unit) (rest : List Char) :
    scanUnits ('\\' :: e :: rest) = (scanUnits rest).map (consUnit unit) := by
  rw [scanUnits_short hu, h]
  rfl

theorem consUnit_units {c : Char} (h : c.toNat < 0x10000) (scanned : Option (List Nat × List Char)) :
    scanned.map (consUnit c.toNat) = scanned.map fun s => (charUnits c ++ s.1, s.2) := by
  unfold charUnits
  rw [if_pos h]
  rfl

/-- A character is read back as its code units. -/
theorem scanUnits_escapeChar (c : Char) (rest : List Char) :
    scanUnits (escapeChar c ++ rest) = (scanUnits rest).map fun s => (charUnits c ++ s.1, s.2) := by
  have hvalid : c.toNat < 0xD800 ∨ 0xDFFF < c.toNat ∧ c.toNat < 0x110000 := c.valid
  by_cases hshort : c = '"' ∨ c = '\\' ∨ c = '\n' ∨ c = '\r' ∨ c = '\t'
  · rcases hshort with rfl | rfl | rfl | rfl | rfl
    all_goals exact scanUnits_shortEscape (by decide) (by decide) rest
  obtain ⟨hquote, hslash, hnewline, hreturn, htab⟩ := by simpa only [not_or] using hshort
  rw [escapeChar, if_neg hquote, if_neg hslash, if_neg hnewline, if_neg hreturn, if_neg htab]
  split
  · rename_i hc
    rw [← consUnit_units (by omega), hc]
    exact scanUnits_shortEscape (by decide) (by decide) rest
  split
  · rename_i hc
    rw [← consUnit_units (by omega), hc]
    exact scanUnits_shortEscape (by decide) (by decide) rest
  split
  · rename_i hplain
    rw [← consUnit_units (by omega)]
    exact scanUnits_plain hquote hslash hplain.1 rest
  split
  · rename_i hfirst
    rw [← consUnit_units hfirst]
    exact scanUnits_unicodeEscape hfirst rest
  · rename_i hfirst
    -- beyond the first plane: the two halves of a pair
    have hunits : charUnits c =
        [0xD800 + (c.toNat - 0x10000) / 0x400, 0xDC00 + (c.toNat - 0x10000) % 0x400] :=
      if_neg hfirst
    rw [List.append_assoc, scanUnits_unicodeEscape (by omega), scanUnits_unicodeEscape (by omega),
      hunits, Option.map_map]
    rfl

theorem scanUnits_escaped (s rest : List Char) :
    scanUnits (s.flatMap escapeChar ++ '"' :: rest) = some (s.flatMap charUnits, rest) := by
  induction s with
  | nil => exact scanUnits_quote rest
  | cons c s ih =>
      rw [List.flatMap_cons, List.append_assoc, scanUnits_escapeChar, ih]
      rfl

theorem joinSurrogates_cons {unit : Nat} (h : isHighSurrogate unit = false) (units : List Nat) :
    joinSurrogates (unit :: units) = unit :: joinSurrogates units := by
  cases units with
  | nil => rfl
  | cons low units =>
      rw [joinSurrogates, h]
      rfl

theorem joinSurrogates_charUnits (s : List Char) :
    joinSurrogates (s.flatMap charUnits) = s.map Char.toNat := by
  induction s with
  | nil => rfl
  | cons c s ih =>
      have hvalid : c.toNat < 0xD800 ∨ 0xDFFF < c.toNat ∧ c.toNat < 0x110000 := c.valid
      rw [List.flatMap_cons, List.map_cons, ← ih]
      -- a character of the basic plane is one unit, and no high surrogate
      by_cases hfirst : c.toNat < 0x10000
      · have hhigh : isHighSurrogate c.toNat = false := by
          rw [isHighSurrogate, Bool.and_eq_false_iff, decide_eq_false_iff_not,
            decide_eq_false_iff_not]
          omega
        have hunits : charUnits c = [c.toNat] := if_pos hfirst
        rw [hunits]
        exact joinSurrogates_cons hhigh _
      · -- any other is a pair of surrogates, which joins to it
        have hunits : charUnits c =
            [0xD800 + (c.toNat - 0x10000) / 0x400, 0xDC00 + (c.toNat - 0x10000) % 0x400] :=
          if_neg hfirst
        have hpair : (isHighSurrogate (0xD800 + (c.toNat - 0x10000) / 0x400) &&
            isLowSurrogate (0xDC00 + (c.toNat - 0x10000) % 0x400)) = true := by
          simp only [isHighSurrogate, isLowSurrogate, Bool.and_eq_true, decide_eq_true_eq]
          omega
        have hjoined : 0x10000 + (0xD800 + (c.toNat - 0x10000) / 0x400 - 0xD800) * 0x400 +
            (0xDC00 + (c.toNat - 0x10000) % 0x400 - 0xDC00) = c.toNat := by omega
        rw [hunits, List.cons_append, List.cons_append, joinSurrogates, if_pos hpair, hjoined]
        rfl

/-- A dumped string is read back. -/
theorem scanString_quoted (s : String) (rest : List Char) :
    scanString (s.toList.flatMap escapeChar ++ '"' :: rest) = some (codePoints s, rest) := by
  unfold scanString
  rw [scanUnits_escaped, Option.map_some]
  dsimp only
  rw [joinSurrogates_charUnits]
  rfl

/-! ## Numerals are read back -/

/-- The decimal digits of a number are its remainder behind the digits of its tenth. -/
theorem toDigits_ten {n : Nat} (h : 10 ≤ n) :
    Nat.toDigits 10 n = Nat.toDigits 10 (n / 10) ++ [(n % 10).digitChar] := by
  rw [Nat.toDigits_eq_if (by decide), if_neg (not_lt.mpr h)]

/-- A numeral begins with a digit other than zero, unless it is the zero. -/
theorem toDigits_cons (n : Nat) :
    ∃ c rest, Nat.toDigits 10 n = c :: rest ∧ c.isDigit = true ∧ (0 < n → c ≠ '0') := by
  induction n using Nat.strongRecOn with
  | ind n ih =>
      by_cases hsmall : n < 10
      · have hall : ∀ n < 10, n.digitChar.isDigit = true ∧ (0 < n → n.digitChar ≠ '0') := by decide
        exact ⟨n.digitChar, [], Nat.toDigits_of_lt_base hsmall, hall n hsmall⟩
      · obtain ⟨c, rest, hdigits, hdigit, hzero⟩ := ih (n / 10) (by omega)
        refine ⟨c, rest ++ [(n % 10).digitChar], ?_, hdigit, fun _ => hzero (by omega)⟩
        rw [toDigits_ten (by omega), hdigits]
        rfl

/-- The integers that a database column holds. -/
def FitsInteger (n : Int) : Prop := -2 ^ 63 ≤ n ∧ n < 2 ^ 63

theorem length_toDigits {n : Nat} (h : n ≤ 2 ^ 63) : (Nat.toDigits 10 n).length ≤ 4300 := by
  have hshort : (Nat.toDigits 10 n).length ≤ 19 := by
    rw [Nat.length_toDigits_le_iff (by decide) (by decide)]
    exact lt_of_le_of_lt h (by decide)
  omega

theorem toList_natCast (n : Nat) : (toString (n : Int)).toList = Nat.toDigits 10 n := by
  rw [Int.toString_eq_repr, Int.repr_eq_if, if_pos (Int.natCast_nonneg n), Int.toNat_natCast]
  exact Nat.toList_repr

theorem toList_negSucc (n : Nat) :
    (toString (Int.negSucc n)).toList = '-' :: Nat.toDigits 10 (n + 1) := by
  have hnegative : ¬0 ≤ Int.negSucc n := by omega
  have habs : (-Int.negSucc n).toNat = n + 1 := by omega
  rw [Int.toString_eq_repr, Int.repr_eq_if, if_neg hnegative, habs, String.toList_append,
    Nat.toList_repr]
  rfl

section Numerals

variable [PyRuntime]

/-- No word begins like a numeral. -/
theorem scanScalar_digit {c : Char} (hdigit : c.isDigit = true) (rest : List Char) :
    scanScalar (c :: rest) = scanNumber (c :: rest) := by
  have hnone : (jsonWords.find? fun word => word.1.isPrefixOf (c :: rest)) = none := by
    rw [List.find?_eq_none]
    intro word hword hstart
    have hheads : ∀ word ∈ jsonWords, ∃ d after, word.1 = d :: after ∧ d.isDigit = false := by
      simp [jsonWords]
    obtain ⟨d, after, hd, hnot⟩ := hheads word hword
    rw [hd, List.isPrefixOf, Bool.and_eq_true, beq_iff_eq] at hstart
    rw [hstart.1, hdigit] at hnot
    cases hnot
  unfold scanScalar
  rw [hnone]

theorem scanScalar_minus {c : Char} (hdigit : c.isDigit = true) (rest : List Char) :
    scanScalar ('-' :: c :: rest) = scanNumber ('-' :: c :: rest) := by
  have hnone : (jsonWords.find? fun word => word.1.isPrefixOf ('-' :: c :: rest)) = none := by
    rw [List.find?_eq_none]
    intro word hword hstart
    have hheads : ∀ word ∈ jsonWords, ∃ d e after, word.1 = d :: e :: after ∧ e.isDigit = false := by
      simp [jsonWords]
    obtain ⟨d, e, after, hd, hnot⟩ := hheads word hword
    rw [hd, List.isPrefixOf, List.isPrefixOf, Bool.and_eq_true, Bool.and_eq_true, beq_iff_eq,
      beq_iff_eq] at hstart
    rw [hstart.2.1, hdigit] at hnot
    cases hnot
  unfold scanScalar
  rw [hnone]

end Numerals

/-- No space stands before what begins with another character. -/
theorem skipSpace_cons {c : Char} (h : isJsonSpace c = false) (rest : List Char) :
    skipSpace (c :: rest) = c :: rest :=
  List.dropWhile_cons_of_neg (by rw [h]; decide)

/-- A digit is no space, and opens no string, object or array. -/
theorem digit_plain {c : Char} (hdigit : c.isDigit = true) :
    isJsonSpace c = false ∧ c ≠ '"' ∧ c ≠ '{' ∧ c ≠ '[' := by
  refine ⟨?_, ?_, ?_, ?_⟩
  · simp only [isJsonSpace, Bool.or_eq_false_iff, decide_eq_false_iff_not]
    refine ⟨⟨⟨?_, ?_⟩, ?_⟩, ?_⟩ <;>
      · rintro rfl
        cases hdigit
  all_goals
    rintro rfl
    cases hdigit

/-! ## The fields of a loaded object -/

theorem codePoints_injective : Function.Injective codePoints := by
  intro s t h
  have hchars : s.toList = t.toList :=
    List.map_injective_iff.mpr (fun _ _ => Char.toNat_inj.mp) h
  exact String.toList_inj.mp hchars

/-- A key that an object does not have is set behind the others. -/
theorem JsonDict.set_fresh {d : JsonDict} {key : PyText} (h : key ∉ d.map Prod.fst)
    (v : JsonValue) : d.set key v = d ++ [(key, v)] := by
  induction d with
  | nil => rfl
  | cons item d ih =>
      rw [List.map_cons, List.mem_cons, not_or] at h
      rw [JsonDict.set, if_neg (fun heq => h.1 heq.symm), ih h.2]
      rfl

/-- Pairs of distinct keys are the items of their object. -/
theorem JsonDict.ofPairs_nodup {pairs : List (PyText × JsonValue)}
    (h : (pairs.map Prod.fst).Nodup) : JsonDict.ofPairs pairs = pairs := by
  have hfold : ∀ (rest d : List (PyText × JsonValue)), ((d ++ rest).map Prod.fst).Nodup →
      rest.foldl (fun d pair => JsonDict.set d pair.1 pair.2) d = d ++ rest := by
    intro rest
    induction rest with
    | nil => exact fun d _ => (List.append_nil d).symm
    | cons pair rest ih =>
        intro d hnodup
        have hfresh : pair.1 ∉ d.map Prod.fst := by
          rw [List.map_append, List.map_cons] at hnodup
          exact fun hmem => List.disjoint_of_nodup_append hnodup hmem List.mem_cons_self
        rw [List.foldl_cons, JsonDict.set_fresh hfresh, ih, List.append_assoc]
        · rfl
        · rw [List.append_assoc]
          exact hnodup
  exact hfold pairs [] h

theorem JsonDict.get?_of_mem {d : JsonDict} (hnodup : (d.map Prod.fst).Nodup) {key : PyText}
    {v : JsonValue} (h : (key, v) ∈ d) : d.get? key = some v := by
  induction d with
  | nil => cases h
  | cons item d ih =>
      rw [List.map_cons, List.nodup_cons] at hnodup
      rcases List.mem_cons.mp h with rfl | hmem
      · exact if_pos rfl
      · have hne : item.1 ≠ key := by
          intro heq
          exact hnodup.1 (List.mem_map.mpr ⟨_, hmem, heq.symm⟩)
        rw [JsonDict.get?, if_neg hne]
        exact ih hnodup.2 hmem

end KeyNetra
