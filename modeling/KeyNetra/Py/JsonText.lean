import KeyNetra.Py.Value
import Mathlib.Data.List.Basic

/-!
# KeyNetra.Py.JsonText — `json.loads`

The texts of JSON documents, read. What is read may hold code points that no well-formed text has,
halves of a surrogate pair that an escape has written alone; so the texts of a document are lists of
code points.

* `scanUnits` / `scanNumber` — the scanners of strings and numbers;
* `scanOnce` / `loads` — the scanner of values, and a whole document;
* `scan_shorter` — what the scanner leaves is shorter;
* `scanOnce_fuel` — so its fuel does not run out.
-/

namespace KeyNetra

/-- A Python text, as its code points. -/
abbrev PyText := List Nat

def codePoints (s : String) : PyText := s.toList.map Char.toNat

/-- What `json.loads` returns. -/
inductive JsonValue where
  | null
  | bool (b : Bool)
  | int (n : Int)
  | float (x : PyFloat)
  | str (text : PyText)
  | list (xs : List JsonValue)
  | dict (items : List (PyText × JsonValue))

/-- An object, as its items in insertion order. -/
abbrev JsonDict := List (PyText × JsonValue)

/-- `d.get(key)`. -/
def JsonDict.get? : JsonDict → PyText → Option JsonValue
  | [], _ => none
  | (k, v) :: rest, key => if k = key then some v else JsonDict.get? rest key

/-- `d[key] = v`: an existing key keeps its place. -/
def JsonDict.set : JsonDict → PyText → JsonValue → JsonDict
  | [], key, v => [(key, v)]
  | (k, w) :: rest, key, v =>
      if k = key then (k, v) :: rest else (k, w) :: JsonDict.set rest key v

/-- `dict(pairs)`. -/
def JsonDict.ofPairs (pairs : List (PyText × JsonValue)) : JsonDict :=
  pairs.foldl (fun d pair => JsonDict.set d pair.1 pair.2) []

/-- How deep the interpreter lets the decoder nest; a flat object it always takes. -/
class RecursionLimit where
  levels : Nat
  flat : 0 < levels

/-! ## Strings -/

def isHighSurrogate (unit : Nat) : Bool := 0xD800 ≤ unit && unit ≤ 0xDBFF

def isLowSurrogate (unit : Nat) : Bool := 0xDC00 ≤ unit && unit ≤ 0xDFFF

/-- The two halves of a surrogate pair make one code point. -/
def joinSurrogates : List Nat → PyText
  | high :: low :: rest =>
      if isHighSurrogate high && isLowSurrogate low then
        (0x10000 + (high - 0xD800) * 0x400 + (low - 0xDC00)) :: joinSurrogates rest
      else high :: joinSurrogates (low :: rest)
  | units => units

def hexValue? (c : Char) : Option Nat :=
  let n := c.toNat
  if 48 ≤ n ∧ n ≤ 57 then some (n - 48)
  else if 97 ≤ n ∧ n ≤ 102 then some (n - 87)
  else if 65 ≤ n ∧ n ≤ 70 then some (n - 55)
  else none

/-- The code unit of `\uXXXX`. -/
def hexUnit? (a b c d : Char) : Option Nat := do
  some ((← hexValue? a) * 4096 + (← hexValue? b) * 256 + (← hexValue? c) * 16 + (← hexValue? d))

/-- The short escapes. -/
def escapedUnit? (c : Char) : Option Nat :=
  if c = '"' then some 34
  else if c = '\\' then some 92
  else if c = '/' then some 47
  else if c = 'b' then some 8
  else if c = 'f' then some 12
  else if c = 'n' then some 10
  else if c = 'r' then some 13
  else if c = 't' then some 9
  else none

/-- `scanstring`, up to the closing quote: the code units, and what follows. -/
def scanUnits : List Char → Option (List Nat × List Char)
  | [] => none
  | c :: rest =>
      if c = '"' then some ([], rest)
      else if c = '\\' then
        match rest with
        | [] => none
        | e :: rest =>
            if e = 'u' then
              match rest with
              | a :: b :: c :: d :: rest => do
                  let unit ← hexUnit? a b c d
                  let (units, after) ← scanUnits rest
                  some (unit :: units, after)
              | _ => none
            else do
              let unit ← escapedUnit? e
              let (units, after) ← scanUnits rest
              some (unit :: units, after)
      else if c.toNat < 32 then none
      else do
        let (units, after) ← scanUnits rest
        some (c.toNat :: units, after)

theorem scanUnits_quote (rest : List Char) : scanUnits ('"' :: rest) = some ([], rest) := by
  rw [scanUnits.eq_def]
  rfl

/-- Prepending a code unit to what is scanned. -/
def consUnit (unit : Nat) (scanned : List Nat × List Char) : List Nat × List Char :=
  (unit :: scanned.1, scanned.2)

theorem scanUnits_plain {c : Char} (hquote : c ≠ '"') (hslash : c ≠ '\\') (hcontrol : 32 ≤ c.toNat)
    (rest : List Char) : scanUnits (c :: rest) = (scanUnits rest).map (consUnit c.toNat) := by
  rw [scanUnits.eq_def]
  dsimp only
  rw [if_neg hquote, if_neg hslash, if_neg (not_lt.mpr hcontrol)]
  cases scanUnits rest <;> rfl

theorem scanUnits_short {e : Char} (hu : e ≠ 'u') (rest : List Char) :
    scanUnits ('\\' :: e :: rest) =
      (escapedUnit? e).bind fun unit => (scanUnits rest).map (consUnit unit) := by
  rw [scanUnits.eq_def]
  dsimp only
  rw [if_neg (by decide), if_pos rfl, if_neg hu]
  cases escapedUnit? e with
  | none => rfl
  | some unit => cases scanUnits rest <;> rfl

theorem scanUnits_unicode (a b c d : Char) (rest : List Char) :
    scanUnits ('\\' :: 'u' :: a :: b :: c :: d :: rest) =
      (hexUnit? a b c d).bind fun unit => (scanUnits rest).map (consUnit unit) := by
  rw [scanUnits.eq_def]
  dsimp only
  rw [if_neg (by decide), if_pos rfl, if_pos rfl]
  cases hexUnit? a b c d with
  | none => rfl
  | some unit => cases scanUnits rest <;> rfl

/-- What follows a string is shorter. -/
theorem scanUnits_shorter {cs rest : List Char} {units : List Nat}
    (h : scanUnits cs = some (units, rest)) : rest.length < cs.length := by
  induction cs using scanUnits.induct generalizing units rest with
  | case1 => cases h
  | case2 after =>
      -- the closing quote
      rw [scanUnits_quote] at h
      cases h
      exact Nat.lt_succ_self _
  | case3 => cases h
  | case4 a b c d after _ ih =>
      -- `\u` and four digits
      rw [scanUnits_unicode] at h
      obtain ⟨unit, _, hmap⟩ := Option.bind_eq_some_iff.mp h
      obtain ⟨⟨units', rest'⟩, hscan, heq⟩ := Option.map_eq_some_iff.mp hmap
      cases heq
      have hshorter := ih hscan
      simp only [List.length_cons]
      omega
  | case5 after hfew _ =>
      -- `\u` and too few characters
      rw [scanUnits.eq_def] at h
      dsimp only at h
      rw [if_neg (by decide), if_pos rfl, if_pos rfl] at h
      split at h
      · rename_i a b c d rest'
        exact absurd rfl (hfew a b c d rest')
      · cases h
  | case6 e after hu _ ih =>
      rw [scanUnits_short hu] at h
      obtain ⟨unit, _, hmap⟩ := Option.bind_eq_some_iff.mp h
      obtain ⟨⟨units', rest'⟩, hscan, heq⟩ := Option.map_eq_some_iff.mp hmap
      cases heq
      have hshorter := ih hscan
      simp only [List.length_cons]
      omega
  | case7 c after hquote hslash hcontrol =>
      -- a control character is refused
      rw [scanUnits.eq_def] at h
      dsimp only at h
      rw [if_neg hquote, if_neg hslash, if_pos hcontrol] at h
      cases h
  | case8 c after hquote hslash hcontrol ih =>
      rw [scanUnits_plain hquote hslash (not_lt.mp hcontrol)] at h
      obtain ⟨⟨units', rest'⟩, hscan, heq⟩ := Option.map_eq_some_iff.mp h
      cases heq
      have hshorter := ih hscan
      simp only [List.length_cons]
      omega

def scanString (cs : List Char) : Option (PyText × List Char) :=
  (scanUnits cs).map fun (units, rest) => (joinSurrogates units, rest)

/-! ## Numbers -/

/-- `0|[1-9][0-9]*`. -/
def integerPart? : List Char → Option (List Char × List Char)
  | [] => none
  | c :: rest =>
      if c = '0' then some (['0'], rest)
      else if c.isDigit then some (c :: rest.takeWhile Char.isDigit, rest.dropWhile Char.isDigit)
      else none

/-- One or more digits behind a mark, if they are there. -/
def markedDigits (mark cs : List Char) (otherwise : List Char) : List Char × List Char :=
  let digits := cs.takeWhile Char.isDigit
  if digits = [] then ([], otherwise) else (mark ++ digits, cs.dropWhile Char.isDigit)

/-- `(\.[0-9]+)?`. -/
def fraction (cs : List Char) : List Char × List Char :=
  match cs with
  | '.' :: rest => markedDigits ['.'] rest cs
  | _ => ([], cs)

/-- `([eE][-+]?[0-9]+)?`. -/
def exponent (cs : List Char) : List Char × List Char :=
  match cs with
  | e :: sign :: rest =>
      if e = 'e' ∨ e = 'E' then
        if sign = '+' ∨ sign = '-' then markedDigits [e, sign] rest cs
        else markedDigits [e] (sign :: rest) cs
      else ([], cs)
  | _ => ([], cs)

/-- A number: an `int` of at most 4300 digits, or a `float`. -/
def scanNumber [PyRuntime] (cs : List Char) : Option (JsonValue × List Char) := do
  let negative := cs.head? = some '-'
  let unsigned := if negative then cs.drop 1 else cs
  let (digits, rest) ← integerPart? unsigned
  let (frac, rest) := fraction rest
  let (exp, rest) := exponent rest
  if frac = [] ∧ exp = [] then
    let n : Int := Nat.ofDigitChars 10 digits 0
    if 4300 < digits.length then none else some (.int (if negative then -n else n), rest)
  else
    let sign := if negative then ['-'] else []
    let x ← PyRuntime.floatOfStr (String.ofList (sign ++ digits ++ frac ++ exp))
    some (.float x, rest)

/-! ## The scanner -/

/-- What may stand between tokens. -/
def isJsonSpace (c : Char) : Bool := c = ' ' || c = '\t' || c = '\n' || c = '\r'

def skipSpace (cs : List Char) : List Char := cs.dropWhile isJsonSpace

def jsonWords : List (List Char × JsonValue) :=
  [("null".toList, .null), ("true".toList, .bool true), ("false".toList, .bool false),
    ("NaN".toList, .float .nan), ("Infinity".toList, .float (.inf false)),
    ("-Infinity".toList, .float (.inf true))]

/-- A word or a number. -/
def scanScalar [PyRuntime] (cs : List Char) : Option (JsonValue × List Char) :=
  match jsonWords.find? fun word => word.1.isPrefixOf cs with
  | some (word, v) => some (v, cs.drop word.length)
  | none => scanNumber cs

variable [PyRuntime]

mutual

/-- `scan_once`, with fuel for the characters to come and the levels still to nest. -/
def scanOnce : Nat → Nat → List Char → Option (JsonValue × List Char)
  | 0, _, _ => none
  | fuel + 1, levels, cs =>
      match cs with
      | [] => none
      | c :: rest =>
          if c = '"' then (scanString rest).map fun (text, rest) => (.str text, rest)
          else if c = '{' then
            match levels with
            | 0 => none
            | levels + 1 =>
                if (skipSpace rest).head? = some '}' then some (.dict [], (skipSpace rest).drop 1)
                else (scanMembers fuel levels (skipSpace rest)).map fun (pairs, rest) =>
                  (.dict (JsonDict.ofPairs pairs), rest)
          else if c = '[' then
            match levels with
            | 0 => none
            | levels + 1 =>
                if (skipSpace rest).head? = some ']' then some (.list [], (skipSpace rest).drop 1)
                else (scanElements fuel levels (skipSpace rest)).map fun (xs, rest) =>
                  (.list xs, rest)
          else scanScalar (c :: rest)

/-- The members of an object, up to its end. -/
def scanMembers : Nat → Nat → List Char → Option (List (PyText × JsonValue) × List Char)
  | 0, _, _ => none
  | fuel + 1, levels, cs => do
      if cs.head? ≠ some '"' then none
      else
        let (key, rest) ← scanString (cs.drop 1)
        if (skipSpace rest).head? ≠ some ':' then none
        else
          let (v, rest) ← scanOnce fuel levels (skipSpace ((skipSpace rest).drop 1))
          match skipSpace rest with
          | [] => none
          | c :: rest =>
              if c = '}' then some ([(key, v)], rest)
              else if c = ',' then
                (scanMembers fuel levels (skipSpace rest)).map fun (pairs, rest) =>
                  ((key, v) :: pairs, rest)
              else none

/-- The elements of an array, up to its end. -/
def scanElements : Nat → Nat → List Char → Option (List JsonValue × List Char)
  | 0, _, _ => none
  | fuel + 1, levels, cs => do
      let (v, rest) ← scanOnce fuel levels cs
      match skipSpace rest with
      | [] => none
      | c :: rest =>
          if c = ']' then some ([v], rest)
          else if c = ',' then
            (scanElements fuel levels (skipSpace rest)).map fun (xs, rest) => (v :: xs, rest)
          else none

end

/-- `json.loads` of a text; `none` is any of its exceptions. -/
def loads [RecursionLimit] (text : List Char) : Option JsonValue := do
  if text.head? = some '\ufeff' then none
  else
    let (v, rest) ← scanOnce (2 * text.length + 1) RecursionLimit.levels (skipSpace text)
    if skipSpace rest = [] then some v else none

/-! ## Enough fuel -/

omit [PyRuntime] in
theorem length_skipSpace (cs : List Char) : (skipSpace cs).length ≤ cs.length :=
  (List.dropWhile_sublist isJsonSpace).length_le

omit [PyRuntime] in
theorem scanString_shorter {cs rest : List Char} {text : PyText}
    (h : scanString cs = some (text, rest)) : rest.length < cs.length := by
  obtain ⟨⟨units, rest'⟩, hscan, heq⟩ := Option.map_eq_some_iff.mp h
  cases heq
  exact scanUnits_shorter hscan

omit [PyRuntime] in
theorem integerPart_shorter {cs digits rest : List Char}
    (h : integerPart? cs = some (digits, rest)) : rest.length < cs.length := by
  cases cs with
  | nil => cases h
  | cons c cs =>
      rw [integerPart?] at h
      split at h
      · cases h
        exact Nat.lt_succ_self _
      · split at h
        · cases h
          exact Nat.lt_succ_of_le (List.dropWhile_sublist _).length_le
        · cases h

omit [PyRuntime] in
theorem markedDigits_length (mark : List Char) {cs otherwise : List Char}
    (h : cs.length ≤ otherwise.length) :
    (markedDigits mark cs otherwise).2.length ≤ otherwise.length := by
  unfold markedDigits
  dsimp only
  split
  · exact le_refl _
  · exact (List.dropWhile_sublist _).length_le.trans h

omit [PyRuntime] in
theorem fraction_length (cs : List Char) : (fraction cs).2.length ≤ cs.length := by
  unfold fraction
  split
  · exact markedDigits_length _ (Nat.le_succ _)
  · exact le_refl _

omit [PyRuntime] in
theorem exponent_length (cs : List Char) : (exponent cs).2.length ≤ cs.length := by
  unfold exponent
  split
  · split
    · split
      · exact markedDigits_length _ (by simp only [List.length_cons]; omega)
      · exact markedDigits_length _ (Nat.le_succ _)
    · exact le_refl _
  · exact le_refl _

theorem scanNumber_shorter {cs rest : List Char} {v : JsonValue}
    (h : scanNumber cs = some (v, rest)) : rest.length < cs.length := by
  unfold scanNumber at h
  dsimp only at h
  obtain ⟨⟨digits, rest₁⟩, hinteger, h⟩ := Option.bind_eq_some_iff.mp h
  -- each part takes characters away, the integer part at least one
  have hdigits := integerPart_shorter hinteger
  have hunsigned : (if cs.head? = some '-' then cs.drop 1 else cs).length ≤ cs.length := by
    split
    · rw [List.length_drop]
      omega
    · exact le_refl _
  have hfraction := fraction_length rest₁
  have hexponent := exponent_length (fraction rest₁).2
  -- and what the three leave is the rest
  have hrest : rest = (exponent (fraction rest₁).2).2 := by
    dsimp only at h
    split at h
    · split at h
      · cases h
      · cases h
        rfl
    · obtain ⟨x, _, hx⟩ := Option.bind_eq_some_iff.mp h
      cases hx
      rfl
  rw [hrest]
  omega

theorem scanScalar_shorter {cs rest : List Char} {v : JsonValue}
    (h : scanScalar cs = some (v, rest)) : rest.length < cs.length := by
  unfold scanScalar at h
  split at h
  · rename_i word w hfound
    cases h
    have hfits := List.find?_some hfound
    have hstart : word <+: cs := List.isPrefixOf_iff_prefix.mp hfits
    have hnonempty : (jsonWords.all fun word => 0 < word.1.length) = true := rfl
    have hpos : 0 < word.length :=
      of_decide_eq_true (List.all_eq_true.mp hnonempty _ (List.mem_of_find?_eq_some hfound))
    have hle := hstart.length_le
    rw [List.length_drop]
    omega
  · exact scanNumber_shorter h

/-- With so much fuel, what follows a value, the members of an object or the elements of an array is
shorter. -/
structure ScansShorter (fuel : Nat) : Prop where
  once : ∀ {levels cs v rest}, scanOnce fuel levels cs = some (v, rest) → rest.length < cs.length
  members : ∀ {levels cs pairs rest}, scanMembers fuel levels cs = some (pairs, rest) →
    rest.length < cs.length
  elements : ∀ {levels cs xs rest}, scanElements fuel levels cs = some (xs, rest) →
    rest.length < cs.length

omit [PyRuntime] in
/-- Where the value of a member begins is behind its key. -/
theorem memberValue_shorter {cs r₁ : List Char} {key : PyText}
    (hkey : scanString (cs.drop 1) = some (key, r₁)) :
    (skipSpace ((skipSpace r₁).drop 1)).length + 1 < cs.length := by
  have hkeyLength := scanString_shorter hkey
  have hskip := length_skipSpace r₁
  have hskip' := length_skipSpace ((skipSpace r₁).drop 1)
  rw [List.length_drop] at hkeyLength hskip'
  omega

omit [PyRuntime] in
/-- What stands behind a separator is shorter than what the separator ends. -/
theorem behindSeparator_shorter {cs r r' : List Char} {c : Char} (hvalue : r.length < cs.length)
    (hnext : skipSpace r = c :: r') : r'.length + 1 < cs.length := by
  have hskip := length_skipSpace r
  rw [hnext, List.length_cons] at hskip
  omega

theorem ScansShorter.once_succ {fuel levels : Nat} (ih : ScansShorter fuel) {cs rest : List Char}
    {v : JsonValue} (h : scanOnce (fuel + 1) levels cs = some (v, rest)) :
    rest.length < cs.length := by
  cases cs with
  | nil => cases h
  | cons c cs =>
      have hskip := length_skipSpace cs
      rw [scanOnce.eq_def] at h
      dsimp only at h
      split at h
      · -- a string
        obtain ⟨⟨text, rest'⟩, hscan, heq⟩ := Option.map_eq_some_iff.mp h
        cases heq
        exact Nat.lt_succ_of_lt (scanString_shorter hscan)
      split at h
      · -- an object, empty or with members
        cases levels with
        | zero => cases h
        | succ levels =>
            dsimp only at h
            split at h
            · cases h
              rw [List.length_drop, List.length_cons]
              omega
            · obtain ⟨⟨pairs, rest'⟩, hscan, heq⟩ := Option.map_eq_some_iff.mp h
              cases heq
              exact (ih.members hscan).trans_le (hskip.trans (Nat.le_succ _))
      split at h
      · -- an array, empty or with elements
        cases levels with
        | zero => cases h
        | succ levels =>
            dsimp only at h
            split at h
            · cases h
              rw [List.length_drop, List.length_cons]
              omega
            · obtain ⟨⟨xs, rest'⟩, hscan, heq⟩ := Option.map_eq_some_iff.mp h
              cases heq
              exact (ih.elements hscan).trans_le (hskip.trans (Nat.le_succ _))
      · exact scanScalar_shorter h

theorem ScansShorter.members_succ {fuel levels : Nat} (ih : ScansShorter fuel)
    {cs rest : List Char} {pairs : List (PyText × JsonValue)}
    (h : scanMembers (fuel + 1) levels cs = some (pairs, rest)) : rest.length < cs.length := by
  rw [scanMembers] at h
  split at h
  · cases h
  · -- key, colon and value, each of which takes characters away
    obtain ⟨⟨key, r₁⟩, hkey, h⟩ := Option.bind_eq_some_iff.mp h
    dsimp only at h
    split at h
    · cases h
    · obtain ⟨⟨v, r₂⟩, hvalue, h⟩ := Option.bind_eq_some_iff.mp h
      have hbegins := memberValue_shorter hkey
      have hends : r₂.length < cs.length := (ih.once hvalue).trans (Nat.lt_of_succ_lt hbegins)
      dsimp only at h
      split at h
      · cases h
      · rename_i c r₃ hnext
        -- behind the value: the closing brace, or a comma and the other members
        have hbehind := behindSeparator_shorter hends hnext
        split at h
        · cases h
          exact Nat.lt_of_succ_lt hbehind
        · split at h
          · obtain ⟨⟨pairs', rest'⟩, hscan, heq⟩ := Option.map_eq_some_iff.mp h
            cases heq
            have hskip := length_skipSpace r₃
            exact (ih.members hscan).trans (hskip.trans_lt (Nat.lt_of_succ_lt hbehind))
          · cases h

theorem ScansShorter.elements_succ {fuel levels : Nat} (ih : ScansShorter fuel)
    {cs rest : List Char} {xs : List JsonValue}
    (h : scanElements (fuel + 1) levels cs = some (xs, rest)) : rest.length < cs.length := by
  rw [scanElements] at h
  obtain ⟨⟨v, r₂⟩, hvalue, h⟩ := Option.bind_eq_some_iff.mp h
  dsimp only at h
  split at h
  · cases h
  · rename_i c r₃ hnext
    have hbehind := behindSeparator_shorter (ih.once hvalue) hnext
    split at h
    · cases h
      exact Nat.lt_of_succ_lt hbehind
    · split at h
      · obtain ⟨⟨xs', rest'⟩, hscan, heq⟩ := Option.map_eq_some_iff.mp h
        cases heq
        have hskip := length_skipSpace r₃
        exact (ih.elements hscan).trans (hskip.trans_lt (Nat.lt_of_succ_lt hbehind))
      · cases h

theorem scan_shorter (fuel : Nat) : ScansShorter fuel := by
  induction fuel with
  | zero =>
      constructor
      · intro levels cs v rest h
        rw [scanOnce] at h
        cases h
      · intro levels cs pairs rest h
        rw [scanMembers] at h
        cases h
      · intro levels cs xs rest h
        rw [scanElements] at h
        cases h
  | succ fuel ih => exact ⟨ih.once_succ, ih.members_succ, ih.elements_succ⟩

/-- Once there is more fuel than twice the characters, how much more makes no difference. -/
structure FuelAgrees (fuel : Nat) : Prop where
  once : ∀ other cs, 2 * cs.length < fuel → 2 * cs.length < other →
    ∀ levels, scanOnce fuel levels cs = scanOnce other levels cs
  members : ∀ other cs, 2 * cs.length + 1 < fuel → 2 * cs.length + 1 < other →
    ∀ levels, scanMembers fuel levels cs = scanMembers other levels cs
  elements : ∀ other cs, 2 * cs.length + 1 < fuel → 2 * cs.length + 1 < other →
    ∀ levels, scanElements fuel levels cs = scanElements other levels cs

theorem FuelAgrees.once_succ {fuel other : Nat} (ih : FuelAgrees fuel) {cs : List Char}
    (hfuel : 2 * cs.length < fuel + 1) (hother : 2 * cs.length < other + 1) (levels : Nat) :
    scanOnce (fuel + 1) levels cs = scanOnce (other + 1) levels cs := by
  cases cs with
  | nil => rfl
  | cons c cs =>
      have hskip := length_skipSpace cs
      rw [List.length_cons] at hfuel hother
      rw [scanOnce.eq_def, scanOnce.eq_def (other + 1)]
      dsimp only
      cases levels with
      | zero => rfl
      | succ levels =>
          dsimp only
          rw [ih.members other (skipSpace cs) (by omega) (by omega),
            ih.elements other (skipSpace cs) (by omega) (by omega)]

theorem FuelAgrees.members_succ {fuel other : Nat} (ih : FuelAgrees fuel) {cs : List Char}
    (hfuel : 2 * cs.length < fuel) (hother : 2 * cs.length < other) (levels : Nat) :
    scanMembers (fuel + 1) levels cs = scanMembers (other + 1) levels cs := by
  rw [scanMembers, scanMembers]
  congr 1
  refine Option.bind_congr ?_
  rintro ⟨key, r₁⟩ hkey
  have hbegins := memberValue_shorter hkey
  dsimp only
  congr 1
  rw [ih.once other (skipSpace ((skipSpace r₁).drop 1)) (by omega) (by omega)]
  refine Option.bind_congr ?_
  rintro ⟨v, r₂⟩ hvalue
  have hends : r₂.length < cs.length :=
    ((scan_shorter other).once hvalue).trans (Nat.lt_of_succ_lt hbegins)
  dsimp only
  cases hnext : skipSpace r₂ with
  | nil => rfl
  | cons c r₃ =>
      have hbehind := behindSeparator_shorter hends hnext
      have hskip := length_skipSpace r₃
      dsimp only
      rw [ih.members other (skipSpace r₃) (by omega) (by omega)]

theorem FuelAgrees.elements_succ {fuel other : Nat} (ih : FuelAgrees fuel) {cs : List Char}
    (hfuel : 2 * cs.length < fuel) (hother : 2 * cs.length < other) (levels : Nat) :
    scanElements (fuel + 1) levels cs = scanElements (other + 1) levels cs := by
  rw [scanElements, scanElements, ih.once other cs hfuel hother]
  refine Option.bind_congr ?_
  rintro ⟨v, r₂⟩ hvalue
  dsimp only
  cases hnext : skipSpace r₂ with
  | nil => rfl
  | cons c r₃ =>
      have hbehind := behindSeparator_shorter ((scan_shorter other).once hvalue) hnext
      have hskip := length_skipSpace r₃
      dsimp only
      rw [ih.elements other (skipSpace r₃) (by omega) (by omega)]

theorem scan_fuel (fuel : Nat) : FuelAgrees fuel := by
  induction fuel with
  | zero =>
      constructor
      all_goals
        intro other cs hfuel
        omega
  | succ fuel ih =>
      constructor
      · intro other cs hfuel hother
        cases other with
        | zero => omega
        | succ other => exact ih.once_succ hfuel hother
      · intro other cs hfuel hother
        cases other with
        | zero => omega
        | succ other => exact ih.members_succ (by omega) (by omega)
      · intro other cs hfuel hother
        cases other with
        | zero => omega
        | succ other => exact ih.elements_succ (by omega) (by omega)

/-- The fuel of `loads` does not run out: more of it changes nothing. -/
theorem scanOnce_fuel {fuel other : Nat} (levels : Nat) {cs : List Char}
    (hfuel : 2 * cs.length < fuel) (hother : 2 * cs.length < other) :
    scanOnce fuel levels cs = scanOnce other levels cs :=
  (scan_fuel fuel).once other cs hfuel hother levels

end KeyNetra
