import KeyNetra.Py.Json
import KeyNetra.Py.JsonScalars
import Mathlib.Data.List.TakeWhile

/-!
# KeyNetra.Py.JsonRoundTrip — any value dumped, and loaded again

`json.dumps` of nested values, with either pair of separators, and with the keys in order or as
they come.

* `Value.jsonChars` / `jsonDumps` — the text;
* `scanNumber_append` — a numeral is scanned alike wherever a value may end;
* `scanOnce_value` — a dumped value is scanned, whatever follows it;
* `loads_jsonDumps` — what was dumped is loaded;
* `canonical_text_iff` — two values have one canonical text exactly when they are equal up to the
  order of members.
-/

namespace KeyNetra

/-! ## The text -/

/-- `separators` and `sort_keys`. -/
structure JsonStyle where
  spaced : Bool
  sortKeys : Bool

/-- What stands behind a comma or a colon. -/
def gap (spaced : Bool) : List Char := if spaced then [' '] else []

section Write

variable [PyRuntime]

/-- `floatstr`. -/
def floatChars : PyFloat → List Char
  | .nan => "NaN".toList
  | .inf negative => if negative then "-Infinity".toList else "Infinity".toList
  | x => (PyRuntime.repr (.float x)).toList

mutual

/-- The text of a value. -/
def Value.jsonChars (spaced : Bool) : Value → List Char
  | .null => "null".toList
  | .bool b => if b then "true".toList else "false".toList
  | .int n => (toString n).toList
  | .float x => floatChars x
  | .str s => quoted s
  | .list xs => '[' :: (elementsChars spaced xs ++ [']'])
  | .dict items => '{' :: (itemsChars spaced items ++ ['}'])

/-- The elements of a list. -/
def elementsChars (spaced : Bool) : List Value → List Char
  | [] => []
  | v :: vs =>
      v.jsonChars spaced ++ ((if vs.isEmpty then [] else ',' :: gap spaced) ++
        elementsChars spaced vs)

/-- The members of a dictionary. -/
def itemsChars (spaced : Bool) : List (String × Value) → List Char
  | [] => []
  | (key, v) :: items =>
      quoted key ++ (':' :: (gap spaced ++ (v.jsonChars spaced ++
        ((if items.isEmpty then [] else ',' :: gap spaced) ++ itemsChars spaced items))))

end

/-- The value whose members are written. -/
def JsonStyle.order (style : JsonStyle) (v : Value) : Value :=
  if style.sortKeys then v.sorted else v

/-- `json.dumps`. -/
def jsonDumps (style : JsonStyle) (v : Value) : String :=
  String.ofList ((style.order v).jsonChars style.spaced)

end Write

/-! ## What is loaded -/

mutual

/-- What a value is loaded as. -/
def Value.json : Value → JsonValue
  | .null => .null
  | .bool b => .bool b
  | .int n => .int n
  | .float x => .float x
  | .str s => .str (codePoints s)
  | .list xs => .list (jsonElements xs)
  | .dict items => .dict (jsonItems items)

def jsonElements : List Value → List JsonValue
  | [] => []
  | v :: vs => v.json :: jsonElements vs

def jsonItems : List (String × Value) → JsonDict
  | [] => []
  | (key, v) :: items => (codePoints key, v.json) :: jsonItems items

end

mutual

/-- A value is loaded as it was. -/
theorem Value.json_injective : ∀ {a b : Value}, a.json = b.json → a = b
  | .null, b, h => by cases b <;> simp_all [Value.json]
  | .bool _, b, h => by cases b <;> simp_all [Value.json]
  | .int _, b, h => by cases b <;> simp_all [Value.json]
  | .float _, b, h => by cases b <;> simp_all [Value.json]
  | .str s, b, h => by
      cases b with
      | str t =>
          have hpoints : codePoints s = codePoints t := by simpa [Value.json] using h
          rw [codePoints_injective hpoints]
      | _ => simp [Value.json] at h
  | .list xs, b, h => by
      cases b with
      | list ys =>
          have hsame : jsonElements xs = jsonElements ys := by simpa [Value.json] using h
          rw [jsonElements_injective hsame]
      | _ => simp [Value.json] at h
  | .dict items, b, h => by
      cases b with
      | dict others =>
          have hsame : jsonItems items = jsonItems others := by simpa [Value.json] using h
          rw [jsonItems_injective hsame]
      | _ => simp [Value.json] at h

theorem jsonElements_injective : ∀ {xs ys : List Value}, jsonElements xs = jsonElements ys → xs = ys
  | [], ys, h => by
      cases ys with
      | nil => rfl
      | cons y ys => simp [jsonElements] at h
  | x :: xs, ys, h => by
      cases ys with
      | nil => simp [jsonElements] at h
      | cons y ys =>
          have hboth : x.json = y.json ∧ jsonElements xs = jsonElements ys := by
            simpa [jsonElements] using h
          rw [Value.json_injective hboth.1, jsonElements_injective hboth.2]

theorem jsonItems_injective : ∀ {items others : List (String × Value)},
    jsonItems items = jsonItems others → items = others
  | [], others, h => by
      cases others with
      | nil => rfl
      | cons other others => simp [jsonItems] at h
  | (key, x) :: items, others, h => by
      cases others with
      | nil => simp [jsonItems] at h
      | cons other others =>
          obtain ⟨key', y⟩ := other
          have hall : (codePoints key = codePoints key' ∧ x.json = y.json) ∧
              jsonItems items = jsonItems others := by
            simpa [jsonItems] using h
          rw [codePoints_injective hall.1.1, Value.json_injective hall.1.2,
            jsonItems_injective hall.2]

end

/-! ## What can be written -/

section Writable

variable [PyRuntime]

/-- `float(repr(x)) == x`, read by the scanner of numbers. -/
def PyFloat.ReadsBack (x : PyFloat) : Prop :=
  match x with
  | .nan | .inf _ => True
  | x => scanNumber (PyRuntime.repr (.float x)).toList = some (.float x, [])

mutual

/-- Integers have digits that can be written, floats are read back, and keys are distinct. -/
def Value.Writable : Value → Prop
  | .int n => (Nat.toDigits 10 n.natAbs).length ≤ 4300
  | .float x => x.ReadsBack
  | .list xs => WritableElements xs
  | .dict items => (items.map Prod.fst).Nodup ∧ WritableItems items
  | _ => True

def WritableElements : List Value → Prop
  | [] => True
  | v :: vs => v.Writable ∧ WritableElements vs

def WritableItems : List (String × Value) → Prop
  | [] => True
  | (_, v) :: items => v.Writable ∧ WritableItems items

end

theorem writableItems_iff {items : List (String × Value)} :
    WritableItems items ↔ ∀ item ∈ items, item.2.Writable := by
  induction items with
  | nil => simp [WritableItems]
  | cons item items ih =>
      obtain ⟨key, v⟩ := item
      rw [WritableItems, ih, List.forall_mem_cons]

end Writable

mutual

/-- How deep lists and dictionaries are nested. -/
def Value.depth : Value → Nat
  | .list xs => elementsDepth xs + 1
  | .dict items => itemsDepth items + 1
  | _ => 0

def elementsDepth : List Value → Nat
  | [] => 0
  | v :: vs => max v.depth (elementsDepth vs)

def itemsDepth : List (String × Value) → Nat
  | [] => 0
  | (_, v) :: items => max v.depth (itemsDepth items)

end

theorem itemsDepth_le {items : List (String × Value)} {n : Nat} :
    itemsDepth items ≤ n ↔ ∀ item ∈ items, item.2.depth ≤ n := by
  induction items with
  | nil => simp [itemsDepth]
  | cons item items ih =>
      obtain ⟨key, v⟩ := item
      rw [itemsDepth, max_le_iff, ih, List.forall_mem_cons]

mutual

/-- Sorting the members nests no deeper. -/
theorem sorted_depth : ∀ (v : Value) {n : Nat}, v.depth ≤ n → v.sorted.depth ≤ n
  | .null, _, h | .bool _, _, h | .int _, _, h | .float _, _, h | .str _, _, h => h
  | .list xs, n, h => by
      rw [Value.depth] at h
      have hxs := sortedList_depth xs (n := n - 1) (by omega)
      rw [Value.sorted, Value.depth]
      omega
  | .dict items, n, h => by
      rw [Value.depth] at h
      have hitems := sortedItems_depth items (n := n - 1) (by omega)
      have hsorted : itemsDepth (Lib.sortOn Prod.fst (Value.sortedItems items)) ≤ n - 1 :=
        itemsDepth_le.mpr fun item hitem => itemsDepth_le.mp hitems item (Lib.mem_sortOn.mp hitem)
      rw [Value.sorted, Value.depth]
      omega

theorem sortedList_depth : ∀ (xs : List Value) {n : Nat}, elementsDepth xs ≤ n →
    elementsDepth (Value.sortedList xs) ≤ n
  | [], _, h => h
  | v :: vs, _, h =>
      max_le (sorted_depth v (max_le_iff.mp h).1) (sortedList_depth vs (max_le_iff.mp h).2)

theorem sortedItems_depth : ∀ (items : List (String × Value)) {n : Nat}, itemsDepth items ≤ n →
    itemsDepth (Value.sortedItems items) ≤ n
  | [], _, h => h
  | (_, v) :: items, _, h =>
      max_le (sorted_depth v (max_le_iff.mp h).1) (sortedItems_depth items (max_le_iff.mp h).2)

end

/-! ## Where a value may end -/

/-- The text ends, or goes on with a comma or a closing bracket. -/
def ValueEnds (rest : List Char) : Prop :=
  rest = [] ∨ ∃ c after, rest = c :: after ∧ (c = ',' ∨ c = ']' ∨ c = '}')

theorem valueEnds_cons {c : Char} (h : c = ',' ∨ c = ']' ∨ c = '}') (after : List Char) :
    ValueEnds (c :: after) :=
  .inr ⟨c, after, rfl, h⟩

/-- No digit stands there. -/
theorem ValueEnds.digits {rest : List Char} (h : ValueEnds rest) :
    rest.takeWhile Char.isDigit = [] ∧ rest.dropWhile Char.isDigit = rest := by
  rcases h with rfl | ⟨c, after, rfl, rfl | rfl | rfl⟩
  · exact ⟨rfl, rfl⟩
  all_goals exact ⟨rfl, rfl⟩

variable {rest : List Char}

/-- The digits before the end are the same. -/
theorem digits_append (cs : List Char) (h : ValueEnds rest) :
    (cs ++ rest).takeWhile Char.isDigit = cs.takeWhile Char.isDigit ∧
      (cs ++ rest).dropWhile Char.isDigit = cs.dropWhile Char.isDigit ++ rest := by
  induction cs with
  | nil => exact h.digits
  | cons c cs ih =>
      cases hdigit : c.isDigit with
      | true =>
          rw [List.cons_append, List.takeWhile_cons_of_pos hdigit,
            List.takeWhile_cons_of_pos hdigit, List.dropWhile_cons_of_pos hdigit,
            List.dropWhile_cons_of_pos hdigit, ih.1, ih.2]
          exact ⟨rfl, rfl⟩
      | false =>
          have hnot : ¬c.isDigit = true := by rw [hdigit]; decide
          rw [List.cons_append, List.takeWhile_cons_of_neg hnot, List.takeWhile_cons_of_neg hnot,
            List.dropWhile_cons_of_neg hnot, List.dropWhile_cons_of_neg hnot]
          exact ⟨rfl, rfl⟩

theorem integerPart_append {cs digits after : List Char} (h : ValueEnds rest)
    (hpart : integerPart? cs = some (digits, after)) :
    integerPart? (cs ++ rest) = some (digits, after ++ rest) := by
  cases cs with
  | nil => cases hpart
  | cons c cs =>
      obtain ⟨htake, hdrop⟩ := digits_append cs h
      rw [List.cons_append, integerPart?]
      rw [integerPart?] at hpart
      split at hpart
      · rename_i hzero
        cases hpart
        rw [if_pos hzero]
      · rename_i hzero
        split at hpart
        · rename_i hdigit
          cases hpart
          rw [if_neg hzero, if_pos hdigit, htake, hdrop]
        · cases hpart

theorem markedDigits_append (mark cs otherwise : List Char) (h : ValueEnds rest) :
    markedDigits mark (cs ++ rest) (otherwise ++ rest) =
      ((markedDigits mark cs otherwise).1, (markedDigits mark cs otherwise).2 ++ rest) := by
  obtain ⟨htake, hdrop⟩ := digits_append cs h
  unfold markedDigits
  dsimp only
  rw [htake, hdrop]
  split
  · rfl
  · rfl

theorem fraction_append (cs : List Char) (h : ValueEnds rest) :
    fraction (cs ++ rest) = ((fraction cs).1, (fraction cs).2 ++ rest) := by
  cases cs with
  | nil =>
      rcases h with rfl | ⟨c, after, rfl, rfl | rfl | rfl⟩
      · rfl
      all_goals rfl
  | cons c cs =>
      by_cases hdot : c = '.'
      · subst hdot
        exact markedDigits_append ['.'] cs ('.' :: cs) h
      · have hplain : ∀ after, fraction (c :: after) = ([], c :: after) := by
          intro after
          unfold fraction
          split
          · rename_i heq
            cases heq
            exact absurd rfl hdot
          · rfl
        rw [List.cons_append, hplain, hplain]
        rfl

theorem exponent_append (cs : List Char) (h : ValueEnds rest) :
    exponent (cs ++ rest) = ((exponent cs).1, (exponent cs).2 ++ rest) := by
  match cs with
  | [] =>
      rcases h with rfl | ⟨c, after, rfl, rfl | rfl | rfl⟩
      · rfl
      all_goals cases after <;> rfl
  | [e] =>
      -- a mark alone is no exponent
      rcases h with rfl | ⟨c, after, rfl, hc⟩
      · rfl
      · have hdigit : (c :: after).takeWhile Char.isDigit = [] :=
          (valueEnds_cons hc after).digits.1
        have hsign : ¬(c = '+' ∨ c = '-') := by rcases hc with rfl | rfl | rfl <;> decide
        show (if _ then _ else _) = _
        rw [if_neg hsign, markedDigits, if_pos hdigit]
        split <;> rfl
  | e :: sign :: cs =>
      rw [List.cons_append, List.cons_append, exponent, exponent]
      split
      · split
        · exact markedDigits_append [e, sign] cs (e :: sign :: cs) h
        · exact markedDigits_append [e] (sign :: cs) (e :: sign :: cs) h
      · rfl

section Loaded

variable [PyRuntime]

/-- A numeral is scanned alike wherever a value may end. -/
theorem scanNumber_append {cs : List Char} {v : JsonValue} (h : ValueEnds rest)
    (hscan : scanNumber cs = some (v, [])) : scanNumber (cs ++ rest) = some (v, rest) := by
  unfold scanNumber at hscan ⊢
  dsimp only at hscan ⊢
  obtain ⟨⟨digits, after⟩, hpart, hscan⟩ := Option.bind_eq_some_iff.mp hscan
  -- a sign is looked for at the front, where the rest is not
  have hne : cs ≠ [] := by
    rintro rfl
    cases hpart
  have hhead : (cs ++ rest).head? = cs.head? := by
    rw [List.head?_append_of_ne_nil cs hne]
  have hunsigned : (if (cs ++ rest).head? = some '-' then (cs ++ rest).drop 1 else cs ++ rest) =
      (if cs.head? = some '-' then cs.drop 1 else cs) ++ rest := by
    rw [hhead]
    split
    · exact List.drop_append_of_le_length (List.length_pos_of_ne_nil hne)
    · rfl
  -- part by part, each of which stops where the rest begins
  rw [hunsigned, integerPart_append h hpart, hhead]
  dsimp only [Option.bind_eq_bind, Option.bind_some] at hscan ⊢
  rw [fraction_append after h]
  dsimp only
  rw [exponent_append _ h]
  dsimp only
  split at hscan
  · -- an integer, if there is no fraction and no exponent
    rename_i hinteger
    rw [if_pos hinteger]
    split at hscan
    · cases hscan
    · rename_i hshort
      obtain ⟨hv, hend⟩ := Prod.mk.inj (Option.some.inj hscan)
      rw [if_neg hshort, hv, hend]
      rfl
  · -- a float, whose text is that of the three parts
    rename_i hinteger
    rw [if_neg hinteger]
    obtain ⟨x, hx, hscan⟩ := Option.bind_eq_some_iff.mp hscan
    obtain ⟨hv, hend⟩ := Prod.mk.inj (Option.some.inj hscan)
    rw [hx, Option.bind_some, hv, hend]
    rfl

/-! ## Scalars are scanned -/

omit [PyRuntime] in
/-- The integer part of a numeral is all of it. -/
theorem integerPart_numeral (n : Nat) :
    integerPart? (Nat.toDigits 10 n) = some (Nat.toDigits 10 n, []) := by
  obtain ⟨c, digits, hdigits, hdigit, hzero⟩ := toDigits_cons n
  by_cases hn : n = 0
  · rw [hn]
    rfl
  · have hall : ∀ d ∈ digits, d.isDigit = true := by
      intro d hd
      apply Nat.isDigit_of_mem_toDigits (by decide) (le_refl 10) (n := n)
      rw [hdigits]
      exact List.mem_cons_of_mem _ hd
    rw [hdigits, integerPart?, if_neg (hzero (Nat.pos_of_ne_zero hn)), if_pos hdigit,
      List.takeWhile_eq_self_iff.mpr hall, List.dropWhile_eq_nil_iff.mpr hall]

/-- The numeral of an integer is scanned. -/
theorem scanNumber_int {n : Int} (hshort : (Nat.toDigits 10 n.natAbs).length ≤ 4300) :
    scanNumber (toString n).toList = some (.int n, []) := by
  cases n with
  | ofNat n =>
      -- no sign: a numeral starts with a digit
      obtain ⟨c, digits, hdigits, hdigit, _⟩ := toDigits_cons n
      have hsign : ¬(Nat.toDigits 10 n).head? = some '-' := by
        rw [hdigits]
        intro hhead
        cases hhead
        cases hdigit
      have hlength : (Nat.toDigits 10 n).length ≤ 4300 := hshort
      show scanNumber (toString (n : Int)).toList = _
      rw [toList_natCast]
      unfold scanNumber
      simp only [if_neg hsign]
      rw [integerPart_numeral]
      show (if _ then _ else _) = _
      rw [if_neg (not_lt.mpr hlength), Nat.ofDigitChars_ten_toDigits]
      rfl
  | negSucc n =>
      -- the sign is dropped, and the rest is the numeral of the absolute value
      have hsign : ('-' :: Nat.toDigits 10 (n + 1)).head? = some '-' := rfl
      have hdrop : ('-' :: Nat.toDigits 10 (n + 1)).drop 1 = Nat.toDigits 10 (n + 1) := rfl
      have hlength : (Nat.toDigits 10 (n + 1)).length ≤ 4300 := hshort
      rw [toList_negSucc]
      unfold scanNumber
      simp only [if_pos hsign]
      rw [hdrop, integerPart_numeral]
      show (if _ then _ else _) = _
      rw [if_neg (not_lt.mpr hlength), Nat.ofDigitChars_ten_toDigits]
      rfl

/-- A numeral begins with a digit, or with the sign and a digit. -/
theorem numeral_cons {cs : List Char} {v : JsonValue} (hscan : scanNumber cs = some (v, [])) :
    ∃ c after, cs = c :: after ∧
      (c.isDigit = true ∨ c = '-' ∧ ∃ d digits, after = d :: digits ∧ d.isDigit = true) := by
  -- an integer part starts with a digit
  have hdigit : ∀ {cs digits after : List Char}, integerPart? cs = some (digits, after) →
      ∃ c behind, cs = c :: behind ∧ c.isDigit = true := by
    intro cs digits after hpart
    cases cs with
    | nil => cases hpart
    | cons c cs =>
        refine ⟨c, cs, rfl, ?_⟩
        rw [integerPart?] at hpart
        split at hpart
        · rename_i hzero
          rw [hzero]
          rfl
        · split at hpart
          · assumption
          · cases hpart
  unfold scanNumber at hscan
  dsimp only at hscan
  obtain ⟨⟨digits, after⟩, hpart, -⟩ := Option.bind_eq_some_iff.mp hscan
  obtain ⟨c, behind, hcs, hc⟩ := hdigit hpart
  split at hcs
  · rename_i hsign
    cases cs with
    | nil => cases hsign
    | cons first cs =>
        cases hsign
        exact ⟨'-', cs, rfl, .inr ⟨rfl, c, behind, hcs, hc⟩⟩
  · exact ⟨c, behind, hcs, .inl hc⟩

/-- A numeral is scanned as a scalar. -/
theorem scanScalar_numeral {cs : List Char} {v : JsonValue} (h : ValueEnds rest)
    (hscan : scanNumber cs = some (v, [])) : scanScalar (cs ++ rest) = some (v, rest) := by
  obtain ⟨c, after, rfl, hdigit | ⟨rfl, d, digits, rfl, hdigit⟩⟩ := numeral_cons hscan
  · rw [List.cons_append, scanScalar_digit hdigit]
    exact scanNumber_append h hscan
  · rw [List.cons_append, List.cons_append, scanScalar_minus hdigit]
    exact scanNumber_append h hscan

/-- What begins a value. -/
def OpensValue (c : Char) : Prop := isJsonSpace c = false ∧ c ≠ ']' ∧ c ≠ '\ufeff'

/-- What begins a scalar that is no string. -/
def OpensScalar (c : Char) : Prop := OpensValue c ∧ c ≠ '"' ∧ c ≠ '{' ∧ c ≠ '['

omit [PyRuntime] in
theorem opensScalar_digit {c : Char} (hdigit : c.isDigit = true) : OpensScalar c := by
  obtain ⟨hspace, hquote, hbrace, hbracket⟩ := digit_plain hdigit
  refine ⟨⟨hspace, ?_, ?_⟩, hquote, hbrace, hbracket⟩
  all_goals
    rintro rfl
    cases hdigit

theorem numeral_opens {cs : List Char} {v : JsonValue} (hscan : scanNumber cs = some (v, [])) :
    ∃ c after, cs = c :: after ∧ OpensScalar c := by
  obtain ⟨c, after, rfl, hdigit | ⟨rfl, _⟩⟩ := numeral_cons hscan
  · exact ⟨c, after, rfl, opensScalar_digit hdigit⟩
  · refine ⟨'-', after, rfl, ?_⟩
    unfold OpensScalar OpensValue
    decide

/-- A float is scanned. -/
theorem scanScalar_float {x : PyFloat} (hx : x.ReadsBack) (h : ValueEnds rest) :
    (∃ c after, floatChars x = c :: after ∧ OpensScalar c) ∧
      scanScalar (floatChars x ++ rest) = some (.float x, rest) := by
  unfold OpensScalar OpensValue
  cases x with
  | nan => exact ⟨⟨'N', _, rfl, by decide⟩, rfl⟩
  | inf negative =>
      cases negative with
      | true => exact ⟨⟨'-', _, rfl, by decide⟩, rfl⟩
      | false => exact ⟨⟨'I', _, rfl, by decide⟩, rfl⟩
  | finite q => exact ⟨numeral_opens hx, scanScalar_numeral h hx⟩
  | negZero => exact ⟨numeral_opens hx, scanScalar_numeral h hx⟩

/-- A scalar that is no string is scanned at any level. -/
theorem scanOnce_scalar (fuel levels : Nat) {cs : List Char} {v : JsonValue}
    (hopens : ∃ c after, cs = c :: after ∧ OpensScalar c)
    (hscan : scanScalar (cs ++ rest) = some (v, rest)) :
    scanOnce (fuel + 1) levels (cs ++ rest) = some (v, rest) := by
  obtain ⟨c, after, rfl, -, hquote, hbrace, hbracket⟩ := hopens
  rw [scanOnce.eq_def]
  dsimp only [List.cons_append] at hscan ⊢
  rw [if_neg hquote, if_neg hbrace, if_neg hbracket]
  exact hscan

/-! ## Values are scanned -/

omit [PyRuntime] in
/-- The gap behind a comma or a colon is skipped. -/
theorem skipSpace_gap (spaced : Bool) {cs : List Char}
    (hopens : ∃ c after, cs = c :: after ∧ isJsonSpace c = false) :
    skipSpace (gap spaced ++ cs) = cs := by
  obtain ⟨c, after, rfl, hspace⟩ := hopens
  cases spaced with
  | false => exact skipSpace_cons hspace after
  | true => exact skipSpace_cons hspace after

/-- A value begins with no space and no closing bracket. -/
theorem jsonChars_opens (spaced : Bool) {v : Value} (hv : v.Writable) :
    ∃ c after, v.jsonChars spaced = c :: after ∧ OpensValue c := by
  cases v with
  | null => exact ⟨'n', _, rfl, by unfold OpensValue; decide⟩
  | bool b =>
      cases b with
      | true => exact ⟨'t', _, rfl, by unfold OpensValue; decide⟩
      | false => exact ⟨'f', _, rfl, by unfold OpensValue; decide⟩
  | int n =>
      obtain ⟨c, after, hcs, hopens, -⟩ := numeral_opens (scanNumber_int hv)
      exact ⟨c, after, hcs, hopens⟩
  | float x =>
      have hends : ValueEnds [] := .inl rfl
      obtain ⟨c, after, hcs, hopens, -⟩ := (scanScalar_float hv hends).1
      exact ⟨c, after, hcs, hopens⟩
  | str s => exact ⟨'"', _, rfl, by unfold OpensValue; decide⟩
  | list xs => exact ⟨'[', _, rfl, by unfold OpensValue; decide⟩
  | dict items => exact ⟨'\x7b', _, rfl, by unfold OpensValue; decide⟩

/-- What stands behind an element: the end of the list, or a comma and the other elements. -/
def behindElement (spaced : Bool) (vs : List Value) (rest : List Char) : List Char :=
  (if vs.isEmpty then [] else ',' :: gap spaced) ++ (elementsChars spaced vs ++ ']' :: rest)

/-- What stands behind the value of a member. -/
def behindMember (spaced : Bool) (items : List (String × Value)) (rest : List Char) : List Char :=
  (if items.isEmpty then [] else ',' :: gap spaced) ++ (itemsChars spaced items ++ '}' :: rest)

variable {spaced : Bool}

theorem behindElement_ends (vs : List Value) (rest : List Char) :
    ValueEnds (behindElement spaced vs rest) := by
  cases vs with
  | nil => exact valueEnds_cons (.inr (.inl rfl)) rest
  | cons v vs => exact valueEnds_cons (.inl rfl) _

theorem behindMember_ends (items : List (String × Value)) (rest : List Char) :
    ValueEnds (behindMember spaced items rest) := by
  cases items with
  | nil => exact valueEnds_cons (.inr (.inr rfl)) rest
  | cons item items => exact valueEnds_cons (.inl rfl) _

theorem elementsChars_cons (v : Value) (vs : List Value) (rest : List Char) :
    elementsChars spaced (v :: vs) ++ ']' :: rest =
      v.jsonChars spaced ++ behindElement spaced vs rest := by
  rw [elementsChars, behindElement, List.append_assoc, List.append_assoc]

theorem itemsChars_cons (key : String) (v : Value) (items : List (String × Value))
    (rest : List Char) :
    itemsChars spaced ((key, v) :: items) ++ '}' :: rest =
      '"' :: (key.toList.flatMap escapeChar ++ '"' :: (':' :: (gap spaced ++
        (v.jsonChars spaced ++ behindMember spaced items rest)))) := by
  simp [itemsChars, behindMember, quoted]

/-- The elements of a list begin like its first one. -/
theorem elements_opens (spaced : Bool) {vs : List Value} (hw : WritableElements vs) (hne : vs ≠ [])
    (rest : List Char) :
    ∃ c after, elementsChars spaced vs ++ ']' :: rest = c :: after ∧ OpensValue c := by
  cases vs with
  | nil => exact absurd rfl hne
  | cons v vs =>
      obtain ⟨c, after, hcs, hopens⟩ := jsonChars_opens spaced hw.1
      refine ⟨c, after ++ behindElement spaced vs rest, ?_, hopens⟩
      rw [elementsChars_cons, hcs]
      rfl

/-- One element, and then the others. -/
theorem scanElements_cons {fuel levels : Nat} {v : Value} {vs : List Value} {rest : List Char}
    (hw : WritableElements vs)
    (hvalue : scanOnce fuel levels (v.jsonChars spaced ++ behindElement spaced vs rest) =
      some (v.json, behindElement spaced vs rest))
    (hmore : vs ≠ [] → scanElements fuel levels (elementsChars spaced vs ++ ']' :: rest) =
      some (jsonElements vs, rest)) :
    scanElements (fuel + 1) levels (elementsChars spaced (v :: vs) ++ ']' :: rest) =
      some (jsonElements (v :: vs), rest) := by
  rw [elementsChars_cons, scanElements, hvalue, Option.bind_eq_bind, Option.bind_some]
  dsimp only
  by_cases hempty : vs = []
  · -- the last element is followed by the closing bracket
    subst hempty
    have hbehind : skipSpace (behindElement spaced [] rest) = ']' :: rest := rfl
    rw [hbehind]
    rfl
  · -- any other by a comma, and by the next one behind the gap
    obtain ⟨c, after, hcs, hopens⟩ := elements_opens spaced hw hempty rest
    have hbehind : skipSpace (behindElement spaced vs rest) =
        ',' :: (gap spaced ++ (elementsChars spaced vs ++ ']' :: rest)) := by
      rw [behindElement, if_neg (by simpa using hempty)]
      rfl
    rw [hbehind]
    dsimp only
    rw [if_neg (by decide), if_pos rfl, skipSpace_gap spaced ⟨c, after, hcs, hopens.1⟩,
      hmore hempty]
    rfl

/-- One member, and then the others. -/
theorem scanMembers_cons {fuel levels : Nat} {key : String} {v : Value}
    {items : List (String × Value)} {rest : List Char} (hv : v.Writable)
    (hvalue : scanOnce fuel levels (v.jsonChars spaced ++ behindMember spaced items rest) =
      some (v.json, behindMember spaced items rest))
    (hmore : items ≠ [] → scanMembers fuel levels (itemsChars spaced items ++ '}' :: rest) =
      some (jsonItems items, rest)) :
    scanMembers (fuel + 1) levels (itemsChars spaced ((key, v) :: items) ++ '}' :: rest) =
      some (jsonItems ((key, v) :: items), rest) := by
  obtain ⟨c, after, hcs, hopens⟩ := jsonChars_opens spaced hv
  -- the value is found behind the gap, for no value starts with a space
  have hgap : skipSpace (gap spaced ++ (v.jsonChars spaced ++ behindMember spaced items rest)) =
      v.jsonChars spaced ++ behindMember spaced items rest := by
    apply skipSpace_gap
    rw [hcs]
    exact ⟨c, _, rfl, hopens.1⟩
  have hcolon : ∀ text, skipSpace (':' :: text) = ':' :: text := fun _ => rfl
  have hquote : ∀ text : List Char, ¬('"' :: text).head? ≠ some '"' := fun _ hne => hne rfl
  -- the key is read as it was written
  rw [itemsChars_cons, scanMembers, if_neg (hquote _), List.drop_one, List.tail_cons,
    scanString_quoted, Option.bind_eq_bind, Option.bind_some]
  dsimp only
  rw [hcolon, if_neg (fun hne => hne rfl), List.drop_one, List.tail_cons, hgap, hvalue,
    Option.bind_eq_bind, Option.bind_some]
  dsimp only
  by_cases hempty : items = []
  · -- the last member is followed by the closing brace
    subst hempty
    have hbehind : skipSpace (behindMember spaced [] rest) = '}' :: rest := rfl
    rw [hbehind]
    rfl
  · -- any other by a comma, and by the quote of the next key behind the gap
    have hbehind : skipSpace (behindMember spaced items rest) =
        ',' :: (gap spaced ++ (itemsChars spaced items ++ '}' :: rest)) := by
      rw [behindMember, if_neg (by simpa using hempty)]
      rfl
    have hspace : skipSpace (gap spaced ++ (itemsChars spaced items ++ '}' :: rest)) =
        itemsChars spaced items ++ '}' :: rest := by
      apply skipSpace_gap
      cases items with
      | nil => exact absurd rfl hempty
      | cons item items => exact ⟨'"', _, itemsChars_cons item.1 item.2 items rest, rfl⟩
    rw [hbehind]
    dsimp only
    rw [if_neg (by decide), if_pos rfl, hspace, hmore hempty]
    rfl

theorem scanOnce_list {fuel levels : Nat} {xs : List Value} {rest : List Char}
    (hw : WritableElements xs)
    (helements : xs ≠ [] → scanElements fuel levels (elementsChars spaced xs ++ ']' :: rest) =
      some (jsonElements xs, rest)) :
    scanOnce (fuel + 1) (levels + 1) ((Value.list xs).jsonChars spaced ++ rest) =
      some ((Value.list xs).json, rest) := by
  have htext : (Value.list xs).jsonChars spaced ++ rest =
      '[' :: (elementsChars spaced xs ++ ']' :: rest) := by
    simp [Value.jsonChars]
  rw [htext, scanOnce.eq_def]
  dsimp only
  rw [if_neg (by decide), if_neg (by decide), if_pos rfl]
  by_cases hempty : xs = []
  · -- an empty list is closed at once
    subst hempty
    rfl
  · -- the first element does not start like the closing bracket
    obtain ⟨c, after, hcs, hspace, hbracket, -⟩ := elements_opens spaced hw hempty rest
    have hskip : skipSpace (elementsChars spaced xs ++ ']' :: rest) =
        elementsChars spaced xs ++ ']' :: rest := by
      rw [hcs]
      exact skipSpace_cons hspace after
    have hhead : ¬(elementsChars spaced xs ++ ']' :: rest).head? = some ']' := by
      rw [hcs]
      exact fun heq => hbracket (Option.some.inj heq)
    rw [hskip, if_neg hhead, helements hempty]
    rfl

omit [PyRuntime] in
/-- The keys of a dictionary are told apart when they are loaded. -/
theorem jsonItems_keys {items : List (String × Value)} (h : (items.map Prod.fst).Nodup) :
    ((jsonItems items).map Prod.fst).Nodup := by
  have hkeys : (jsonItems items).map Prod.fst = (items.map Prod.fst).map codePoints := by
    clear h
    induction items with
    | nil => rfl
    | cons item items ih =>
        obtain ⟨key, v⟩ := item
        rw [jsonItems, List.map_cons, List.map_cons, List.map_cons, ih]
  rw [hkeys]
  exact h.map codePoints_injective

omit [PyRuntime] in
/-- What a member of a dictionary is loaded as. -/
theorem mem_jsonItems {items : List (String × Value)} {key : String} {v : Value}
    (h : (key, v) ∈ items) : (codePoints key, v.json) ∈ jsonItems items := by
  induction items with
  | nil => cases h
  | cons item items ih =>
      rcases List.mem_cons.mp h with rfl | h
      · exact List.mem_cons_self
      · exact List.mem_cons_of_mem _ (ih h)

theorem scanOnce_dict {fuel levels : Nat} {items : List (String × Value)} {rest : List Char}
    (hkeys : (items.map Prod.fst).Nodup)
    (hmembers : items ≠ [] → scanMembers fuel levels (itemsChars spaced items ++ '}' :: rest) =
      some (jsonItems items, rest)) :
    scanOnce (fuel + 1) (levels + 1) ((Value.dict items).jsonChars spaced ++ rest) =
      some ((Value.dict items).json, rest) := by
  have htext : (Value.dict items).jsonChars spaced ++ rest =
      '{' :: (itemsChars spaced items ++ '}' :: rest) := by
    simp [Value.jsonChars]
  rw [htext, scanOnce.eq_def]
  dsimp only
  rw [if_neg (by decide), if_pos rfl]
  by_cases hempty : items = []
  · -- an empty object is closed at once
    subst hempty
    rfl
  · -- the first thing behind the brace is the quote of a key
    obtain ⟨text, hcs⟩ : ∃ text, itemsChars spaced items ++ '}' :: rest = '"' :: text := by
      cases items with
      | nil => exact absurd rfl hempty
      | cons item items => exact ⟨_, itemsChars_cons item.1 item.2 items rest⟩
    have hskip : skipSpace (itemsChars spaced items ++ '}' :: rest) =
        itemsChars spaced items ++ '}' :: rest := by
      rw [hcs]
      rfl
    have hhead : ¬(itemsChars spaced items ++ '}' :: rest).head? = some '}' := by
      rw [hcs]
      intro heq
      cases heq
    rw [hskip, if_neg hhead, hmembers hempty, Option.map_some]
    dsimp only
    rw [JsonDict.ofPairs_nodup (jsonItems_keys hkeys)]
    rfl

/-- The other elements are shorter than what the first one begins. -/
theorem length_behindElement (spaced : Bool) {vs : List Value} (hne : vs ≠ []) (rest : List Char) :
    (elementsChars spaced vs ++ ']' :: rest).length < (behindElement spaced vs rest).length := by
  rw [behindElement, if_neg (by simpa using hne)]
  generalize elementsChars spaced vs ++ ']' :: rest = behind
  simp only [List.length_append, List.length_cons]
  omega

theorem length_behindMember (spaced : Bool) {items : List (String × Value)} (hne : items ≠ []) (rest : List Char) :
    (itemsChars spaced items ++ '}' :: rest).length < (behindMember spaced items rest).length := by
  rw [behindMember, if_neg (by simpa using hne)]
  generalize itemsChars spaced items ++ '}' :: rest = behind
  simp only [List.length_append, List.length_cons]
  omega

mutual

/-- A dumped value is scanned, whatever follows it. -/
theorem scanOnce_value : ∀ (v : Value) {fuel levels : Nat} {rest : List Char}, v.Writable →
    v.depth ≤ levels → ValueEnds rest → 2 * (v.jsonChars spaced ++ rest).length < fuel →
    scanOnce fuel levels (v.jsonChars spaced ++ rest) = some (v.json, rest)
  | _, 0, _, _, _, _, _, hfuel => absurd hfuel (Nat.not_lt_zero _)
  -- the scalars, told by what they start with
  | .null, _ + 1, _, _, _, _, _, _ =>
      scanOnce_scalar _ _ ⟨'n', _, rfl, by unfold OpensScalar OpensValue; decide⟩ rfl
  | .bool true, _ + 1, _, _, _, _, _, _ =>
      scanOnce_scalar _ _ ⟨'t', _, rfl, by unfold OpensScalar OpensValue; decide⟩ rfl
  | .bool false, _ + 1, _, _, _, _, _, _ =>
      scanOnce_scalar _ _ ⟨'f', _, rfl, by unfold OpensScalar OpensValue; decide⟩ rfl
  | .int _, _ + 1, _, _, hw, _, hends, _ =>
      scanOnce_scalar _ _ (numeral_opens (scanNumber_int hw))
        (scanScalar_numeral hends (scanNumber_int hw))
  | .float _, _ + 1, _, _, hw, _, hends, _ =>
      scanOnce_scalar _ _ (scanScalar_float hw hends).1 (scanScalar_float hw hends).2
  | .str s, fuel + 1, levels, rest, _, _, _, _ => by
      show scanOnce (fuel + 1) levels ('"' :: s.toList.flatMap escapeChar ++ ['"'] ++ rest) = _
      rw [scanOnce.eq_def, List.append_assoc, List.cons_append]
      dsimp only
      rw [if_pos rfl, List.singleton_append, scanString_quoted]
      rfl
  | .list xs, fuel + 1, 0, rest, _, hdepth, _, _ => by
      -- a container has a level to itself
      rw [Value.depth] at hdepth
      omega
  | .list xs, fuel + 1, levels + 1, rest, hw, hdepth, _, hfuel => by
      apply scanOnce_list hw
      intro hne
      apply scanElements_values xs hne hw (by rw [Value.depth] at hdepth; omega)
      -- what is inside is two characters shorter, so the fuel lasts
      simp only [Value.jsonChars, List.length_append, List.length_cons, List.length_nil]
        at hfuel ⊢
      omega
  | .dict items, fuel + 1, 0, rest, _, hdepth, _, _ => by
      rw [Value.depth] at hdepth
      omega
  | .dict items, fuel + 1, levels + 1, rest, hw, hdepth, _, hfuel => by
      apply scanOnce_dict hw.1
      intro hne
      apply scanMembers_items items hne hw.2 (by rw [Value.depth] at hdepth; omega)
      simp only [Value.jsonChars, List.length_append, List.length_cons, List.length_nil]
        at hfuel ⊢
      omega

theorem scanElements_values : ∀ (vs : List Value) {fuel levels : Nat} {rest : List Char}, vs ≠ [] →
    WritableElements vs → elementsDepth vs ≤ levels →
    2 * (elementsChars spaced vs ++ ']' :: rest).length + 1 < fuel →
    scanElements fuel levels (elementsChars spaced vs ++ ']' :: rest) =
      some (jsonElements vs, rest)
  | [], _, _, _, hne, _, _, _ => absurd rfl hne
  | _ :: _, 0, _, _, _, _, _, hfuel => absurd hfuel (Nat.not_lt_zero _)
  | v :: vs, fuel + 1, levels, rest, _, hw, hdepth, hfuel => by
      obtain ⟨hfirst, hothers⟩ := max_le_iff.mp hdepth
      obtain ⟨c, after, hcs, _⟩ := jsonChars_opens spaced hw.1
      rw [elementsChars_cons] at hfuel
      apply scanElements_cons hw.2
      · exact scanOnce_value v hw.1 hfirst (behindElement_ends vs rest) (by omega)
      · intro hne
        have hshorter := length_behindElement spaced hne rest
        rw [List.length_append, hcs, List.length_cons] at hfuel
        exact scanElements_values vs hne hw.2 hothers (by omega)

theorem scanMembers_items : ∀ (items : List (String × Value)) {fuel levels : Nat}
    {rest : List Char}, items ≠ [] → WritableItems items → itemsDepth items ≤ levels →
    2 * (itemsChars spaced items ++ '}' :: rest).length + 1 < fuel →
    scanMembers fuel levels (itemsChars spaced items ++ '}' :: rest) = some (jsonItems items, rest)
  | [], _, _, _, hne, _, _, _ => absurd rfl hne
  | _ :: _, 0, _, _, _, _, _, hfuel => absurd hfuel (Nat.not_lt_zero _)
  | (key, v) :: items, fuel + 1, levels, rest, _, hw, hdepth, hfuel => by
      obtain ⟨hfirst, hothers⟩ := max_le_iff.mp hdepth
      rw [itemsChars_cons] at hfuel
      simp only [List.length_cons, List.length_append] at hfuel
      apply scanMembers_cons hw.1
      · apply scanOnce_value v hw.1 hfirst (behindMember_ends items rest)
        rw [List.length_append]
        omega
      · intro hne
        have hshorter := length_behindMember spaced hne rest
        exact scanMembers_items items hne hw.2 hothers (by omega)

end

/-! ## The document is loaded -/

/-- A value written as it comes is loaded. -/
theorem loads_jsonChars [RecursionLimit] {v : Value} (hw : v.Writable)
    (hdepth : v.depth ≤ RecursionLimit.levels) : loads (v.jsonChars spaced) = some v.json := by
  obtain ⟨c, after, hcs, hspace, -, hfirst⟩ := jsonChars_opens spaced hw
  have hmark : ¬(v.jsonChars spaced).head? = some '\ufeff' := by
    rw [hcs]
    exact fun heq => hfirst (Option.some.inj heq)
  have hskip : skipSpace (v.jsonChars spaced) = v.jsonChars spaced := by
    rw [hcs]
    exact skipSpace_cons hspace after
  have hends : ValueEnds [] := .inl rfl
  have hscan : scanOnce (2 * (v.jsonChars spaced ++ []).length + 1) RecursionLimit.levels
      (v.jsonChars spaced ++ []) = some (v.json, []) :=
    scanOnce_value v hw hdepth hends (Nat.lt_succ_self _)
  rw [List.append_nil] at hscan
  unfold loads
  rw [if_neg hmark, hskip, hscan]
  rfl

omit [PyRuntime] in
theorem sortedItems_keys (items : List (String × Value)) :
    (Value.sortedItems items).map Prod.fst = items.map Prod.fst := by
  induction items with
  | nil => rfl
  | cons item items ih =>
      obtain ⟨key, v⟩ := item
      rw [Value.sortedItems, List.map_cons, List.map_cons, ih]

mutual

/-- Sorted members can be written where the members can. -/
theorem sorted_writable : ∀ (v : Value), v.Writable → v.sorted.Writable
  | .null, h | .bool _, h | .int _, h | .float _, h | .str _, h => h
  | .list xs, h => sortedList_writable xs h
  | .dict items, h => by
      have hitems := sortedItems_writable items h.2
      have hkeys : ((Lib.sortOn Prod.fst (Value.sortedItems items)).map Prod.fst).Nodup := by
        rw [((Lib.perm_sortOn Prod.fst (Value.sortedItems items)).map Prod.fst).nodup_iff,
          sortedItems_keys]
        exact h.1
      refine ⟨hkeys, writableItems_iff.mpr ?_⟩
      intro item hitem
      exact writableItems_iff.mp hitems item (Lib.mem_sortOn.mp hitem)

theorem sortedList_writable : ∀ (xs : List Value), WritableElements xs →
    WritableElements (Value.sortedList xs)
  | [], h => h
  | v :: vs, h => ⟨sorted_writable v h.1, sortedList_writable vs h.2⟩

theorem sortedItems_writable : ∀ (items : List (String × Value)), WritableItems items →
    WritableItems (Value.sortedItems items)
  | [], h => h
  | (_, v) :: items, h => ⟨sorted_writable v h.1, sortedItems_writable items h.2⟩

end

/-- What was dumped, with any separators, its keys in order or as they came, is loaded. -/
theorem loads_jsonDumps [RecursionLimit] (style : JsonStyle) {v : Value} (hw : v.Writable)
    (hdepth : v.depth ≤ RecursionLimit.levels) :
    loads (jsonDumps style v).toList = some (style.order v).json := by
  have hordered : (style.order v).Writable ∧ (style.order v).depth ≤ RecursionLimit.levels := by
    unfold JsonStyle.order
    split
    · exact ⟨sorted_writable v hw, sorted_depth v hdepth⟩
    · exact ⟨hw, hdepth⟩
  unfold jsonDumps
  rw [String.toList_ofList]
  exact loads_jsonChars hordered.1 hordered.2

/-- Two values have one canonical text exactly when they are equal up to the order of members. -/
theorem canonical_text_iff {a b : Value} (ha : a.Writable) (hb : b.Writable) (spaced : Bool) :
    jsonDumps ⟨spaced, true⟩ a = jsonDumps ⟨spaced, true⟩ b ↔ SameJson a b := by
  unfold jsonDumps JsonStyle.order
  rw [if_pos rfl, if_pos rfl]
  constructor
  · intro htext
    have hchars : a.sorted.jsonChars spaced = b.sorted.jsonChars spaced :=
      String.ofList_injective htext
    -- a decoder that nests deep enough reads both texts
    let limit : RecursionLimit := ⟨max a.depth b.depth + 1, Nat.succ_pos _⟩
    have hloaded : loads (a.sorted.jsonChars spaced) = some a.sorted.json :=
      loads_jsonChars (sorted_writable a ha)
        (sorted_depth a (Nat.le_succ_of_le (le_max_left _ _)))
    have hloaded' : loads (b.sorted.jsonChars spaced) = some b.sorted.json :=
      loads_jsonChars (sorted_writable b hb)
        (sorted_depth b (Nat.le_succ_of_le (le_max_right _ _)))
    rw [hchars] at hloaded
    exact Value.json_injective (Option.some.inj (hloaded.symm.trans hloaded'))
  · intro hsame
    rw [hsame]

end Loaded

section Concrete

attribute [local instance] plainRuntime

@[reducible] def twoLevels : RecursionLimit := ⟨2, Nat.succ_pos 1⟩

attribute [local instance] twoLevels

/-- Conditions on the owner and the amount. -/
def ownerConditions : Value := .dict [("owner_only", .bool true), ("max_amount", .int (-1))]

/-- The same conditions, written in the other order. -/
def amountConditions : Value := .dict [("max_amount", .int (-1)), ("owner_only", .bool true)]

theorem ownerConditions_writable : ownerConditions.Writable := by
  have hkeys : ["owner_only", "max_amount"].Nodup := by decide
  have hshort : (Nat.toDigits 10 1).length ≤ 4300 := by decide
  exact ⟨hkeys, trivial, hshort, trivial⟩

theorem amountConditions_writable : amountConditions.Writable := by
  have hkeys : ["max_amount", "owner_only"].Nodup := by decide
  have hshort : (Nat.toDigits 10 1).length ≤ 4300 := by decide
  exact ⟨hkeys, hshort, trivial, trivial⟩

/-- The conditions are loaded with their keys in order. -/
theorem conditions_loaded :
    loads (jsonDumps ⟨false, true⟩ ownerConditions).toList =
      some (JsonStyle.order ⟨false, true⟩ ownerConditions).json :=
  loads_jsonDumps ⟨false, true⟩ ownerConditions_writable (by decide)

/-- The order of the conditions is not in the canonical text. -/
theorem swapped_conditions_text :
    jsonDumps ⟨false, true⟩ ownerConditions = jsonDumps ⟨false, true⟩ amountConditions := by
  apply (canonical_text_iff ownerConditions_writable amountConditions_writable false).mpr
  unfold SameJson
  decide +kernel

end Concrete

end KeyNetra
