import Mathlib.Algebra.Group.Nat.Defs
import Mathlib.Data.Rat.Defs
import Mathlib.Algebra.Order.Ring.Unbundled.Rat

/-!
# KeyNetra.Py.Value — the Python values the program handles

Requests, policies and cache payloads are JSON-shaped Python values. A `dict`
is its item list in insertion order (keys are strings, as in JSON), so a
policy's conditions are visited in the order the code visits them.

Library routines with intricate text formats, `repr` of floats and containers
and `float`/`int` of a text, are fields of the class `PyRuntime`, and so are
the Unicode decimal digits and the digest of a canonical JSON text: every
result below holds whatever they return.
-/

namespace KeyNetra

/-- The exceptions the modelled code can raise, with their messages. -/
inductive PyError where
  | typeError (message : String)
  | valueError (message : String)
  | overflowError (message : String)
  | attributeValidationError (message : String)
  | keyError (message : String)
  | recursionError (message : String)
  | integrityError
  | invalidRequestError (message : String)
deriving DecidableEq, Repr

/-- `str(exc)`. -/
def PyError.message : PyError → String
  | .typeError m | .valueError m | .overflowError m | .attributeValidationError m
  | .keyError m | .recursionError m | .invalidRequestError m => m
  | .integrityError => "integrity error"

/-- A Python float: a finite double stands for its exact value. -/
inductive PyFloat where
  | finite (q : ℚ)
  | negZero
  | inf (negative : Bool)
  | nan
deriving DecidableEq, Repr

/-- `a <= b` on floats. -/
def PyFloat.le : PyFloat → PyFloat → Bool
  | .nan, _ | _, .nan => false
  | .inf true, _ | _, .inf false => true
  | .inf false, _ | _, .inf true => false
  | .negZero, b => PyFloat.le.finite 0 b
  | .finite p, b => PyFloat.le.finite p b
where
  /-- The comparison of a finite number with a finite number. -/
  finite (p : ℚ) : PyFloat → Bool
    | .finite q => decide (p ≤ q)
    | _ => decide (p ≤ 0)

/-- A JSON-shaped Python value. -/
inductive Value where
  | null
  | bool (b : Bool)
  | int (n : Int)
  | float (x : PyFloat)
  | str (s : String)
  | list (xs : List Value)
  | dict (items : List (String × Value))

/-- A dictionary with string keys, as its items in insertion order. -/
abbrev Assoc (α : Type) := List (String × α)

/-- A JSON object. -/
abbrev Dict := Assoc Value

/-! ## Dictionaries -/

section Assoc

variable {α : Type}

/-- The entry of `key`, if the dictionary has one. -/
def Assoc.get? : Assoc α → String → Option α
  | [], _ => none
  | (k, v) :: rest, key => if k = key then some v else Assoc.get? rest key

/-- `key in d`. -/
def Assoc.contains (d : Assoc α) (key : String) : Bool := (d.get? key).isSome

/-- `d[key] = v`: an existing key keeps its place. -/
def Assoc.set : Assoc α → String → α → Assoc α
  | [], key, v => [(key, v)]
  | (k, w) :: rest, key, v =>
      if k = key then (k, v) :: rest else (k, w) :: Assoc.set rest key v

/-- `d.setdefault(key, v)`. -/
def Assoc.setDefault (d : Assoc α) (key : String) (v : α) : Assoc α :=
  if d.contains key then d else d ++ [(key, v)]

@[simp] theorem Assoc.get?_nil (key : String) : Assoc.get? ([] : Assoc α) key = none := rfl

@[simp] theorem Assoc.get?_cons (k key : String) (v : α) (rest : Assoc α) :
    Assoc.get? ((k, v) :: rest) key = if k = key then some v else rest.get? key := rfl

@[simp] theorem Assoc.get?_set_self (d : Assoc α) (key : String) (v : α) :
    (d.set key v).get? key = some v := by
  induction d with
  | nil => simp [Assoc.set]
  | cons item rest ih =>
      obtain ⟨k, w⟩ := item
      by_cases h : k = key
      · simp [Assoc.set, h]
      · simp [Assoc.set, h, ih]

@[simp] theorem Assoc.get?_set_ne (d : Assoc α) {key other : String} (v : α)
    (h : other ≠ key) : (d.set key v).get? other = d.get? other := by
  induction d with
  | nil => simp [Assoc.set, h.symm]
  | cons item rest ih =>
      obtain ⟨k, w⟩ := item
      by_cases hk : k = key
      · subst hk
        simp [Assoc.set, h.symm]
      · simp [Assoc.set, hk, ih]

/-- A key found in the dictionary is the key of one of its items. -/
theorem Assoc.mem_of_get? {d : Assoc α} {key : String} {v : α} (h : d.get? key = some v) :
    (key, v) ∈ d := by
  induction d with
  | nil => simp at h
  | cons item rest ih =>
      obtain ⟨k, w⟩ := item
      rw [Assoc.get?_cons] at h
      split at h
      · rename_i hk
        cases h
        subst hk
        exact List.mem_cons_self
      · exact List.mem_cons_of_mem _ (ih h)

end Assoc

/-- `d.get(key)`: `None` when the key is missing. -/
def Dict.get (d : Dict) (key : String) : Value := (d.get? key).getD .null

/-- `d.get(key, default)`. -/
def Dict.getD (d : Dict) (key : String) (default : Value) : Value := (d.get? key).getD default

@[simp] theorem Dict.get_set_self (d : Dict) (key : String) (v : Value) :
    Dict.get (d.set key v) key = v := by simp [Dict.get]

@[simp] theorem Dict.get_set_ne (d : Dict) {key other : String} (v : Value)
    (h : other ≠ key) : Dict.get (d.set key v) other = Dict.get d other := by
  simp [Dict.get, h]

/-! ## Truth, text and equality -/

/-- `bool(v)`. -/
def Value.truthy : Value → Bool
  | .null => false
  | .bool b => b
  | .int n => n != 0
  | .float x => x != .finite 0 && x != .negZero
  | .str s => s != ""
  | .list xs => !xs.isEmpty
  | .dict items => !items.isEmpty

/-- `a or b`. -/
def Value.pyOr (a b : Value) : Value := if a.truthy then a else b

/-- The library routines taken as parameters. -/
class PyRuntime where
  /-- `repr` of a float, a list or a dict. -/
  repr : Value → String
  /-- `float(text)`; `none` is the `ValueError`. -/
  floatOfStr : String → Option PyFloat
  /-- `int(text)`; `none` is the `ValueError`. -/
  intOfStr : String → Option Int
  /-- The value of a decimal digit character (what `\d` matches). -/
  decimal : Char → Option Nat
  /-- `sha256(json.dumps(value, sort_keys=True, ...)).hexdigest()`. -/
  digest : Value → String

/-- A runtime for concrete runs over plain ASCII data without floats. -/
@[reducible] def plainRuntime : PyRuntime where
  repr _ := "{}"
  floatOfStr _ := none
  intOfStr := String.toInt?
  decimal c := if c.isDigit then some (c.toNat - '0'.toNat) else none
  digest _ := ""

/-- `str(v)`. -/
def Value.text [PyRuntime] : Value → String
  | .null => "None"
  | .bool true => "True"
  | .bool false => "False"
  | .int n => toString n
  | .str s => s
  | v => PyRuntime.repr v

/-- The number a value stands for under `==`, when it is a number. -/
def Value.number? : Value → Option PyFloat
  | .bool b => some (.finite (if b then 1 else 0))
  | .int n => some (.finite n)
  | .float .negZero => some (.finite 0)
  | .float x => some x
  | _ => none

/-- `a == b` of two numbers (`nan` equals nothing). -/
def numberEq : Option PyFloat → Option PyFloat → Bool
  | some .nan, _ => false
  | some x, some y => decide (x = y)
  | _, _ => false

mutual

/-- `a == b`. -/
def Value.eq : Value → Value → Bool
  | .null, .null => true
  | .str s, .str t => decide (s = t)
  | .list xs, .list ys => Value.eqList xs ys
  | .dict xs, .dict ys => xs.length == ys.length && Value.eqItems xs ys
  | a, b => numberEq a.number? b.number?

/-- Elementwise `==` of two lists. -/
def Value.eqList : List Value → List Value → Bool
  | [], [] => true
  | x :: xs, y :: ys => Value.eq x y && Value.eqList xs ys
  | _, _ => false

/-- Every item of the first dictionary is in the second. -/
def Value.eqItems : List (String × Value) → List (String × Value) → Bool
  | [], _ => true
  | (k, v) :: rest, ys =>
      (match Assoc.get? ys k with
        | some w => Value.eq v w
        | none => false) && Value.eqItems rest ys

end

/-- `d.get(key)` with a key that need not be a text: the keys of `d` are texts,
and a list or a dict cannot be hashed. -/
def Dict.getValue (d : Dict) : Value → Except PyError Value
  | .str key => .ok (Dict.get d key)
  | .list _ => .error (.typeError "unhashable type: 'list'")
  | .dict _ => .error (.typeError "unhashable type: 'dict'")
  | _ => .ok .null

/-- `v in xs`. -/
def Value.isIn (v : Value) (xs : List Value) : Bool := xs.any fun x => Value.eq x v

@[simp] theorem Value.eq_str (s t : String) : Value.eq (.str s) (.str t) = decide (s = t) := by
  simp [Value.eq]

@[simp] theorem Value.text_str [PyRuntime] (s : String) : (Value.str s).text = s := rfl

@[simp] theorem Value.text_int [PyRuntime] (n : Int) : (Value.int n).text = toString n := rfl

/-! ## Conversions -/

/-- `float(n)` of an integer: round to 53 bits, ties to even; too large overflows. -/
def floatOfInt (n : Int) : Option PyFloat :=
  let a := n.natAbs
  let shift := a.log2 + 1 - 53
  let q := a >>> shift
  let r := a % 2 ^ shift
  let rounded :=
    if shift = 0 then a
    else if 2 ^ (shift - 1) < r ∨ (2 ^ (shift - 1) = r ∧ q % 2 = 1) then (q + 1) * 2 ^ shift
    else q * 2 ^ shift
  if 2 ^ 1024 ≤ rounded then none
  else some (.finite (if n < 0 then -(rounded : ℚ) else rounded))

/-- `float(v)`. -/
def Value.toFloat [PyRuntime] : Value → Except PyError PyFloat
  | .bool b => .ok (.finite (if b then 1 else 0))
  | .int n =>
      match floatOfInt n with
      | some x => .ok x
      | none => .error (.overflowError "int too large to convert to float")
  | .float x => .ok x
  | .str s =>
      match PyRuntime.floatOfStr s with
      | some x => .ok x
      | none => .error (.valueError "could not convert string to float")
  | _ => .error (.typeError "float() argument must be a string or a real number")

/-- `int(v)`. -/
def Value.toInt [PyRuntime] : Value → Except PyError Int
  | .bool b => .ok (if b then 1 else 0)
  | .int n => .ok n
  | .float (.finite q) => .ok (q.num.tdiv q.den)
  | .float .negZero => .ok 0
  | .float (.inf _) => .error (.overflowError "cannot convert float infinity to integer")
  | .float .nan => .error (.valueError "cannot convert float NaN to integer")
  | .str s =>
      match PyRuntime.intOfStr s with
      | some n => .ok n
      | none => .error (.valueError "invalid literal for int() with base 10")
  | _ => .error (.typeError "int() argument must be a string or a real number")

/-- `isinstance(v, int)`: a bool is an int. -/
def Value.int? : Value → Option Int
  | .int n => some n
  | .bool b => some (if b then 1 else 0)
  | _ => none

/-- `reason or text`. -/
def orText (reason : Option String) (text : String) : String :=
  match reason with
  | none => text
  | some r => if r = "" then text else r

/-- `None` or a text, as a value. -/
def Value.ofOption : Option String → Value
  | some s => .str s
  | none => .null

/-- `v if v is None else str(v)`. -/
def Value.optText [PyRuntime] : Value → Option String
  | .null => none
  | v => some v.text

@[simp] theorem Value.optText_ofOption [PyRuntime] (s : Option String) :
    (Value.ofOption s).optText = s := by
  cases s <;> rfl

/-! ## Texts -/

/-- The characters `str.strip` removes. -/
def isPySpace (c : Char) : Bool :=
  let n := c.toNat
  (9 ≤ n && n ≤ 13) || (28 ≤ n && n ≤ 32) || n == 0x85 || n == 0xA0 || n == 0x1680 ||
    (0x2000 ≤ n && n ≤ 0x200A) || n == 0x2028 || n == 0x2029 || n == 0x202F ||
    n == 0x205F || n == 0x3000

/-- `s.strip()`. -/
def pyStrip (s : String) : String :=
  String.ofList (((s.toList.dropWhile isPySpace).reverse.dropWhile isPySpace).reverse)

/-- `s.lower()`, on the ASCII letters: the results are only compared with ASCII words. -/
def pyLower (s : String) : String := String.ofList (s.toList.map Char.toLower)

end KeyNetra
