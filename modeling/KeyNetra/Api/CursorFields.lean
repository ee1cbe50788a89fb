import KeyNetra.Api.Cursor
import KeyNetra.Lib.Fallible
import Mathlib.Data.Prod.Lex
import Mathlib.Order.OrderDual

/-!
# KeyNetra.Api.CursorFields — what the listings read of a cursor

The listings index the decoded object and convert its fields; what comes of that is bound to a query
and sent by the driver. Each of these steps can raise, and nothing but the decoding catches it.

* `ListingError` — what a listing raises;
* `Driver`, `Timestamps`, `Collation` — the driver, the timestamps and the order of texts;
* `JsonDict.int` / `JsonDict.text` / `JsonDict.time` — the conversions of a field;
* `HasInt` / `HasText` / `HasTime` — the field is there, converts, and the driver takes it.
-/

namespace KeyNetra

/-! ## Errors -/

/-- What the driver raises on a value: an error of the database interface comes wrapped as an
`SQLAlchemyError`, any other as it is. -/
inductive DriverError where
  | wrapped
  | unwrapped
deriving DecidableEq, Repr

/-- What a listing raises. -/
inductive ListingError where
  | api (error : ApiError)
  | raised (error : PyError)
  | recursionError
  | driver (error : DriverError)
deriving DecidableEq, Repr

/-! ## The database -/

/-- The text columns that a listing orders by. -/
inductive TextColumn where
  | relation
  | objectType
  | objectId
  | roleName
  | permissionAction
deriving DecidableEq, Repr

/-- The order in which the database compares the texts of each column. -/
class Collation where
  order : TextColumn → LinearOrder String

/-- A text, in the order of a column. -/
structure DbText (column : TextColumn) where
  text : String

theorem DbText.text_injective (column : TextColumn) :
    Function.Injective fun x : DbText column => x.text := by
  rintro ⟨a⟩ ⟨b⟩ rfl
  rfl

instance [Collation] (column : TextColumn) : LinearOrder (DbText column) :=
  @LinearOrder.lift' _ _ (Collation.order column) (fun x => x.text)
    (DbText.text_injective column)

/-- What the driver sends of the values bound to a query. -/
class Driver where
  int : Int → Except DriverError Int
  text : PyText → Except DriverError String

/-- The timestamps of a column: their order in the database, the two conversions of `datetime`, of
which `none` is the `ValueError`, and what the driver sends. -/
class Timestamps (δ : Type) extends LinearOrder δ where
  isoformat : δ → String
  fromisoformat : PyText → Option δ
  sent : δ → Except DriverError δ
  roundTrip : ∀ t, fromisoformat (codePoints (isoformat t)) = some t

/-! ## Conversions -/

/-- `str` of a list or an object; `none` when it nests too deeply. -/
class ContainerText where
  text : JsonValue → Option PyText

/-- No half of a surrogate pair stands alone. -/
def wellFormed (text : PyText) : Bool :=
  text.all fun unit => unit < 0xD800 || (0xDFFF < unit && unit < 0x110000)

section Conversions

variable [PyRuntime] [ContainerText]

/-- `int(v)`. -/
def JsonValue.toInt : JsonValue → Except PyError Int
  | .null => Value.null.toInt
  | .bool b => (Value.bool b).toInt
  | .int n => (Value.int n).toInt
  | .float x => (Value.float x).toInt
  | .str text =>
      if wellFormed text then (Value.str (String.ofList (text.map Char.ofNat))).toInt
      else .error (.valueError "invalid literal for int() with base 10")
  | .list _ => (Value.list []).toInt
  | .dict _ => (Value.dict []).toInt

/-- `str(v)`. -/
def JsonValue.text : JsonValue → Except ListingError PyText
  | .null => .ok (codePoints Value.null.text)
  | .bool b => .ok (codePoints (Value.bool b).text)
  | .int n => .ok (codePoints (Value.int n).text)
  | .float x => .ok (codePoints (Value.float x).text)
  | .str text => .ok text
  | v =>
      match ContainerText.text v with
      | some text => .ok text
      | none => .error .recursionError

/-- `cursor[key]`. -/
def JsonDict.item (d : JsonDict) (key : String) : Except ListingError JsonValue :=
  match d.get? (codePoints key) with
  | some v => .ok v
  | none => .error (.raised (.keyError key))

/-- `int(cursor[key])`. -/
def JsonDict.int (d : JsonDict) (key : String) : Except ListingError Int := do
  let v ← d.item key
  v.toInt.mapError .raised

/-- `str(cursor[key])`. -/
def JsonDict.text (d : JsonDict) (key : String) : Except ListingError PyText := do
  let v ← d.item key
  v.text

section Time

variable {δ : Type} [Timestamps δ]

/-- `datetime.fromisoformat(str(cursor[key]))`. -/
def JsonDict.time (d : JsonDict) (key : String) : Except ListingError δ := do
  let text ← d.text key
  match Timestamps.fromisoformat text with
  | some t => .ok t
  | none => .error (.raised (.valueError "Invalid isoformat string"))

def sentTime (t : δ) : Except ListingError δ := (Timestamps.sent t).mapError .driver

end Time

end Conversions

def sentInt [Driver] (n : Int) : Except ListingError Int := (Driver.int n).mapError .driver

def sentText [Driver] (text : PyText) : Except ListingError String := (Driver.text text).mapError .driver

/-! ## Fields that a listing can use -/

section Usable

variable [PyRuntime]

/-- The field converts to an integer that the driver takes. -/
def HasInt [Driver] (d : JsonDict) (key : String) : Prop :=
  ∃ v n sent, d.get? (codePoints key) = some v ∧ v.toInt = .ok n ∧ Driver.int n = .ok sent

/-- The field converts to a text that the driver takes. -/
def HasText [ContainerText] [Driver] (d : JsonDict) (key : String) : Prop :=
  ∃ v text sent, d.get? (codePoints key) = some v ∧ v.text = .ok text ∧ Driver.text text = .ok sent

/-- The field converts to a timestamp that the driver takes. -/
def HasTime [ContainerText] (δ : Type) [Timestamps δ] (d : JsonDict) (key : String) : Prop :=
  ∃ v text, ∃ t sent : δ, d.get? (codePoints key) = some v ∧ v.text = .ok text ∧
    Timestamps.fromisoformat text = some t ∧ Timestamps.sent t = .ok sent

end Usable

/-! ## Conversions that return -/

theorem mapError_ok {ε ε' α : Type} {x : Except ε α} {f : ε → ε'} {a : α} :
    x.mapError f = .ok a ↔ x = .ok a := by
  cases x with
  | error e =>
      constructor
      · intro h
        cases h
      · intro h
        cases h
  | ok b => exact ⟨fun h => by cases h; rfl, fun h => by cases h; rfl⟩

theorem item_ok {d : JsonDict} {key : String} {v : JsonValue} :
    d.item key = .ok v ↔ d.get? (codePoints key) = some v := by
  unfold JsonDict.item
  cases d.get? (codePoints key) with
  | none =>
      constructor
      · intro h
        cases h
      · intro h
        cases h
  | some w => exact ⟨fun h => by cases h; rfl, fun h => by cases h; rfl⟩

section Returns

variable [PyRuntime]

theorem int_ok {d : JsonDict} {key : String} {n : Int} :
    d.int key = .ok n ↔ ∃ v, d.get? (codePoints key) = some v ∧ v.toInt = .ok n := by
  unfold JsonDict.int
  simp only [Lib.bind_eq_ok, item_ok, mapError_ok]

/-- A written integer is read back. -/
theorem int_written {d : JsonDict} {key : String} {n : Int}
    (h : d.get? (codePoints key) = some (JsonField.int n).value) : d.int key = .ok n :=
  int_ok.mpr ⟨_, h, rfl⟩

theorem hasInt_iff [Driver] {d : JsonDict} {key : String} :
    HasInt d key ↔ ∃ n sent, d.int key = .ok n ∧ sentInt n = .ok sent := by
  unfold HasInt sentInt
  simp only [int_ok, mapError_ok]
  constructor
  · rintro ⟨v, n, sent, hv, hn, hsent⟩
    exact ⟨n, sent, ⟨v, hv, hn⟩, hsent⟩
  · rintro ⟨n, sent, ⟨v, hv, hn⟩, hsent⟩
    exact ⟨v, n, sent, hv, hn, hsent⟩

variable [ContainerText]

theorem text_ok {d : JsonDict} {key : String} {text : PyText} :
    d.text key = .ok text ↔ ∃ v, d.get? (codePoints key) = some v ∧ v.text = .ok text := by
  unfold JsonDict.text
  simp only [Lib.bind_eq_ok, item_ok]

theorem time_ok {δ : Type} [Timestamps δ] {d : JsonDict} {key : String} {t : δ} :
    d.time key = .ok t ↔
      ∃ v text, d.get? (codePoints key) = some v ∧ v.text = .ok text ∧
        Timestamps.fromisoformat text = some t := by
  unfold JsonDict.time
  rw [Lib.bind_eq_ok]
  constructor
  · rintro ⟨text, htext, hparsed⟩
    obtain ⟨v, hv, hvtext⟩ := text_ok.mp htext
    refine ⟨v, text, hv, hvtext, ?_⟩
    split at hparsed
    · rename_i t' ht
      cases hparsed
      exact ht
    · cases hparsed
  · rintro ⟨v, text, hv, hvtext, hparsed⟩
    refine ⟨text, text_ok.mpr ⟨v, hv, hvtext⟩, ?_⟩
    rw [hparsed]

theorem hasText_iff [Driver] {d : JsonDict} {key : String} :
    HasText d key ↔ ∃ text sent, d.text key = .ok text ∧ sentText text = .ok sent := by
  unfold HasText sentText
  simp only [text_ok, mapError_ok]
  constructor
  · rintro ⟨v, text, sent, hv, htext, hsent⟩
    exact ⟨text, sent, ⟨v, hv, htext⟩, hsent⟩
  · rintro ⟨text, sent, ⟨v, hv, htext⟩, hsent⟩
    exact ⟨v, text, sent, hv, htext, hsent⟩

theorem hasTime_iff {δ : Type} [Timestamps δ] {d : JsonDict} {key : String} :
    HasTime δ d key ↔ ∃ t sent : δ, d.time key = .ok t ∧ sentTime t = .ok sent := by
  unfold HasTime sentTime
  simp only [time_ok, mapError_ok]
  constructor
  · rintro ⟨v, text, t, sent, hv, htext, ht, hsent⟩
    exact ⟨t, sent, ⟨v, text, hv, htext, ht⟩, hsent⟩
  · rintro ⟨t, sent, ⟨v, text, hv, htext, ht⟩, hsent⟩
    exact ⟨v, text, t, sent, hv, htext, ht, hsent⟩

/-! ## Fields that a listing has written -/

/-- The driver takes the integer, and it is one that a column holds. -/
def TakesInt [Driver] (n : Int) : Prop := FitsInteger n ∧ Driver.int n = .ok n

/-- The driver takes the text, and sends it as it is. -/
def TakesText [Driver] (s : String) : Prop := Driver.text (codePoints s) = .ok s

theorem text_written {d : JsonDict} {key s : String}
    (h : d.get? (codePoints key) = some (JsonField.text s).value) :
    d.text key = .ok (codePoints s) :=
  text_ok.mpr ⟨_, h, rfl⟩

theorem time_written {δ : Type} [Timestamps δ] {d : JsonDict} {key : String} {t : δ}
    (h : d.get? (codePoints key) = some (JsonField.text (Timestamps.isoformat t)).value) :
    d.time key = .ok t :=
  time_ok.mpr ⟨_, _, h, rfl, Timestamps.roundTrip t⟩

end Returns

end KeyNetra
