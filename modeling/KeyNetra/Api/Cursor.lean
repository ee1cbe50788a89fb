import KeyNetra.Config.AdminAuth
import KeyNetra.Lib.Base64
import KeyNetra.Py.JsonRoundTrip

/-!
# KeyNetra.Api.Cursor — the cursors of the listings

A cursor is the base64 of the JSON text of an object. The decoder of the API answers any failure of
the domain's decoder with a validation error, and leaves the fields of the object unread.

* `encodeCursor` — the writer;
* `domainDecodeCursor` / `decodeCursor` — the readers;
* `decode_encode` — a cursor that was written is read back as an object with the same fields.
-/

namespace KeyNetra

/-! ## The codec -/

/-- A value of a payload. -/
inductive JsonField where
  | text (s : String)
  | int (n : Int)
deriving DecidableEq, Repr

/-- The value that is dumped. -/
def JsonField.toValue : JsonField → Value
  | .text s => .str s
  | .int n => .int n

/-- The value that it is read back as. -/
def JsonField.value (field : JsonField) : JsonValue := field.toValue.json

def JsonField.Fits : JsonField → Prop
  | .text _ => True
  | .int n => FitsInteger n

/-- The members of a payload. -/
def payloadItems (payload : Assoc JsonField) : List (String × Value) :=
  payload.map fun item => (item.1, item.2.toValue)

/-- `raw.decode("utf-8")`; `none` is its error. -/
def utf8Text? (raw : List UInt8) : Option String := String.fromUTF8? ⟨raw.toArray⟩

variable [PyRuntime]

/-- `json.dumps(payload, separators=(",", ":"), sort_keys=True)`. -/
def dumps (payload : Assoc JsonField) : String :=
  jsonDumps ⟨false, true⟩ (.dict (payloadItems payload))

/-- `encode_cursor`. -/
def encodeCursor (payload : Assoc JsonField) : String :=
  String.ofList (Lib.Base64.encode (dumps payload).toUTF8.data.toList)

variable [RecursionLimit]

/-- `decode_cursor` of the domain: `none` is any of its exceptions, `some none` no cursor. -/
def domainDecodeCursor (cursor : Option String) : Option (Option JsonDict) :=
  match cursor with
  | none => some none
  | some text =>
      if text = "" then some none
      else if text.toList.any fun c => 128 ≤ c.toNat then none
      else do
        let raw ← Lib.Base64.decode text.toList
        let decoded ← loads (← utf8Text? raw).toList
        match decoded with
        | .dict d => some (some d)
        | _ => none

omit [PyRuntime] [RecursionLimit] in
def invalidCursor (cursor : String) : ApiError :=
  ⟨422, "VALIDATION_ERROR", "invalid cursor", [("cursor", cursor)]⟩

/-- `decode_cursor` of the API. -/
def decodeCursor (cursor : Option String) : Except ApiError (Option JsonDict) :=
  match cursor with
  | none => .ok none
  | some text =>
      if text = "" then .ok none
      else
        match domainDecodeCursor (some text) with
        | some decoded => .ok decoded
        | none => .error (invalidCursor text)

/-! ## What was written is read back -/

omit [PyRuntime] [RecursionLimit] in
theorem utf8Text_toUTF8 (s : String) : utf8Text? s.toUTF8.data.toList = some s := by
  have hbytes : (⟨s.toUTF8.data.toList.toArray⟩ : ByteArray) = s.toUTF8 := by
    rw [Array.toArray_toList]
  unfold utf8Text?
  rw [hbytes]
  exact dif_pos s.isValidUTF8

omit [RecursionLimit] in
theorem dumps_ne_empty (payload : Assoc JsonField) : dumps payload ≠ "" := by
  intro h
  have hchars := congrArg String.toList h
  rw [dumps, jsonDumps, String.toList_ofList] at hchars
  cases hchars

omit [PyRuntime] [RecursionLimit] in
/-- The members of a payload have no members to sort. -/
theorem sortedItems_payload (payload : Assoc JsonField) :
    Value.sortedItems (payloadItems payload) = payloadItems payload := by
  induction payload with
  | nil => rfl
  | cons item payload ih =>
      obtain ⟨key, field⟩ := item
      show (key, field.toValue.sorted) :: Value.sortedItems (payloadItems payload) = _
      rw [ih]
      cases field <;> rfl

omit [RecursionLimit] in
/-- A payload of distinct keys can be written. -/
theorem payloadItems_writable {payload : Assoc JsonField} (hkeys : (payload.map Prod.fst).Nodup)
    (hfits : ∀ item ∈ payload, item.2.Fits) : (Value.dict (payloadItems payload)).Writable := by
  have hnames : (payloadItems payload).map Prod.fst = payload.map Prod.fst := by
    unfold payloadItems
    rw [List.map_map]
    rfl
  refine ⟨hnames ▸ hkeys, writableItems_iff.mpr ?_⟩
  intro item hitem
  obtain ⟨⟨key, field⟩, hmem, rfl⟩ := List.mem_map.mp hitem
  cases field with
  | text s => trivial
  | int n =>
      obtain ⟨hlow, hhigh⟩ := hfits _ hmem
      apply length_toDigits
      omega

omit [PyRuntime] [RecursionLimit] in
/-- A payload is flat. -/
theorem payloadItems_depth (payload : Assoc JsonField) :
    (Value.dict (payloadItems payload)).depth ≤ 1 := by
  have hflat : itemsDepth (payloadItems payload) ≤ 0 := by
    apply itemsDepth_le.mpr
    intro item hitem
    obtain ⟨⟨key, field⟩, -, rfl⟩ := List.mem_map.mp hitem
    cases field <;> exact le_refl 0
  rw [Value.depth]
  omega

/-- What was dumped is loaded: an object with the same fields. -/
theorem loads_dumps {payload : Assoc JsonField} (hkeys : (payload.map Prod.fst).Nodup)
    (hfits : ∀ item ∈ payload, item.2.Fits) :
    ∃ d : JsonDict, loads (dumps payload).toList = some (.dict d) ∧
      ∀ key field, (key, field) ∈ payload → d.get? (codePoints key) = some field.value := by
  have hwritable := payloadItems_writable hkeys hfits
  have hloaded := loads_jsonDumps ⟨false, true⟩ hwritable
    ((payloadItems_depth payload).trans RecursionLimit.flat)
  refine ⟨_, hloaded, ?_⟩
  intro key field hfield
  apply JsonDict.get?_of_mem (jsonItems_keys (sorted_writable _ hwritable).1)
  apply mem_jsonItems
  rw [Lib.mem_sortOn, sortedItems_payload]
  exact List.mem_map.mpr ⟨(key, field), hfield, rfl⟩

omit [RecursionLimit] in
/-- A written cursor is not empty. -/
theorem encodeCursor_ne_empty (payload : Assoc JsonField) : encodeCursor payload ≠ "" := by
  intro h
  have hchars := congrArg String.toList h
  rw [encodeCursor, String.toList_ofList] at hchars
  have hread := Lib.Base64.decode_encode (dumps payload).toUTF8.data.toList
  rw [hchars] at hread
  have hbytes : (dumps payload).toUTF8.data.toList = [] := (Option.some.inj hread).symm
  have htext := utf8Text_toUTF8 (dumps payload)
  rw [hbytes] at htext
  have hempty : utf8Text? [] = some "" := utf8Text_toUTF8 ""
  exact dumps_ne_empty payload (Option.some.inj (htext.symm.trans hempty))

/-- A written cursor is read back as an object with the same fields. -/
theorem decode_encode {payload : Assoc JsonField} (hkeys : (payload.map Prod.fst).Nodup)
    (hfits : ∀ item ∈ payload, item.2.Fits) :
    ∃ d : JsonDict, decodeCursor (some (encodeCursor payload)) = .ok (some d) ∧
      ∀ key field, (key, field) ∈ payload → d.get? (codePoints key) = some field.value := by
  obtain ⟨d, hloads, hfields⟩ := loads_dumps hkeys hfits
  refine ⟨d, ?_, hfields⟩
  have hne := encodeCursor_ne_empty payload
  have hascii : ¬((encodeCursor payload).toList.any fun c => 128 ≤ c.toNat) = true := by
    rw [encodeCursor, String.toList_ofList, List.any_eq_true]
    rintro ⟨c, hc, hlarge⟩
    exact absurd (of_decide_eq_true hlarge) (not_le.mpr (Lib.Base64.ascii_encode _ c hc))
  have hdomain : domainDecodeCursor (some (encodeCursor payload)) = some (some d) := by
    unfold domainDecodeCursor
    dsimp only
    rw [if_neg hne, if_neg hascii]
    rw [encodeCursor, String.toList_ofList, Lib.Base64.decode_encode, Option.bind_eq_bind,
      Option.bind_some, utf8Text_toUTF8, Option.bind_eq_bind, Option.bind_some, hloads]
    rfl
  unfold decodeCursor
  dsimp only
  rw [if_neg hne, hdomain]

end KeyNetra
