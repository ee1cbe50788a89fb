import KeyNetra.Engine.PolicyGraph
import KeyNetra.Py.Json

/-!
# KeyNetra.Engine.SameConditions — conditions with one canonical text

Two objects with one canonical JSON text have the same members, in any order. The condition handlers
look members up and compare values, so they answer alike; only the text of an `object_id` that is
itself an object tells the order of its members.

* `get?_sameJson` — the members under a key;
* `eq_sameJson` — the two values are equal to the same values;
* `handler_sameJson` — so the handlers answer alike;
* `meets_sameJson` — and the conditions are met by the same requests.
-/

namespace KeyNetra

/-! ## Members and equality -/

theorem get?_sortedItems (items : Dict) (key : String) :
    Assoc.get? (Value.sortedItems items) key = (Assoc.get? items key).map Value.sorted := by
  induction items with
  | nil => rfl
  | cons item items ih =>
      obtain ⟨other, v⟩ := item
      rw [Value.sortedItems, Assoc.get?_cons, Assoc.get?_cons]
      by_cases hkey : other = key
      · rw [if_pos hkey, if_pos hkey]
        rfl
      · rw [if_neg hkey, if_neg hkey]
        exact ih

theorem get?_eq_head? (items : Dict) (key : String) :
    Assoc.get? items key = ((items.filter fun item => item.1 = key).head?).map Prod.snd := by
  induction items with
  | nil => rfl
  | cons item items ih =>
      obtain ⟨other, v⟩ := item
      rw [Assoc.get?_cons]
      by_cases hkey : other = key
      · rw [if_pos hkey, List.filter_cons, if_pos (decide_eq_true hkey)]
        rfl
      · rw [if_neg hkey, List.filter_cons, if_neg (by simpa using hkey)]
        exact ih

/-- Sorting by key is stable, so it keeps the first member under each key. -/
theorem get?_sortOn (items : Dict) (key : String) :
    Assoc.get? (Lib.sortOn Prod.fst items) key = Assoc.get? items key := by
  rw [get?_eq_head?, get?_eq_head?, Lib.filter_key_sortOn]

theorem sameJson_dict {a b : Dict} : SameJson (.dict a) (.dict b) ↔
    Lib.sortOn Prod.fst (Value.sortedItems a) = Lib.sortOn Prod.fst (Value.sortedItems b) := by
  unfold SameJson
  rw [Value.sorted, Value.sorted, Value.dict.injEq]

theorem get?_sameJson {a b : Dict} (h : SameJson (.dict a) (.dict b)) (key : String) :
    (Assoc.get? a key).map Value.sorted = (Assoc.get? b key).map Value.sorted := by
  rw [← get?_sortedItems, ← get?_sortedItems, ← get?_sortOn, sameJson_dict.mp h, get?_sortOn]

theorem length_sortedItems (items : Dict) : (Value.sortedItems items).length = items.length := by
  induction items with
  | nil => rfl
  | cons item items ih =>
      obtain ⟨key, v⟩ := item
      rw [Value.sortedItems, List.length_cons, List.length_cons, ih]

theorem length_sameJson {a b : Dict} (h : SameJson (.dict a) (.dict b)) :
    a.length = b.length := by
  have hlength := congrArg List.length (sameJson_dict.mp h)
  rw [(Lib.perm_sortOn _ _).length_eq, (Lib.perm_sortOn _ _).length_eq, length_sortedItems,
    length_sortedItems] at hlength
  exact hlength

/-- A value that is neither a list nor an object. -/
def Value.Scalar : Value → Prop
  | .list _ | .dict _ => False
  | _ => True

theorem sorted_dict (a : Dict) :
    (Value.dict a).sorted = .dict (Lib.sortOn Prod.fst (Value.sortedItems a)) := by
  rw [Value.sorted]

theorem sorted_list (xs : List Value) :
    (Value.list xs).sorted = .list (Value.sortedList xs) := by
  rw [Value.sorted]

theorem Value.Scalar.sorted {v : Value} (h : v.Scalar) : v.sorted = v := by
  cases v with
  | list xs => exact h.elim
  | dict items => exact h.elim
  | _ => rfl

theorem Value.shape (v : Value) : (∃ a, v = .dict a) ∨ (∃ xs, v = .list xs) ∨ v.Scalar := by
  cases v with
  | dict a => exact .inl ⟨a, rfl⟩
  | list xs => exact .inr (.inl ⟨xs, rfl⟩)
  | _ => exact .inr (.inr trivial)

theorem SameJson.symm {v w : Value} (h : SameJson v w) : SameJson w v := Eq.symm h

/-- How two values with one canonical text can look. -/
theorem SameJson.cases {v w : Value} (h : SameJson v w) :
    (∃ a b, v = .dict a ∧ w = .dict b) ∨
      (∃ xs ys, v = .list xs ∧ w = .list ys ∧ Value.sortedList xs = Value.sortedList ys) ∨
      (v = w ∧ v.Scalar) := by
  unfold SameJson at h
  rcases v.shape with ⟨a, rfl⟩ | ⟨xs, rfl⟩ | hv
  · rcases w.shape with ⟨b, rfl⟩ | ⟨ys, rfl⟩ | hw
    · exact .inl ⟨a, b, rfl, rfl⟩
    · -- sorting keeps the kind of a value
      rw [sorted_dict, sorted_list] at h
      cases h
    · rw [hw.sorted, sorted_dict] at h
      rw [← h] at hw
      exact hw.elim
  · rcases w.shape with ⟨b, rfl⟩ | ⟨ys, rfl⟩ | hw
    · rw [sorted_list, sorted_dict] at h
      cases h
    · rw [sorted_list, sorted_list] at h
      exact .inr (.inl ⟨xs, ys, rfl, rfl, Value.list.inj h⟩)
    · rw [hw.sorted, sorted_list] at h
      rw [← h] at hw
      exact hw.elim
  · rw [hv.sorted] at h
    rcases w.shape with ⟨b, rfl⟩ | ⟨ys, rfl⟩ | hw
    · rw [sorted_dict] at h
      rw [h] at hv
      exact hv.elim
    · rw [sorted_list] at h
      rw [h] at hv
      exact hv.elim
    · rw [hw.sorted] at h
      exact .inr (.inr ⟨h, hv⟩)

mutual

/-- Two values with one canonical text are equal to the same values; by induction on the value they
are compared with. -/
theorem eq_sameJson : ∀ (u : Value) {v w : Value}, SameJson v w → Value.eq u v = Value.eq u w
  | .list us, v, w, h => by
      rcases h.cases with ⟨a, b, rfl, rfl⟩ | ⟨xs, ys, rfl, rfl, hlists⟩ | ⟨rfl, _⟩
      · rfl
      · rw [Value.eq, Value.eq]
        exact eqList_sameJson us hlists
      · rfl
  | .dict us, v, w, h => by
      rcases h.cases with ⟨a, b, rfl, rfl⟩ | ⟨xs, ys, rfl, rfl, hlists⟩ | ⟨rfl, _⟩
      · rw [Value.eq, Value.eq, length_sameJson h, eqItems_sameJson us h]
      · rfl
      · rfl
  | .null, v, w, h => by
      rcases h.cases with ⟨a, b, rfl, rfl⟩ | ⟨xs, ys, rfl, rfl, hlists⟩ | ⟨rfl, _⟩ <;> rfl
  | .bool _, v, w, h => by
      rcases h.cases with ⟨a, b, rfl, rfl⟩ | ⟨xs, ys, rfl, rfl, hlists⟩ | ⟨rfl, _⟩ <;> rfl
  | .int _, v, w, h => by
      rcases h.cases with ⟨a, b, rfl, rfl⟩ | ⟨xs, ys, rfl, rfl, hlists⟩ | ⟨rfl, _⟩ <;> rfl
  | .float _, v, w, h => by
      rcases h.cases with ⟨a, b, rfl, rfl⟩ | ⟨xs, ys, rfl, rfl, hlists⟩ | ⟨rfl, _⟩ <;> rfl
  | .str _, v, w, h => by
      rcases h.cases with ⟨a, b, rfl, rfl⟩ | ⟨xs, ys, rfl, rfl, hlists⟩ | ⟨rfl, _⟩ <;> rfl

theorem eqList_sameJson : ∀ (us : List Value) {xs ys : List Value},
    Value.sortedList xs = Value.sortedList ys → Value.eqList us xs = Value.eqList us ys
  | us, [], [], _ => rfl
  | us, [], y :: ys, h => by
      rw [Value.sortedList, Value.sortedList] at h
      cases h
  | us, x :: xs, [], h => by
      rw [Value.sortedList, Value.sortedList] at h
      cases h
  | [], x :: xs, y :: ys, _ => rfl
  | u :: us, x :: xs, y :: ys, h => by
      rw [Value.sortedList, Value.sortedList] at h
      have ⟨hhead, htail⟩ := List.cons.inj h
      rw [Value.eqList, Value.eqList, eq_sameJson u hhead, eqList_sameJson us htail]

theorem eqItems_sameJson : ∀ (us : List (String × Value)) {a b : Dict},
    SameJson (.dict a) (.dict b) → Value.eqItems us a = Value.eqItems us b
  | [], _, _, _ => rfl
  | (key, u) :: us, a, b, h => by
      rw [Value.eqItems, Value.eqItems, eqItems_sameJson us h]
      have hmember := get?_sameJson h key
      rcases hv : Assoc.get? a key with _ | v
      · rcases hw : Assoc.get? b key with _ | w
        · rfl
        · rw [hv, hw] at hmember
          cases hmember
      · rcases hw : Assoc.get? b key with _ | w
        · rw [hv, hw] at hmember
          cases hmember
        · rw [hv, hw] at hmember
          have hsame : SameJson v w := Option.some.inj hmember
          simp only [eq_sameJson u hsame]

end

section Lookups

variable {v w : Value} {a b : Dict}

theorem isIn_sameJson (h : SameJson v w) (xs : List Value) : v.isIn xs = w.isIn xs := by
  unfold Value.isIn
  induction xs with
  | nil => rfl
  | cons x xs ih => rw [List.any_cons, List.any_cons, eq_sameJson x h, ih]

theorem getD_sameJson (h : SameJson (.dict a) (.dict b)) (key : String) (default : Value) :
    SameJson (Dict.getD a key default) (Dict.getD b key default) := by
  have hmember := get?_sameJson h key
  unfold Dict.getD
  rcases hv : Assoc.get? a key with _ | v
  · rcases hw : Assoc.get? b key with _ | w
    · exact SameJson.refl _
    · rw [hv, hw] at hmember
      cases hmember
  · rcases hw : Assoc.get? b key with _ | w
    · rw [hv, hw] at hmember
      cases hmember
    · rw [hv, hw] at hmember
      exact Option.some.inj hmember

theorem get_sameJson (h : SameJson (.dict a) (.dict b)) (key : String) :
    SameJson (Dict.get a key) (Dict.get b key) := getD_sameJson h key .null

theorem truthy_sameJson (h : SameJson v w) : v.truthy = w.truthy := by
  rcases h.cases with ⟨a, b, rfl, rfl⟩ | ⟨xs, ys, rfl, rfl, hlists⟩ | ⟨rfl, _⟩
  · -- objects of one text have equally many members
    have hlength := length_sameJson h
    cases a with
    | nil =>
        cases b with
        | nil => rfl
        | cons item b => cases hlength
    | cons item a =>
        cases b with
        | nil => cases hlength
        | cons item b => rfl
  · -- lists are compared element by element
    cases xs with
    | nil =>
        cases ys with
        | nil => rfl
        | cons y ys =>
            rw [Value.sortedList, Value.sortedList] at hlists
            cases hlists
    | cons x xs =>
        cases ys with
        | nil =>
            rw [Value.sortedList, Value.sortedList] at hlists
            cases hlists
        | cons y ys => rfl
  · rfl

/-- Looking a member up under a value. -/
theorem getValue_sameJson (h : SameJson v w) (d : Dict) : Dict.getValue d v = Dict.getValue d w := by
  rcases h.cases with ⟨a, b, rfl, rfl⟩ | ⟨xs, ys, rfl, rfl, _⟩ | ⟨rfl, _⟩ <;> rfl

end Lookups

/-! ## The handlers -/

section Handlers

variable [PyRuntime] {v w : Value}

theorem toFloat_sameJson (h : SameJson v w) : v.toFloat = w.toFloat := by
  rcases h.cases with ⟨a, b, rfl, rfl⟩ | ⟨xs, ys, rfl, rfl, _⟩ | ⟨rfl, _⟩ <;> rfl

omit [PyRuntime] in
theorem handleRole_sameJson (h : SameJson v w) (input : AuthorizationInput) :
    handleRole v input = handleRole w input := by
  unfold handleRole
  simp only [eq_sameJson _ h, isIn_sameJson h]

theorem handleMaxAmount_sameJson (h : SameJson v w) (input : AuthorizationInput) :
    handleMaxAmount v input = handleMaxAmount w input := by
  unfold handleMaxAmount
  rw [toFloat_sameJson h]

omit [PyRuntime] in
theorem handleOwnerOnly_sameJson (h : SameJson v w) (input : AuthorizationInput) :
    handleOwnerOnly v input = handleOwnerOnly w input := by
  unfold handleOwnerOnly
  rw [truthy_sameJson h]

theorem handleTimeRange_sameJson (h : SameJson v w) (input : AuthorizationInput) :
    handleTimeRange v input = handleTimeRange w input := by
  rcases h.cases with ⟨a, b, rfl, rfl⟩ | ⟨xs, ys, rfl, rfl, _⟩ | ⟨rfl, _⟩
  · have hstart := (get_sameJson h "start").cases
    have hend := (get_sameJson h "end").cases
    unfold handleTimeRange
    dsimp only
    rcases hstart with ⟨c, d, hc, hd⟩ | ⟨cs, ds, hc, hd, _⟩ | ⟨hsame, _⟩
    · rw [hc, hd]
    · rw [hc, hd]
    · rw [hsame]
      rcases hend with ⟨c, d, hc, hd⟩ | ⟨cs, ds, hc, hd, _⟩ | ⟨hsame', _⟩
      · rw [hc, hd]
        cases Dict.get b "start" <;> rfl
      · rw [hc, hd]
        cases Dict.get b "start" <;> rfl
      · rw [hsame']
  · rfl
  · rfl

omit [PyRuntime] in
theorem handleGeoMatch_sameJson (h : SameJson v w) (input : AuthorizationInput) :
    handleGeoMatch v input = handleGeoMatch w input := by
  rcases h.cases with ⟨a, b, rfl, rfl⟩ | ⟨xs, ys, rfl, rfl, _⟩ | ⟨rfl, _⟩
  · unfold handleGeoMatch
    simp only [getValue_sameJson (getD_sameJson h _ _)]
  · rfl
  · rfl

/-- The `object_id` of a `has_relation` condition. -/
def objectId : Value → Value
  | .dict fields => Dict.get fields "object_id"
  | _ => .null

/-- The object a `has_relation` condition names, itself or by a field of the resource. -/
def namedObject (objectId field : Value) (input : AuthorizationInput) : Value :=
  match objectId, field with
  | .null, .str field => Dict.get input.resource field
  | objectId, _ => objectId

/-- The rest of `handle_has_relation`. -/
def relationResult (relation objectType object : Value) (input : AuthorizationInput) :
    Except PyError ConditionResult :=
  match relation, objectType, object with
  | _, _, .null => .ok (false, some "invalid has_relation")
  | .str relation, .str objectType, object =>
      match Dict.getD input.user "relations" (.list []) with
      | .list relations =>
          let linked := relations.any fun
            | .dict edge =>
                Value.eq (Dict.get edge "relation") (.str relation) &&
                  Value.eq (Dict.get edge "object_type") (.str objectType) &&
                  (Dict.get edge "object_id").text == object.text
            | _ => false
          .ok (conditionResult linked "relation mismatch")
      | _ => .ok (false, some "no relations")
  | _, _, _ => .ok (false, some "invalid has_relation")

theorem handleHasRelation_dict (fields : Dict) (input : AuthorizationInput) :
    handleHasRelation (.dict fields) input =
      relationResult (Dict.get fields "relation") (Dict.get fields "object_type")
        (namedObject (Dict.get fields "object_id") (Dict.get fields "object_id_from_resource") input)
        input := rfl

omit [PyRuntime] in
theorem namedObject_sameJson (objectId : Value) (h : SameJson v w) (input : AuthorizationInput) :
    namedObject objectId v input = namedObject objectId w input := by
  rcases h.cases with ⟨a, b, rfl, rfl⟩ | ⟨xs, ys, rfl, rfl, _⟩ | ⟨rfl, _⟩
  · cases objectId <;> rfl
  · cases objectId <;> rfl
  · rfl

theorem relationResult_sameJson {relation relation' : Value} (hrelation : SameJson relation relation')
    (h : SameJson v w) (object : Value) (input : AuthorizationInput) :
    relationResult relation v object input = relationResult relation' w object input := by
  rcases hrelation.cases with ⟨a, b, rfl, rfl⟩ | ⟨xs, ys, rfl, rfl, _⟩ | ⟨rfl, _⟩
  · cases object <;> rfl
  · cases object <;> rfl
  · rcases h.cases with ⟨a, b, rfl, rfl⟩ | ⟨xs, ys, rfl, rfl, _⟩ | ⟨rfl, _⟩
    · cases object <;> cases relation <;> rfl
    · cases object <;> cases relation <;> rfl
    · rfl

theorem handleHasRelation_sameJson (h : SameJson v w) (hid : objectId v = objectId w)
    (input : AuthorizationInput) : handleHasRelation v input = handleHasRelation w input := by
  rcases h.cases with ⟨a, b, rfl, rfl⟩ | ⟨xs, ys, rfl, rfl, _⟩ | ⟨rfl, _⟩
  · have hsameId : Dict.get a "object_id" = Dict.get b "object_id" := hid
    rw [handleHasRelation_dict, handleHasRelation_dict, hsameId,
      namedObject_sameJson _ (get_sameJson h _)]
    exact relationResult_sameJson (get_sameJson h _) (get_sameJson h _) _ _
  · rfl
  · rfl

/-- Values with one canonical text are one condition. -/
theorem handler_sameJson {key : String}
    {handler : Value → AuthorizationInput → Except PyError ConditionResult}
    (hkey : conditionHandler key = some handler) (h : SameJson v w)
    (hid : key = "has_relation" → objectId v = objectId w) (input : AuthorizationInput) :
    handler v input = handler w input := by
  unfold conditionHandler at hkey
  split at hkey
  · -- the handlers read their value through comparisons that texts of one kind agree on
    cases hkey
    exact handleRole_sameJson h input
  · cases hkey
    exact handleMaxAmount_sameJson h input
  · cases hkey
    exact handleOwnerOnly_sameJson h input
  · cases hkey
    exact handleTimeRange_sameJson h input
  · cases hkey
    exact handleGeoMatch_sameJson h input
  · -- has_relation also writes out the id of its object
    cases hkey
    exact handleHasRelation_sameJson h (hid rfl) input
  · cases hkey

/-! ## Conditions -/

/-- Every condition has a handler, which finds it met. -/
def AllMet (conditions : Dict) (input : AuthorizationInput) : Prop :=
  ∀ key v, (key, v) ∈ conditions → ∃ handler reason,
    conditionHandler key = some handler ∧ handler v input = .ok (true, reason)

/-- The evaluator succeeds iff all conditions are met, in whatever order it checks them. -/
theorem evaluateConditions_met {conditions : Dict} {input : AuthorizationInput} :
    (∃ reason, evaluateConditions conditions input = .ok (true, reason)) ↔
      AllMet conditions input := by
  induction conditions with
  | nil =>
      constructor
      · intro _ key v hmem
        exact absurd hmem List.not_mem_nil
      · intro _
        exact ⟨none, rfl⟩
  | cons item conditions ih =>
      obtain ⟨key, v⟩ := item
      rw [evaluateConditions]
      constructor
      · rintro ⟨reason, heval⟩ key' v' hmem
        -- the first condition that is unknown or fails ends the evaluation
        rcases hhandler : conditionHandler key with _ | handler
        · rw [hhandler] at heval
          cases heval
        · rw [hhandler] at heval
          obtain ⟨⟨met, why⟩, hresult, hrest⟩ := Lib.bind_eq_ok.mp heval
          rcases met with _ | _
          · cases hrest
          · rcases List.mem_cons.mp hmem with heq | hmem
            · cases heq
              exact ⟨handler, why, hhandler, hresult⟩
            · exact ih.mp ⟨reason, hrest⟩ key' v' hmem
      · intro hall
        obtain ⟨handler, why, hhandler, hresult⟩ := hall key v List.mem_cons_self
        obtain ⟨reason, hrest⟩ := ih.mpr fun key' v' hmem =>
          hall key' v' (List.mem_cons_of_mem _ hmem)
        refine ⟨reason, ?_⟩
        rw [hhandler]
        dsimp only
        rw [hresult, Lib.ok_bind]
        exact hrest

/-- The `object_id`s of the `has_relation` conditions are the same, member orders included. -/
def SameObjectIds (a b : Dict) : Prop :=
  ∀ v w, ("has_relation", v) ∈ a → ("has_relation", w) ∈ b → objectId v = objectId w

/-- Conditions with one canonical text are met by the same requests. -/
theorem allMet_sameJson {a b : Dict} {input : AuthorizationInput}
    (h : SameJson (.dict a) (.dict b)) (hids : SameObjectIds a b) (hmet : AllMet a input) :
    AllMet b input := by
  intro key w hw
  obtain ⟨v, hv, hsame⟩ := SameJson.member (SameJson.symm h) hw
  obtain ⟨handler, reason, hhandler, hresult⟩ := hmet key v hv
  refine ⟨handler, reason, hhandler, ?_⟩
  rw [← handler_sameJson hhandler (SameJson.symm hsame) ?_ input]
  · exact hresult
  · rintro rfl
    exact hids v w hv hw

end Handlers

end KeyNetra
