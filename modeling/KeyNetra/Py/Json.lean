import KeyNetra.Lib.StableSort
import KeyNetra.Py.Value
import Mathlib.Data.String.Basic

/-!
# KeyNetra.Py.Json — values with the same canonical JSON

`json.dumps(value, sort_keys=True)` writes the members of every object in the order of
their keys, and tells all other values apart. Two values have one canonical JSON text when
they are equal up to the order of members.

* `Value.sorted` — the value with the members of its objects in order;
* `SameJson` — one canonical text;
* `SameJson.member` — the members of two such objects correspond;
* `Value.same` — equality, decided.
-/

namespace KeyNetra

/-! ## Sorted members -/

mutual

/-- The value with the members of its objects in the order of their keys. -/
def Value.sorted : Value → Value
  | .list xs => .list (Value.sortedList xs)
  | .dict items => .dict (Lib.sortOn Prod.fst (Value.sortedItems items))
  | v => v

def Value.sortedList : List Value → List Value
  | [] => []
  | v :: vs => v.sorted :: Value.sortedList vs

def Value.sortedItems : List (String × Value) → List (String × Value)
  | [] => []
  | (key, v) :: items => (key, v.sorted) :: Value.sortedItems items

end

/-- The values have one canonical JSON text. -/
def SameJson (a b : Value) : Prop := a.sorted = b.sorted

theorem SameJson.refl (a : Value) : SameJson a a := rfl

theorem mem_sortedItems {items : Dict} {key : String} {v : Value} (h : (key, v) ∈ items) :
    (key, v.sorted) ∈ Value.sortedItems items := by
  induction items with
  | nil => cases h
  | cons item items ih =>
      rcases item with ⟨other, w⟩
      rw [Value.sortedItems]
      rcases List.mem_cons.mp h with heq | hmem
      · rcases Prod.mk.inj heq with ⟨rfl, rfl⟩
        exact List.mem_cons_self
      · exact List.mem_cons_of_mem _ (ih hmem)

theorem exists_of_mem_sortedItems {items : Dict} {key : String} {s : Value}
    (h : (key, s) ∈ Value.sortedItems items) : ∃ v, (key, v) ∈ items ∧ v.sorted = s := by
  induction items with
  | nil => cases h
  | cons item items ih =>
      rcases item with ⟨other, w⟩
      rw [Value.sortedItems] at h
      rcases List.mem_cons.mp h with heq | hmem
      · rcases Prod.mk.inj heq with ⟨rfl, rfl⟩
        exact ⟨w, List.mem_cons_self, rfl⟩
      · rcases ih hmem with ⟨v, hv, hs⟩
        exact ⟨v, List.mem_cons_of_mem _ hv, hs⟩

/-- The members of two objects with one canonical text correspond. -/
theorem SameJson.member {a b : Dict} (h : SameJson (.dict a) (.dict b)) {key : String} {v : Value}
    (hv : (key, v) ∈ a) : ∃ w, (key, w) ∈ b ∧ SameJson v w := by
  have hsorted : Lib.sortOn Prod.fst (Value.sortedItems a) =
      Lib.sortOn Prod.fst (Value.sortedItems b) := by
    have hdict := h
    unfold SameJson at hdict
    rw [Value.sorted, Value.sorted] at hdict
    exact Value.dict.inj hdict
  have hmem : (key, v.sorted) ∈ Lib.sortOn Prod.fst (Value.sortedItems a) :=
    Lib.mem_sortOn.mpr (mem_sortedItems hv)
  rw [hsorted] at hmem
  rcases exists_of_mem_sortedItems (Lib.mem_sortOn.mp hmem) with ⟨w, hw, hsame⟩
  exact ⟨w, hw, hsame.symm⟩

theorem sameJson_str {s t : String} : SameJson (.str s) (.str t) ↔ s = t := by
  unfold SameJson
  simp [Value.sorted]

theorem sameJson_int {m n : Int} : SameJson (.int m) (.int n) ↔ m = n := by
  unfold SameJson
  simp [Value.sorted]

/-! ## Equality -/

mutual

/-- The values are equal, member orders included. -/
def Value.same : Value → Value → Bool
  | .null, .null => true
  | .bool a, .bool b => a == b
  | .int m, .int n => m == n
  | .float x, .float y => decide (x = y)
  | .str s, .str t => s == t
  | .list xs, .list ys => Value.sameList xs ys
  | .dict xs, .dict ys => Value.sameItems xs ys
  | _, _ => false

def Value.sameList : List Value → List Value → Bool
  | [], [] => true
  | x :: xs, y :: ys => x.same y && Value.sameList xs ys
  | _, _ => false

def Value.sameItems : List (String × Value) → List (String × Value) → Bool
  | [], [] => true
  | (k, x) :: xs, (l, y) :: ys => k == l && x.same y && Value.sameItems xs ys
  | _, _ => false

end

mutual

theorem Value.eq_of_same : ∀ {a b : Value}, a.same b = true → a = b
  | .null, b, h => by cases b <;> simp_all [Value.same]
  | .bool _, b, h => by cases b <;> simp_all [Value.same]
  | .int _, b, h => by cases b <;> simp_all [Value.same]
  | .float _, b, h => by cases b <;> simp_all [Value.same]
  | .str _, b, h => by cases b <;> simp_all [Value.same]
  | .list xs, b, h => by
      cases b with
      | list ys =>
          have hsame : Value.sameList xs ys = true := by simpa [Value.same] using h
          rw [Value.eq_of_sameList hsame]
      | _ => simp [Value.same] at h
  | .dict xs, b, h => by
      cases b with
      | dict ys =>
          have hsame : Value.sameItems xs ys = true := by simpa [Value.same] using h
          rw [Value.eq_of_sameItems hsame]
      | _ => simp [Value.same] at h

theorem Value.eq_of_sameList : ∀ {xs ys : List Value}, Value.sameList xs ys = true → xs = ys
  | [], ys, h => by
      cases ys with
      | nil => rfl
      | cons y ys => simp [Value.sameList] at h
  | x :: xs, ys, h => by
      cases ys with
      | nil => simp [Value.sameList] at h
      | cons y ys =>
          have hboth : x.same y = true ∧ Value.sameList xs ys = true := by
            simpa [Value.sameList] using h
          rw [Value.eq_of_same hboth.1, Value.eq_of_sameList hboth.2]

theorem Value.eq_of_sameItems : ∀ {xs ys : List (String × Value)},
    Value.sameItems xs ys = true → xs = ys
  | [], ys, h => by
      cases ys with
      | nil => rfl
      | cons y ys => simp [Value.sameItems] at h
  | (k, x) :: xs, ys, h => by
      cases ys with
      | nil => simp [Value.sameItems] at h
      | cons y ys =>
          rcases y with ⟨l, y⟩
          have hall : (k = l ∧ x.same y = true) ∧ Value.sameItems xs ys = true := by
            simpa [Value.sameItems] using h
          rw [hall.1.1, Value.eq_of_same hall.1.2, Value.eq_of_sameItems hall.2]

end

mutual

theorem Value.same_self : ∀ v : Value, v.same v = true
  | .null => rfl
  | .bool b => by simp [Value.same]
  | .int n => by simp [Value.same]
  | .float x => by simp [Value.same]
  | .str s => by simp [Value.same]
  | .list xs => by
      rw [Value.same]
      exact Value.sameList_self xs
  | .dict items => by
      rw [Value.same]
      exact Value.sameItems_self items

theorem Value.sameList_self : ∀ xs : List Value, Value.sameList xs xs = true
  | [] => rfl
  | x :: xs => by rw [Value.sameList, Value.same_self x, Value.sameList_self xs, Bool.and_self]

theorem Value.sameItems_self : ∀ items : List (String × Value), Value.sameItems items items = true
  | [] => rfl
  | (key, x) :: items => by
      rw [Value.sameItems, Value.same_self x, Value.sameItems_self items, beq_self_eq_true,
        Bool.and_self, Bool.and_self]

end

theorem Value.same_iff {a b : Value} : a.same b = true ↔ a = b := by
  constructor
  · exact Value.eq_of_same
  · rintro rfl
    exact Value.same_self a

instance : DecidableEq Value := fun _ _ => decidable_of_iff _ Value.same_iff

end KeyNetra
