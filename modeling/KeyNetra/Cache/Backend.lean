import KeyNetra.Lib.Text
import KeyNetra.Py.Value

/-!
# KeyNetra.Cache.Backend — the shared key/value backend

Every cache keeps its documents, and the namespace counters that invalidate
them, in one key/value backend. The model keeps counters and documents in two
maps: their keys never meet (`documentKey_ne_counterKey`).

* `Backend.get` / `set` / `delete` / `incr` — the backend's operations;
* `cacheKey` — a key is its fields joined by colons;
* `cacheKey_cons_inj` — a leading field without a colon can be read back; the
  later fields, which are ordinary texts, cannot.

Time does not pass in the model: an entry that expires is a `delete`.
-/

namespace KeyNetra

/-! ## Keys -/

/-- `f"{a}:{b}:…"`. -/
def cacheKey (fields : List String) : String := ":".intercalate fields

/-- A leading field without a colon can be read back from the key. -/
theorem cacheKey_cons_inj {a b x y : String} {xs ys : List String} (ha : ':' ∉ a.toList)
    (hb : ':' ∉ b.toList) :
    cacheKey (a :: x :: xs) = cacheKey (b :: y :: ys) ↔
      a = b ∧ cacheKey (x :: xs) = cacheKey (y :: ys) :=
  Lib.intercalate_cons_inj (by decide) ha hb

/-- Behind a common first field, keys are told apart by the rest. -/
theorem cacheKey_cons_left {a x y : String} {xs ys : List String} :
    cacheKey (a :: x :: xs) = cacheKey (a :: y :: ys) ↔ cacheKey (x :: xs) = cacheKey (y :: ys) :=
  Lib.intercalate_cons_left

@[simp] theorem cacheKey_single (a : String) : cacheKey [a] = a := by
  simp [cacheKey]

/-- Keys whose first fields differ are different. -/
theorem cacheKey_ne {a b x y : String} {xs ys : List String} (ha : ':' ∉ a.toList)
    (hb : ':' ∉ b.toList) (hab : a ≠ b) : cacheKey (a :: x :: xs) ≠ cacheKey (b :: y :: ys) := by
  intro h
  exact hab ((cacheKey_cons_inj ha hb).mp h).1

/-- The first fields of document keys. -/
def documentKinds : List String := ["acl", "idx", "rel", "pol", "dec"]

/-- The first fields of counter keys. -/
def counterKinds : List String := ["aclns", "idxns", "polns", "decns"]

theorem colon_notMem_kind {kind : String} (h : kind ∈ documentKinds ++ counterKinds) :
    ':' ∉ kind.toList := by
  revert kind
  decide

/-- The key's first field is `kind`. -/
def HasKind (kind key : String) : Prop := ∃ x xs, key = cacheKey (kind :: x :: xs)

/-- Keys of different kinds are different. -/
theorem HasKind.ne {a b key key' : String} (ha : HasKind a key) (hb : HasKind b key')
    (hkinds : a ∈ documentKinds ++ counterKinds ∧ b ∈ documentKinds ++ counterKinds ∧ a ≠ b) :
    key ≠ key' := by
  rcases ha with ⟨x, xs, rfl⟩
  rcases hb with ⟨y, ys, rfl⟩
  apply cacheKey_ne _ _ hkinds.2.2
  · exact colon_notMem_kind hkinds.1
  · exact colon_notMem_kind hkinds.2.1

/-- No key holds both a counter and a document. -/
theorem documentKey_ne_counterKey {a b x y : String} {xs ys : List String}
    (ha : a ∈ documentKinds) (hb : b ∈ counterKinds) :
    cacheKey (a :: x :: xs) ≠ cacheKey (b :: y :: ys) := by
  apply cacheKey_ne
  · exact colon_notMem_kind (List.mem_append_left _ ha)
  · exact colon_notMem_kind (List.mem_append_right _ hb)
  · rintro rfl
    revert a
    decide

/-! ## The backend -/

/-- The backend's contents: counters under counter keys, and under document keys
the JSON value that `json.loads` reads back. -/
structure Backend where
  counters : String → Option Nat
  documents : String → Option Value

/-- A backend without documents, under any counters. -/
def Backend.cold (counters : String → Option Nat) : Backend := ⟨counters, fun _ => none⟩

/-- `backend.get(key)` of a document. -/
def Backend.get (b : Backend) (key : String) : Option Value := b.documents key

/-- `backend.set(key, json.dumps(value), ttl)`. -/
def Backend.set (b : Backend) (key : String) (value : Value) : Backend :=
  { b with documents := fun k => if k = key then some value else b.documents k }

/-- `backend.delete(key)`. -/
def Backend.delete (b : Backend) (key : String) : Backend :=
  { b with documents := fun k => if k = key then none else b.documents k }

/-- `backend.incr(key)`: a missing counter counts as 0. -/
def Backend.incr (b : Backend) (key : String) : Backend :=
  { b with counters := fun k => if k = key then some ((b.counters key).getD 0 + 1) else b.counters k }

@[simp] theorem Backend.counters_set (b : Backend) (key : String) (value : Value) :
    (b.set key value).counters = b.counters := rfl

@[simp] theorem Backend.counters_delete (b : Backend) (key : String) :
    (b.delete key).counters = b.counters := rfl

@[simp] theorem Backend.documents_incr (b : Backend) (key : String) :
    (b.incr key).documents = b.documents := rfl

@[simp] theorem Backend.get_set_self (b : Backend) (key : String) (value : Value) :
    (b.set key value).get key = some value := if_pos rfl

theorem Backend.get_set_ne (b : Backend) {key other : String} (value : Value)
    (h : other ≠ key) : (b.set key value).get other = b.get other := if_neg h

@[simp] theorem Backend.get_delete_self (b : Backend) (key : String) :
    (b.delete key).get key = none := if_pos rfl

theorem Backend.get_delete_ne (b : Backend) {key other : String} (h : other ≠ key) :
    (b.delete key).get other = b.get other := if_neg h

@[simp] theorem Backend.get_incr (b : Backend) (key other : String) :
    (b.incr key).get other = b.get other := rfl

@[simp] theorem Backend.counters_incr_self (b : Backend) (key : String) :
    (b.incr key).counters key = some ((b.counters key).getD 0 + 1) := if_pos rfl

theorem Backend.counters_incr_ne (b : Backend) {key other : String} (h : other ≠ key) :
    (b.incr key).counters other = b.counters other := if_neg h

/-! ## Lookups -/

/-- What an ACL or index lookup asks for. -/
structure Lookup where
  tenantId : Int
  resourceType : String
  resourceId : String
  action : String
deriving DecidableEq

/-- The part of a lookup that is joined without escaping. -/
def Lookup.joined (l : Lookup) : String := cacheKey [l.resourceType, l.resourceId, l.action]

/-- The key of a lookup under a namespace. -/
def Lookup.key (kind : String) (ns : Nat) (l : Lookup) : String :=
  cacheKey [kind, toString l.tenantId, toString ns, l.resourceType, l.resourceId, l.action]

/-- What a lookup's key tells: tenant, namespace, and the joined rest. -/
theorem Lookup.key_inj {kind : String} (hkind : kind ∈ documentKinds) {m n : Nat}
    {l r : Lookup} :
    l.key kind m = r.key kind n ↔ l.tenantId = r.tenantId ∧ m = n ∧ l.joined = r.joined := by
  have hk : ':' ∉ kind.toList := colon_notMem_kind (List.mem_append_left _ hkind)
  unfold Lookup.key Lookup.joined
  rw [cacheKey_cons_inj hk hk,
    cacheKey_cons_inj (Lib.colon_notMem_intRepr _) (Lib.colon_notMem_intRepr _),
    cacheKey_cons_inj (Lib.colon_notMem_natRepr _) (Lib.colon_notMem_natRepr _),
    Lib.toString_int_inj, Lib.toString_nat_inj]
  simp

/-- Two lookups on one resource with one joined text are one lookup. -/
theorem Lookup.eq_of_joined {l r : Lookup} (htenant : l.tenantId = r.tenantId)
    (htype : l.resourceType = r.resourceType) (hid : l.resourceId = r.resourceId)
    (hjoined : l.joined = r.joined) : l = r := by
  obtain ⟨t, rt, ri, a⟩ := l
  obtain ⟨t', rt', ri', a'⟩ := r
  cases htenant
  cases htype
  cases hid
  simp only [Lookup.joined, cacheKey, String.intercalate_cons_cons] at hjoined
  rw [← String.toList_inj] at hjoined
  simp only [String.toList_append, List.append_cancel_left_eq, String.toList_inj] at hjoined
  have haction : a = a' := by simpa using hjoined
  rw [haction]

-- from here on keys are compared through the lemmas above
attribute [irreducible] cacheKey

end KeyNetra
