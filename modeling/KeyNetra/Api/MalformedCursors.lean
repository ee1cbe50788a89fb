import KeyNetra.Api.CursorPaging

/-!
# KeyNetra.Api.MalformedCursors — what a listing answers to a cursor

The decoder answers what it cannot decode with a validation error. The fields of an object that it
decodes are indexed, converted and sent by the listings, and what that raises leaves the handler.

* `PageOr422` — the handler returns a page, or raises a validation error;
* `NotApi` — nothing that reads a cursor raises an error of the API;
* `policy_reads_iff`, `relationship_reads_iff`, `audit_reads_iff`, `text_reads_iff` — the objects that
  each listing reads;
* `cursor_answered_iff` — these, and no others, are answered as they should be.
-/

namespace KeyNetra

/-- The handler returns a page, or raises an `ApiError` with status 422. -/
def PageOr422 {α : Type} : Except ListingError α → Prop
  | .ok _ => True
  | .error (.api e) => e.statusCode = 422
  | .error _ => False

/-- No error of the API is raised. -/
def NotApi {α : Type} (x : Except ListingError α) : Prop := ∀ e, x ≠ .error (.api e)

theorem NotApi.ok {α : Type} (a : α) : NotApi (.ok a : Except ListingError α) := by
  intro e h
  cases h

theorem NotApi.bind {α β : Type} {x : Except ListingError α} {f : α → Except ListingError β}
    (hx : NotApi x) (hf : ∀ a, NotApi (f a)) : NotApi (x >>= f) := by
  intro e h
  cases x with
  | error e' =>
      cases h
      exact hx e rfl
  | ok a => exact hf a e h

theorem NotApi.mapError {ε α : Type} (x : Except ε α) {f : ε → ListingError}
    (hf : ∀ e e', f e ≠ .api e') : NotApi (x.mapError f) := by
  intro e h
  cases x with
  | error e' =>
      injection h with h
      exact hf e' e h
  | ok a => cases h

/-! ## Reading a cursor -/

theorem item_notApi (d : JsonDict) (key : String) : NotApi (d.item key) := by
  intro e h
  unfold JsonDict.item at h
  split at h
  · cases h
  · cases h

theorem sentInt_notApi [Driver] (n : Int) : NotApi (sentInt n) :=
  .mapError _ fun _ _ h => by cases h

theorem sentText_notApi [Driver] (text : PyText) : NotApi (sentText text) :=
  .mapError _ fun _ _ h => by cases h

theorem sentTime_notApi {δ : Type} [Timestamps δ] (t : δ) : NotApi (sentTime t) :=
  .mapError _ fun _ _ h => by cases h

section Reading

variable [PyRuntime]

theorem int_notApi (d : JsonDict) (key : String) : NotApi (d.int key) :=
  (item_notApi d key).bind fun _ => .mapError _ fun _ _ h => by cases h

variable [ContainerText]

theorem text_notApi (d : JsonDict) (key : String) : NotApi (d.text key) := by
  refine (item_notApi d key).bind fun v => ?_
  intro e h
  cases v with
  | null | bool _ | int _ | float _ | str _ => cases h
  | list _ | dict _ =>
      dsimp only [JsonValue.text] at h
      split at h
      · cases h
      · cases h

theorem time_notApi {δ : Type} [Timestamps δ] (d : JsonDict) (key : String) :
    NotApi (d.time key : Except ListingError δ) := by
  refine (text_notApi d key).bind fun text => ?_
  intro e h
  split at h
  · cases h
  · cases h

end Reading

/-! ## The objects that the listings read -/

section Listings

variable [PyRuntime] [Driver]

/-- The listing reads the object, and what it raises otherwise is no error of the API. -/
structure Listing.ReadsIff {ρ σ κ ι : Type} (listing : Listing ρ σ κ ι) (fields : JsonDict → Prop) :
    Prop where
  returns : ∀ d, (∃ sent, listing.read d = .ok sent) ↔ fields d
  raises : ∀ d, NotApi (listing.read d)

theorem policy_reads_iff :
    policyListing.ReadsIff fun d => HasInt d "priority" ∧ HasInt d "id" where
  returns d := by
    simp only [policyListing, Lib.bind_eq_ok, hasInt_iff, Except.ok.injEq]
    constructor
    · rintro ⟨sent, priority, hpriority, id, hid, sentPriority, hsentPriority, sentId, hsentId, _⟩
      exact ⟨⟨priority, sentPriority, hpriority, hsentPriority⟩, id, sentId, hid, hsentId⟩
    · rintro ⟨⟨priority, sentPriority, hpriority, hsentPriority⟩, id, sentId, hid, hsentId⟩
      exact ⟨_, priority, hpriority, id, hid, sentPriority, hsentPriority, sentId, hsentId, rfl⟩
  raises d :=
    (int_notApi d _).bind fun _ => (int_notApi d _).bind fun _ =>
      (sentInt_notApi _).bind fun _ => (sentInt_notApi _).bind fun _ => .ok _

variable [ContainerText]

theorem relationship_reads_iff [Collation] :
    relationshipListing.ReadsIff fun d =>
      HasText d "relation" ∧ HasText d "object_type" ∧ HasText d "object_id" ∧ HasInt d "id" where
  returns d := by
    simp only [relationshipListing, Lib.bind_eq_ok, hasText_iff, hasInt_iff, Except.ok.injEq]
    constructor
    · rintro ⟨sent, relation, hrelation, objectType, htype, objectId, hobject, id, hid,
        sentRelation, hsentRelation, sentType, hsentType, sentObject, hsentObject, sentId, hsentId, _⟩
      exact ⟨⟨relation, sentRelation, hrelation, hsentRelation⟩,
        ⟨objectType, sentType, htype, hsentType⟩, ⟨objectId, sentObject, hobject, hsentObject⟩,
        id, sentId, hid, hsentId⟩
    · rintro ⟨⟨relation, sentRelation, hrelation, hsentRelation⟩,
        ⟨objectType, sentType, htype, hsentType⟩, ⟨objectId, sentObject, hobject, hsentObject⟩,
        id, sentId, hid, hsentId⟩
      exact ⟨_, relation, hrelation, objectType, htype, objectId, hobject, id, hid, sentRelation,
        hsentRelation, sentType, hsentType, sentObject, hsentObject, sentId, hsentId, rfl⟩
  raises d :=
    (text_notApi d _).bind fun _ => (text_notApi d _).bind fun _ => (text_notApi d _).bind fun _ =>
      (int_notApi d _).bind fun _ => (sentText_notApi _).bind fun _ =>
        (sentText_notApi _).bind fun _ => (sentText_notApi _).bind fun _ =>
          (sentInt_notApi _).bind fun _ => .ok _

theorem audit_reads_iff {δ : Type} [Timestamps δ] :
    (auditListing (δ := δ)).ReadsIff fun d => HasTime δ d "created_at" ∧ HasInt d "id" where
  returns d := by
    simp only [auditListing, Lib.bind_eq_ok, hasTime_iff, hasInt_iff, Except.ok.injEq]
    constructor
    · rintro ⟨sent, createdAt, htime, id, hid, sentTime, hsentTime, sentId, hsentId, _⟩
      exact ⟨⟨createdAt, sentTime, htime, hsentTime⟩, id, sentId, hid, hsentId⟩
    · rintro ⟨⟨createdAt, sentTime, htime, hsentTime⟩, id, sentId, hid, hsentId⟩
      exact ⟨_, createdAt, htime, id, hid, sentTime, hsentTime, sentId, hsentId, rfl⟩
  raises d :=
    (time_notApi d _).bind fun _ => (int_notApi d _).bind fun _ =>
      (sentTime_notApi _).bind fun _ => (sentInt_notApi _).bind fun _ => .ok _

theorem text_reads_iff [Collation] {ρ : Type} (column : TextColumn) (key : String) (text : ρ → String)
    (id : ρ → Int) :
    (textListing column key text id).ReadsIff fun d => HasText d key ∧ HasInt d "id" where
  returns d := by
    simp only [textListing, Lib.bind_eq_ok, hasText_iff, hasInt_iff, Except.ok.injEq]
    constructor
    · rintro ⟨sent, name, hname, id, hid, sentName, hsentName, sentId, hsentId, _⟩
      exact ⟨⟨name, sentName, hname, hsentName⟩, id, sentId, hid, hsentId⟩
    · rintro ⟨⟨name, sentName, hname, hsentName⟩, id, sentId, hid, hsentId⟩
      exact ⟨_, name, hname, id, hid, sentName, hsentName, sentId, hsentId, rfl⟩
  raises d :=
    (text_notApi d _).bind fun _ => (int_notApi d _).bind fun _ =>
      (sentText_notApi _).bind fun _ => (sentInt_notApi _).bind fun _ => .ok _

end Listings

/-! ## The handlers -/

section Handlers

theorem pageOr422_catching {α : Type} (x : Except ListingError α) :
    PageOr422 (catchingDatabase x) ↔ PageOr422 x := by
  unfold catchingDatabase
  split
  · constructor
    · intro h
      cases h
    · intro h
      cases h
  · rfl

theorem pageOr422_withLimit {α : Type} (limit : Int) (x : Except ListingError α) :
    PageOr422 (withLimit limit x) ↔ limit < 1 ∨ 100 < limit ∨ PageOr422 x := by
  unfold withLimit
  split
  · rename_i hout
    rw [← or_assoc]
    exact ⟨fun _ => .inl hout, fun _ => rfl⟩
  · rename_i hin
    rw [← or_assoc]
    exact ⟨.inr, fun h => h.resolve_left hin⟩

variable [PyRuntime] [RecursionLimit]

/-- What is not decoded is answered with a validation error. -/
theorem decodeCursor_error {cursor : Option String} {e : ApiError}
    (h : decodeCursor cursor = .error e) : e.statusCode = 422 := by
  unfold decodeCursor at h
  split at h
  · cases h
  · split at h
    · cases h
    · split at h
      · cases h
      · cases h
        rfl

omit [RecursionLimit] in
/-- What reading the cursor raises, the page raises. -/
theorem page_raises {ρ σ κ ι : Type} [LinearOrder κ] {listing : Listing ρ σ κ ι} {d : JsonDict}
    {e : ListingError} (h : listing.read d = .error e) (matching : List ρ) (size : Nat) :
    listing.page matching size (some d) = .error e := by
  unfold Listing.page
  dsimp only
  rw [h]
  rfl

omit [RecursionLimit] in
theorem page_returns {ρ σ κ ι : Type} [LinearOrder κ] {listing : Listing ρ σ κ ι} {d : JsonDict}
    {sent : σ} (h : listing.read d = .ok sent) (matching : List ρ) (size : Nat) :
    ∃ page, listing.page matching size (some d) = .ok page := by
  unfold Listing.page
  dsimp only
  rw [h]
  exact ⟨_, rfl⟩

theorem respond_decoded {ι ο : Type} {cursor : Option String} {decoded : Option JsonDict}
    (h : decodeCursor cursor = .ok decoded)
    (page : Option JsonDict → Except ListingError (List ι × Option String)) (out : ι → ο)
    (warnings : List String) (limit : Int) :
    respond page out warnings limit cursor =
      (do
        let (items, nextCursor) ← page decoded
        .ok { data := items.map out, limit, nextCursor, warnings }) := by
  unfold respond
  rw [h]
  rfl

/-- The listing answers as it should exactly to the objects that it reads. -/
theorem pageOr422_respond {ρ σ κ ι ο : Type} [LinearOrder κ] {listing : Listing ρ σ κ ι}
    {fields : JsonDict → Prop} (hreads : listing.ReadsIff fields) (matching : List ρ) (size : Nat)
    (out : ι → ο) (warnings : List String) (limit : Int) (cursor : Option String) :
    PageOr422 (respond (listing.page matching size) out warnings limit cursor) ↔
      ∀ d, decodeCursor cursor = .ok (some d) → fields d := by
  cases hdecoded : decodeCursor cursor with
  | error e =>
      -- what cannot be decoded is answered with 422, whatever the fields
      have hrespond : respond (listing.page matching size) out warnings limit cursor =
          .error (.api e) := by
        unfold respond
        rw [hdecoded]
        rfl
      rw [hrespond]
      constructor
      · intro _ d hd
        cases hd
      · intro _
        exact decodeCursor_error hdecoded
  | ok decoded =>
      rw [respond_decoded hdecoded]
      cases decoded with
      | none =>
          constructor
          · intro _ d hd
            cases hd
          · intro _
            exact trivial
      | some d =>
          constructor
          · intro h d' hd
            cases hd
            -- reading a field is what can raise past the 422
            cases hread : listing.read d with
            | ok sent => exact (hreads.returns d).mp ⟨sent, hread⟩
            | error e =>
                rw [page_raises hread] at h
                cases e with
                | api e => exact absurd hread (hreads.raises d e)
                | raised _ | recursionError | driver _ => exact False.elim h
          · intro hfields
            obtain ⟨sent, hread⟩ := (hreads.returns d).mpr (hfields d rfl)
            obtain ⟨page, hpage⟩ := page_returns hread matching size
            rw [hpage]
            exact trivial

variable [ContainerText] [Driver] [Collation] {δ : Type} [Timestamps δ] [AuditFunctions]

/-- The limit is out of range, or the cursor is none, or it is not decoded, or the object that it is
decoded to has the fields. -/
def CursorUsable (fields : JsonDict → Prop) (limit : Int) (cursor : Option String) : Prop :=
  limit < 1 ∨ 100 < limit ∨ ∀ d, decodeCursor cursor = .ok (some d) → fields d

/-- A listing answers a cursor with a page or a validation error exactly when the limit is out of
range, the cursor is not decoded to an object, or the object has the fields of the listing, which
convert to values that the driver takes. -/
theorem cursor_answered_iff (db : ListedTables δ) (limit : Int) (cursor : Option String) :
    (∀ tenantKey,
      PageOr422 (listPolicies db tenantKey limit cursor) ↔
        CursorUsable (fun d => HasInt d "priority" ∧ HasInt d "id") limit cursor) ∧
    (∀ tenantKey subjectType subjectId,
      PageOr422 (listRelationships db tenantKey subjectType subjectId limit cursor) ↔
        CursorUsable (fun d => HasText d "relation" ∧ HasText d "object_type" ∧
          HasText d "object_id" ∧ HasInt d "id") limit cursor) ∧
    (∀ tenantKey filter,
      PageOr422 (listAuditLogs db tenantKey filter limit cursor) ↔
        CursorUsable (fun d => HasTime δ d "created_at" ∧ HasInt d "id") limit cursor) ∧
    (PageOr422 (listRoles db limit cursor) ↔
      CursorUsable (fun d => HasText d "name" ∧ HasInt d "id") limit cursor) ∧
    (PageOr422 (listPermissions db limit cursor) ↔
      CursorUsable (fun d => HasText d "action" ∧ HasInt d "id") limit cursor) := by
  -- the first three routes catch a `SQLAlchemyError`, the last two do not
  refine ⟨?_, ?_, ?_, ?_, ?_⟩
  · -- policies
    intro tenantKey
    unfold listPolicies
    rw [pageOr422_withLimit, pageOr422_catching]
    unfold PolicyStore.listCurrentPolicyPage
    rw [pageOr422_respond policy_reads_iff]
    rfl
  · -- relationships
    intro tenantKey subjectType subjectId
    unfold listRelationships
    rw [pageOr422_withLimit, pageOr422_catching]
    unfold listForSubjectPage
    rw [pageOr422_respond relationship_reads_iff]
    rfl
  · -- the audit log
    intro tenantKey filter
    unfold listAuditLogs
    rw [pageOr422_withLimit, pageOr422_catching]
    unfold listAuditPage
    rw [pageOr422_respond audit_reads_iff]
    rfl
  · -- roles
    unfold listRoles roleListing
    rw [pageOr422_withLimit, pageOr422_respond (text_reads_iff .roleName "name" Role.name Role.id)]
    rfl
  · -- permissions
    unfold listPermissions permissionListing
    rw [pageOr422_withLimit,
      pageOr422_respond (text_reads_iff .permissionAction "action" Permission.action Permission.id)]
    rfl

end Handlers

/-! ## An object without the fields -/

section EmptyObject

attribute [local instance] plainRuntime sqliteDriver binaryCollation thousandLevels noContainers
  seconds noAuditFunctions

/-- `e30=` is decoded to an object without fields, and the listing of policies raises a `KeyError`. -/
theorem empty_object_raises : ¬PageOr422 (listPolicies tiedTables "acme" 50 (some "e30=")) := by
  have hraises : listPolicies tiedTables "acme" 50 (some "e30=") =
      .error (.raised (.keyError "priority")) := by rfl
  rw [hraises]
  exact id

end EmptyObject

end KeyNetra
