import KeyNetra.Api.Listings

/-!
# KeyNetra.Api.CursorPaging — following the cursors of the listings

Each listing writes its condition on the columns out by hand. With the fields of a row in the cursor
the condition is the order behind that row, so the pages are those of `Lib.Paging`, and a client
that follows the cursors visits every matching row once, in order.

* `Listing.Follows` — the cursor of a row lets through the rows behind it;
* `policy_follows`, `relationship_follows`, `audit_follows`, `text_follows` — the five conditions;
* `respond_serves` — a listing whose rows follow answers with the pages of its sorted rows;
* `visitsOnce_of_follows` — so a client that follows the cursors visits every row once;
* `rows_visited_once` — which holds of the five handlers.
-/

namespace KeyNetra

/-! ## Distinct rows, limits and values sent -/

/-- A version is joined to no more than one policy. -/
theorem listedRows_ids (s : PolicyStore) (tenantId : Int) :
    ((s.listedRows tenantId).map fun row => row.1.id).Nodup := by
  have hjoined : s.joined.Nodup :=
    (List.Nodup.of_map _ s.versionIds).product (List.Nodup.of_map _ s.policyIds)
  apply List.Nodup.map_on _ (hjoined.filter _)
  intro a ha b hb hid
  obtain ⟨haJoined, haRow⟩ := List.mem_filter.mp ha
  obtain ⟨hbJoined, hbRow⟩ := List.mem_filter.mp hb
  obtain ⟨haVersion, haPolicy⟩ := List.mem_product.mp haJoined
  obtain ⟨hbVersion, hbPolicy⟩ := List.mem_product.mp hbJoined
  have hversion : a.1 = b.1 := Lib.eq_of_key_eq s.versionIds haVersion hbVersion hid
  have hpolicyId : a.2.id = b.2.id := by
    rw [(of_decide_eq_true haRow).1, (of_decide_eq_true hbRow).1, hversion]
  exact Prod.ext hversion (Lib.eq_of_key_eq s.policyIds haPolicy hbPolicy hpolicyId)

/-- Rows with distinct ids stand at distinct places of an order that ends with the id. -/
theorem order_nodup {ρ κ ν : Type} {rows : List ρ} {id : ρ → ν} {order : ρ → κ} (last : κ → ν)
    (hlast : ∀ row, last (order row) = id row) (h : (rows.map id).Nodup) :
    (rows.map order).Nodup := by
  apply List.Nodup.of_map last
  rw [List.map_map]
  have hid : last ∘ order = id := funext hlast
  rw [hid]
  exact h

/-- The limits that the listings admit. -/
def AdmittedLimit (limit : Nat) : Prop := 1 ≤ limit ∧ limit ≤ 100

theorem withLimit_admitted {limit : Nat} (h : AdmittedLimit limit)
    {α : Type} (answer : Except ListingError α) : withLimit (limit : Int) answer = answer := by
  obtain ⟨hlow, hhigh⟩ := h
  unfold withLimit
  rw [if_neg (by omega)]

theorem sentInt_taken [Driver] {n : Int} (h : TakesInt n) : sentInt n = .ok n := mapError_ok.mpr h.2

theorem sentText_taken [Driver] {s : String} (h : TakesText s) : sentText (codePoints s) = .ok s :=
  mapError_ok.mpr h

section Paging

variable [PyRuntime] [RecursionLimit] [ContainerText] [Driver] [Collation]

/-! ## Conditions that follow the order -/

/-- The condition of a decoded cursor lets through the rows behind the row. -/
def Listing.LetsThrough {ρ σ κ ι : Type} [LinearOrder κ] (listing : Listing ρ σ κ ι)
    (d : JsonDict) (row : ρ) : Prop :=
  ∃ sent, listing.read d = .ok sent ∧
    ∀ other, listing.behind sent other = true ↔ listing.order row < listing.order other

/-- The cursor of the row is read back, and lets through the rows behind it. -/
structure Listing.Follows {ρ σ κ ι : Type} [LinearOrder κ] (listing : Listing ρ σ κ ι) (row : ρ) :
    Prop where
  keys : ((listing.payload row).map Prod.fst).Nodup
  fits : ∀ item ∈ listing.payload row, item.2.Fits
  read : ∀ d : JsonDict,
    (∀ key field, (key, field) ∈ listing.payload row → d.get? (codePoints key) = some field.value) →
      listing.LetsThrough d row

omit [RecursionLimit] [ContainerText] [Collation] in
theorem policy_follows {row : PolicyVersion × Policy} (hpriority : TakesInt row.1.priority)
    (hid : TakesInt row.1.id) : policyListing.Follows row where
  keys := by
    show ["priority", "id"].Nodup
    decide
  fits := by
    intro item hitem
    rcases List.mem_cons.mp hitem with rfl | hitem
    · exact hpriority.1
    · rw [List.mem_singleton.mp hitem]
      exact hid.1
  read d hd := by
    have hreadPriority : d.int "priority" = .ok row.1.priority :=
      int_written (hd "priority" _ List.mem_cons_self)
    have hreadId : d.int "id" = .ok row.1.id :=
      int_written (hd "id" _ (List.mem_cons_of_mem _ List.mem_cons_self))
    refine ⟨(row.1.priority, row.1.id), ?_, ?_⟩
    · show (do
        let priority ← d.int "priority"
        let id ← d.int "id"
        .ok (← sentInt priority, ← sentInt id)) = _
      rw [hreadPriority, hreadId, Lib.ok_bind, Lib.ok_bind, sentInt_taken hpriority,
        sentInt_taken hid]
      rfl
    · -- `priority > p or (priority = p and id > i)` is the order of the pairs
      intro other
      show (decide (row.1.priority < other.1.priority) ||
        (decide (other.1.priority = row.1.priority) && decide (row.1.id < other.1.id))) = true ↔
          toLex (row.1.priority, row.1.id) < toLex (other.1.priority, other.1.id)
      rw [Prod.Lex.toLex_lt_toLex, Bool.or_eq_true, Bool.and_eq_true, decide_eq_true_eq,
        decide_eq_true_eq, decide_eq_true_eq, eq_comm]

omit [RecursionLimit] in
theorem relationship_follows {row : RelationshipRow} (hrelation : TakesText row.record.relation)
    (htype : TakesText row.record.objectType) (hobject : TakesText row.record.objectId)
    (hid : TakesInt row.id) : relationshipListing.Follows row where
  keys := by
    show ["relation", "object_type", "object_id", "id"].Nodup
    decide
  fits := by
    intro item hitem
    simp only [relationshipListing, List.mem_cons, List.not_mem_nil, or_false] at hitem
    rcases hitem with rfl | rfl | rfl | rfl
    · exact trivial
    · exact trivial
    · exact trivial
    · exact hid.1
  read d hd := by
    simp only [relationshipListing, List.mem_cons, List.not_mem_nil, or_false] at hd
    -- the four columns are read back as they were written
    have hreadRelation : d.text "relation" = .ok (codePoints row.record.relation) :=
      text_written (hd _ _ (.inl rfl))
    have hreadType : d.text "object_type" = .ok (codePoints row.record.objectType) :=
      text_written (hd _ _ (.inr (.inl rfl)))
    have hreadObject : d.text "object_id" = .ok (codePoints row.record.objectId) :=
      text_written (hd _ _ (.inr (.inr (.inl rfl))))
    have hreadId : d.int "id" = .ok row.id := int_written (hd _ _ (.inr (.inr (.inr rfl))))
    refine ⟨⟨⟨row.record.relation⟩, ⟨row.record.objectType⟩, ⟨row.record.objectId⟩, row.id⟩, ?_, ?_⟩
    · simp only [relationshipListing]
      rw [hreadRelation, hreadType, hreadObject, hreadId, Lib.ok_bind, Lib.ok_bind, Lib.ok_bind,
        Lib.ok_bind, sentText_taken hrelation, sentText_taken htype, sentText_taken hobject,
        sentInt_taken hid]
      rfl
    · -- the disjunction of the query is the lexicographic order of the four columns
      intro other
      simp only [relationshipListing, Prod.Lex.toLex_lt_toLex, Bool.or_eq_true, Bool.and_eq_true,
        decide_eq_true_eq]
      constructor
      · rintro (((h | ⟨hr, h⟩) | ⟨⟨hr, ht⟩, h⟩) | ⟨⟨⟨hr, ht⟩, ho⟩, h⟩)
        · exact .inl h
        · exact .inr ⟨hr.symm, .inl h⟩
        · exact .inr ⟨hr.symm, .inr ⟨ht.symm, .inl h⟩⟩
        · exact .inr ⟨hr.symm, .inr ⟨ht.symm, .inr ⟨ho.symm, h⟩⟩⟩
      · rintro (h | ⟨hr, h | ⟨ht, h | ⟨ho, h⟩⟩⟩)
        · exact .inl (.inl (.inl h))
        · exact .inl (.inl (.inr ⟨hr.symm, h⟩))
        · exact .inl (.inr ⟨⟨hr.symm, ht.symm⟩, h⟩)
        · exact .inr ⟨⟨⟨hr.symm, ht.symm⟩, ho.symm⟩, h⟩

omit [RecursionLimit] [Collation] in
theorem audit_follows {δ : Type} [Timestamps δ] {log : AuditLog δ}
    (htime : Timestamps.sent log.createdAt = .ok log.createdAt) (hid : TakesInt log.id) :
    auditListing.Follows log where
  keys := by
    show ["created_at", "id"].Nodup
    decide
  fits := by
    intro item hitem
    rcases List.mem_cons.mp hitem with rfl | hitem
    · exact trivial
    · rw [List.mem_singleton.mp hitem]
      exact hid.1
  read d hd := by
    -- both columns are read back as they were written
    have hreadTime : d.time "created_at" = .ok log.createdAt :=
      time_written (hd "created_at" _ List.mem_cons_self)
    have hreadId : d.int "id" = .ok log.id :=
      int_written (hd "id" _ (List.mem_cons_of_mem _ List.mem_cons_self))
    have hsentTime : sentTime log.createdAt = .ok log.createdAt := mapError_ok.mpr htime
    refine ⟨(log.createdAt, log.id), ?_, ?_⟩
    · simp only [auditListing]
      rw [hreadTime, hreadId, Lib.ok_bind, Lib.ok_bind, hsentTime, sentInt_taken hid]
      rfl
    · -- behind the cursor is what is smaller in the pair, for the listing is newest first
      intro other
      simp only [auditListing, Prod.Lex.toLex_lt_toLex, Bool.or_eq_true, Bool.and_eq_true,
        decide_eq_true_eq, OrderDual.toDual_lt_toDual, OrderDual.toDual_inj]
      rw [eq_comm]

omit [RecursionLimit] in
theorem text_follows {ρ : Type} (column : TextColumn) {key : String} (hkey : key ≠ "id")
    {text : ρ → String} {id : ρ → Int} {row : ρ} (htext : TakesText (text row))
    (hid : TakesInt (id row)) : (textListing column key text id).Follows row where
  keys := by
    show [key, "id"].Nodup
    rw [List.nodup_cons]
    exact ⟨fun hmem => hkey (List.mem_singleton.mp hmem), List.nodup_singleton _⟩
  fits := by
    intro item hitem
    rcases List.mem_cons.mp hitem with rfl | hitem
    · exact trivial
    · rw [List.mem_singleton.mp hitem]
      exact hid.1
  read d hd := by
    -- the text is read back, and the id
    have hreadText : d.text key = .ok (codePoints (text row)) :=
      text_written (hd key _ List.mem_cons_self)
    have hreadId : d.int "id" = .ok (id row) :=
      int_written (hd "id" _ (List.mem_cons_of_mem _ List.mem_cons_self))
    refine ⟨(⟨text row⟩, id row), ?_, ?_⟩
    · simp only [textListing]
      rw [hreadText, hreadId, Lib.ok_bind, Lib.ok_bind, sentText_taken htext, sentInt_taken hid]
      rfl
    · -- behind the cursor is what is greater, the id deciding among equal texts
      intro other
      simp only [textListing, Prod.Lex.toLex_lt_toLex, Bool.or_eq_true, Bool.and_eq_true,
        decide_eq_true_eq]
      rw [eq_comm]

/-! ## Pages of the sorted rows -/

section Pages

variable {ρ σ κ ι ο : Type} [LinearOrder κ] {listing : Listing ρ σ κ ι} {matching : List ρ}

/-- The cursor after a row. -/
def Listing.cursorAfter (listing : Listing ρ σ κ ι) (row : ρ) : String :=
  encodeCursor (listing.payload row)

/-- The decoded cursor is none, or tells of the last row seen. -/
inductive Listing.TellsOf (listing : Listing ρ σ κ ι) : Option JsonDict → Option ρ → Prop where
  | start : listing.TellsOf none none
  | after {d : JsonDict} {row : ρ} (h : listing.LetsThrough d row) :
      listing.TellsOf (some d) (some row)

omit [RecursionLimit] [ContainerText] [Driver] [Collation] in
/-- The rows of a page are those behind the cursor, of the sorted ones. -/
theorem page_of_tells (limit : Nat) {cursor : Option JsonDict} {last : Option ρ}
    (h : listing.TellsOf cursor last) :
    let page := Lib.Paging.page listing.order (Lib.sortOn listing.order matching) limit last
    listing.page matching limit cursor =
      .ok (page.1.map listing.item, page.2.map listing.cursorAfter) := by
  -- what is selected, in order, is what lies behind the last row
  have hpage : ∀ selected : List ρ,
      Lib.sortOn listing.order selected =
        Lib.Paging.behind listing.order (Lib.sortOn listing.order matching) last →
      (let rows := (Lib.sortOn listing.order selected).take (limit + 1)
       let pageRows := rows.take limit
       let nextCursor :=
         if limit < rows.length then
           pageRows.getLast?.map fun row => encodeCursor (listing.payload row)
         else none
       (Except.ok (pageRows.map listing.item, nextCursor) :
         Except ListingError (List ι × Option String))) =
        let page := Lib.Paging.page listing.order (Lib.sortOn listing.order matching) limit last
        .ok (page.1.map listing.item, page.2.map listing.cursorAfter) := by
    intro selected hselected
    unfold Lib.Paging.page
    dsimp only
    rw [hselected]
    split
    · rfl
    · rfl
  cases h with
  | start => exact hpage matching rfl
  | after h =>
      obtain ⟨sent, hread, hbehind⟩ := h
      unfold Listing.page
      dsimp only
      rw [hread, Lib.ok_bind, Lib.ok_bind]
      apply hpage
      -- the filter of the query comes before the sort, the one of the page after it
      rw [← Lib.sortOn_filter]
      unfold Lib.Paging.behind
      dsimp only
      apply List.filter_congr
      intro other _
      rw [Bool.eq_iff_iff, hbehind other, decide_eq_true_eq]

/-- What a client reads of a response. -/
def ListResponse.page (response : ListResponse ο) : List ο × Option String :=
  (response.data, response.nextCursor)

omit [ContainerText] [Driver] [Collation] in
/-- A listing whose rows follow answers with the pages of its sorted rows. -/
theorem respond_serves (hfollows : ∀ row ∈ matching, listing.Follows row) (out : ι → ο)
    (warnings : List String) :
    Lib.Paging.Serves listing.order
      (fun limit cursor =>
        (respond (listing.page matching limit) out warnings limit cursor).map ListResponse.page)
      (Lib.sortOn listing.order matching) (fun row => out (listing.item row)) listing.cursorAfter
      AdmittedLimit := by
  intro limit last _ hlast
  -- the response is that of the page, once its cursor is decoded
  have hresponse : ∀ decoded, decodeCursor (last.map listing.cursorAfter) = .ok decoded →
      (let page := Lib.Paging.page listing.order (Lib.sortOn listing.order matching) limit last
       listing.page matching limit decoded =
        .ok (page.1.map listing.item, page.2.map listing.cursorAfter)) →
      (respond (listing.page matching limit) out warnings limit
        (last.map listing.cursorAfter)).map ListResponse.page =
      (let page := Lib.Paging.page listing.order (Lib.sortOn listing.order matching) limit last
       .ok (page.1.map fun row => out (listing.item row), page.2.map listing.cursorAfter)) := by
    intro decoded hdecoded hpage
    unfold respond
    rw [hdecoded]
    show (listing.page matching limit decoded >>= _).map _ = _
    rw [hpage, Lib.ok_bind]
    show Except.ok (List.map out (List.map listing.item _), _) = _
    rw [List.map_map]
    rfl
  cases last with
  | none => exact hresponse none rfl (page_of_tells limit .start)
  | some row =>
      have hrow := hfollows row (Lib.mem_sortOn.mp (hlast row rfl))
      -- the cursor was made by the page before, of a row that follows
      obtain ⟨d, hdecoded, hfields⟩ := decode_encode hrow.keys hrow.fits
      exact hresponse (some d) hdecoded (page_of_tells limit (.after (hrow.read d hfields)))

/-- The handler takes a client that follows its cursors, with limits that it admits, to every
matching row once, in strict order, and to an end. -/
def VisitsOnce (handler : Int → Option String → Except ListingError (ListResponse ο))
    (matching : List ρ) (order : ρ → κ) (out : ρ → ο) : Prop :=
  ∀ limits : Nat → Nat, (∀ i, AdmittedLimit (limits i)) →
    ∃ (pages : Nat) (rows : List ρ), rows.Perm matching ∧ rows.Pairwise (fun a b => order a < order b) ∧
      Lib.Paging.follow (fun limit cursor => (handler limit cursor).map ListResponse.page)
        ((List.range pages).map limits) none = some (rows.map out)

omit [ContainerText] [Driver] [Collation] in
/-- A handler that answers with the pages of a listing visits every row once. -/
theorem visitsOnce_of_follows (hfollows : ∀ row ∈ matching, listing.Follows row)
    (hdistinct : (matching.map listing.order).Nodup) (out : ι → ο) (warnings : List String)
    {handler : Int → Option String → Except ListingError (ListResponse ο)}
    (hhandler : ∀ limit : Nat, AdmittedLimit limit → ∀ cursor response,
      respond (listing.page matching limit) out warnings limit cursor = .ok response →
        handler limit cursor = .ok response) :
    VisitsOnce handler matching listing.order fun row => out (listing.item row) := by
  intro limits hlimits
  have hserves : Lib.Paging.Serves listing.order
      (fun limit cursor => (handler limit cursor).map ListResponse.page)
      (Lib.sortOn listing.order matching) (fun row => out (listing.item row)) listing.cursorAfter
      AdmittedLimit := by
    -- a page of the handler is one of the listing, wherever it starts
    intro limit last hlimit hlast
    have hresponds := respond_serves hfollows out warnings limit last hlimit hlast
    dsimp only at hresponds ⊢
    cases hresponse : respond (listing.page matching limit) out warnings limit
        (last.map listing.cursorAfter) with
    | error e =>
        rw [hresponse] at hresponds
        cases hresponds
    | ok response =>
        rw [hhandler limit hlimit _ _ hresponse, ← hresponse]
        exact hresponds
  obtain ⟨pages, hpages⟩ := Lib.Paging.follow_serves hserves (Lib.pairwise_lt_sortOn hdistinct)
    (fun limit hlimit => hlimit.1) hlimits
  exact ⟨pages, _, Lib.perm_sortOn _ matching, Lib.pairwise_lt_sortOn hdistinct, hpages⟩

end Pages

/-! ## The listings -/

section Tables

variable {δ : Type} [Timestamps δ] [AuditFunctions]

/-- The integers of the tables are ones that a column holds, and the driver takes back what the
columns of the listings hold. -/
structure ListedTables.TakenBack (db : ListedTables δ) : Prop where
  policies : ∀ v ∈ db.policies.versions, TakesInt v.priority ∧ TakesInt v.id
  relationships : ∀ row ∈ db.relationships, TakesText row.record.relation ∧
    TakesText row.record.objectType ∧ TakesText row.record.objectId ∧ TakesInt row.id
  auditLogs : ∀ log ∈ db.auditLogs,
    Timestamps.sent log.createdAt = .ok log.createdAt ∧ TakesInt log.id
  roles : ∀ role ∈ db.roles, TakesText role.name ∧ TakesInt role.id
  permissions : ∀ permission ∈ db.permissions, TakesText permission.action ∧ TakesInt permission.id

omit [ContainerText] [Collation] [AuditFunctions] in
theorem policies_visited {db : ListedTables δ} (h : db.TakenBack) (tenantKey : String) :
    VisitsOnce (listPolicies db tenantKey) (db.policies.listedRows (db.tenantId tenantKey))
      policyListing.order fun row => (policyView row).out := by
  have hfollows : ∀ row ∈ db.policies.listedRows (db.tenantId tenantKey),
      policyListing.Follows row := by
    intro row hrow
    obtain ⟨hversion, _⟩ := List.mem_product.mp (List.mem_of_mem_filter hrow)
    exact policy_follows (h.policies _ hversion).1 (h.policies _ hversion).2
  have hdistinct : ((db.policies.listedRows (db.tenantId tenantKey)).map
      policyListing.order).Nodup :=
    order_nodup (fun k => (ofLex k).2) (fun _ => rfl) (listedRows_ids _ _)
  apply visitsOnce_of_follows hfollows hdistinct PolicyListItem.out
    (lint db.policies (db.roles.map Role.name) (db.tenantId tenantKey))
  intro limit hlimit cursor response hresponse
  unfold listPolicies
  rw [withLimit_admitted hlimit, Int.toNat_natCast]
  unfold PolicyStore.listCurrentPolicyPage
  rw [hresponse]
  rfl

omit [AuditFunctions] in
theorem relationships_visited {db : ListedTables δ} (h : db.TakenBack)
    (tenantKey subjectType subjectId : String) :
    VisitsOnce (listRelationships db tenantKey subjectType subjectId)
      (relationshipsOf db.relationships (db.tenantId tenantKey) subjectType subjectId)
      relationshipListing.order fun row => row.record.toDict := by
  have hfollows : ∀ row ∈ relationshipsOf db.relationships (db.tenantId tenantKey) subjectType
      subjectId, relationshipListing.Follows row := by
    intro row hrow
    obtain ⟨hrelation, htype, hobject, hid⟩ := h.relationships row (List.mem_of_mem_filter hrow)
    exact relationship_follows hrelation htype hobject hid
  have hdistinct : ((relationshipsOf db.relationships (db.tenantId tenantKey) subjectType
      subjectId).map relationshipListing.order).Nodup :=
    order_nodup (fun k => (ofLex (ofLex (ofLex k).2).2).2) (fun _ => rfl)
      (Lib.nodup_map_filter _ db.relationshipIds)
  apply visitsOnce_of_follows hfollows hdistinct RelationshipRecord.toDict []
  intro limit hlimit cursor response hresponse
  unfold listRelationships
  rw [withLimit_admitted hlimit, Int.toNat_natCast]
  unfold listForSubjectPage
  rw [hresponse]
  rfl

omit [Collation] in
theorem auditLogs_visited {db : ListedTables δ} (h : db.TakenBack) (tenantKey : String)
    (filter : AuditFilter δ) :
    VisitsOnce (listAuditLogs db tenantKey filter)
      (auditLogsOf db.auditLogs (db.tenantId tenantKey) filter) auditListing.order
      AuditLog.toItem := by
  have hfollows : ∀ log ∈ auditLogsOf db.auditLogs (db.tenantId tenantKey) filter,
      auditListing.Follows log := by
    intro log hlog
    obtain ⟨htime, hid⟩ := h.auditLogs log (List.mem_of_mem_filter hlog)
    exact audit_follows htime hid
  have hdistinct : ((auditLogsOf db.auditLogs (db.tenantId tenantKey) filter).map
      auditListing.order).Nodup :=
    order_nodup (fun k => OrderDual.ofDual (ofLex k).2) (fun _ => rfl)
      (Lib.nodup_map_filter _ db.auditIds)
  apply visitsOnce_of_follows hfollows hdistinct id []
  intro limit hlimit cursor response hresponse
  unfold listAuditLogs
  rw [withLimit_admitted hlimit, Int.toNat_natCast]
  unfold listAuditPage
  rw [hresponse]
  rfl

omit [AuditFunctions] in
theorem roles_visited {db : ListedTables δ} (h : db.TakenBack) :
    VisitsOnce (listRoles db) db.roles roleListing.order id := by
  have hfollows : ∀ role ∈ db.roles, roleListing.Follows role := by
    intro role hrole
    exact text_follows .roleName (by decide) (h.roles role hrole).1 (h.roles role hrole).2
  have hdistinct : (db.roles.map roleListing.order).Nodup :=
    order_nodup (fun k => (ofLex k).2) (fun _ => rfl) db.roleIds
  apply visitsOnce_of_follows hfollows hdistinct id []
  intro limit hlimit cursor response hresponse
  unfold listRoles
  rw [withLimit_admitted hlimit, Int.toNat_natCast]
  exact hresponse

omit [AuditFunctions] in
theorem permissions_visited {db : ListedTables δ} (h : db.TakenBack) :
    VisitsOnce (listPermissions db) db.permissions permissionListing.order id := by
  have hfollows : ∀ permission ∈ db.permissions, permissionListing.Follows permission := by
    intro permission hpermission
    obtain ⟨haction, hid⟩ := h.permissions permission hpermission
    exact text_follows .permissionAction (by decide) haction hid
  have hdistinct : (db.permissions.map permissionListing.order).Nodup :=
    order_nodup (fun k => (ofLex k).2) (fun _ => rfl) db.permissionIds
  apply visitsOnce_of_follows hfollows hdistinct id []
  intro limit hlimit cursor response hresponse
  unfold listPermissions
  rw [withLimit_admitted hlimit, Int.toNat_natCast]
  exact hresponse

/-- Following the cursors of a listing visits every matching row once, in the listing's order, and
comes to an end. -/
theorem rows_visited_once {db : ListedTables δ} (h : db.TakenBack) :
    (∀ tenantKey,
      VisitsOnce (listPolicies db tenantKey) (db.policies.listedRows (db.tenantId tenantKey))
        policyListing.order fun row => (policyView row).out) ∧
    (∀ tenantKey subjectType subjectId,
      VisitsOnce (listRelationships db tenantKey subjectType subjectId)
        (relationshipsOf db.relationships (db.tenantId tenantKey) subjectType subjectId)
        relationshipListing.order fun row => row.record.toDict) ∧
    (∀ tenantKey filter,
      VisitsOnce (listAuditLogs db tenantKey filter)
        (auditLogsOf db.auditLogs (db.tenantId tenantKey) filter) auditListing.order
        AuditLog.toItem) ∧
    VisitsOnce (listRoles db) db.roles roleListing.order id ∧
    VisitsOnce (listPermissions db) db.permissions permissionListing.order id :=
  ⟨policies_visited h, relationships_visited h, auditLogs_visited h, roles_visited h,
    permissions_visited h⟩

end Tables

end Paging

/-! ## Tables with ties -/

section Ties

/-- The driver of SQLite: integers of 64 bits, and texts that have a UTF-8. -/
@[reducible] def sqliteDriver : Driver where
  int n := if -2 ^ 63 ≤ n ∧ n < 2 ^ 63 then .ok n else .error .unwrapped
  text t := if wellFormed t then .ok (String.ofList (t.map Char.ofNat)) else .error .unwrapped

/-- The binary collation. -/
@[reducible] def binaryCollation : Collation where
  order _ := inferInstance

theorem thousandLevels_flat : 0 < 1000 := by decide

@[reducible] def thousandLevels : RecursionLimit := ⟨1000, thousandLevels_flat⟩

/-- No list and no object is converted to a text. -/
@[reducible] def noContainers : ContainerText := ⟨fun _ => none⟩

/-- The first seconds of an hour. -/
def secondText (t : Fin 10) : String := s!"2026-01-05T10:00:0{t.val}"

def secondOfText (text : PyText) : Option (Fin 10) :=
  (List.finRange 10).find? fun t => codePoints (secondText t) = text

theorem secondOfText_secondText : ∀ t, secondOfText (codePoints (secondText t)) = some t := by
  decide +kernel

@[reducible] def seconds : Timestamps (Fin 10) where
  isoformat := secondText
  fromisoformat := secondOfText
  sent t := .ok t
  roundTrip := secondOfText_secondText

attribute [local instance] plainRuntime sqliteDriver binaryCollation thousandLevels noContainers
  seconds

@[reducible] def noAuditFunctions : AuditFunctions where
  jsonField _ _ := none
  upper text := text

attribute [local instance] noAuditFunctions

/-- One tuple, stored three times. -/
def tiedRelationships : List RelationshipRow :=
  [3, 1, 2].map fun id => ⟨id, 1, ⟨"user", "alice", "viewer", "document", "d1"⟩⟩

theorem tiedRelationships_ids : (tiedRelationships.map RelationshipRow.id).Nodup := by decide

theorem acmeIds : ([⟨1, "acme", 1, 1⟩] : List TenantRecord).map TenantRecord.id |>.Nodup := by decide

theorem acmeKeys : ([⟨1, "acme", 1, 1⟩] : List TenantRecord).map TenantRecord.tenantKey |>.Nodup := by
  decide

def tiedTables : ListedTables (Fin 10) where
  tenants := ⟨[⟨1, "acme", 1, 1⟩], acmeIds, acmeKeys⟩
  policies := .empty
  relationships := tiedRelationships
  auditLogs := []
  roles := []
  permissions := []
  relationshipIds := tiedRelationships_ids
  auditIds := List.nodup_nil
  roleIds := List.nodup_nil
  permissionIds := List.nodup_nil

theorem tiedTables_takenBack : tiedTables.TakenBack where
  policies := by
    intro v hv
    cases hv
  relationships := by
    intro row hrow
    have hall : ∀ row ∈ tiedRelationships, TakesText row.record.relation ∧
        TakesText row.record.objectType ∧ TakesText row.record.objectId ∧ TakesInt row.id := by
      simp only [tiedRelationships, List.map_cons, List.map_nil, List.forall_mem_cons]
      unfold TakesInt FitsInteger TakesText
      decide +kernel
    exact hall row hrow
  auditLogs := by
    intro log hlog
    cases hlog
  roles := by
    intro role hrole
    cases hrole
  permissions := by
    intro permission hpermission
    cases hpermission

theorem tied_visited_once :
    VisitsOnce (listRelationships tiedTables "acme" "user" "alice")
      (relationshipsOf tiedTables.relationships (tiedTables.tenantId "acme") "user" "alice")
      relationshipListing.order fun row => row.record.toDict :=
  (rows_visited_once tiedTables_takenBack).2.1 "acme" "user" "alice"

end Ties

end KeyNetra
