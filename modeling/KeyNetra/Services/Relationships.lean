import KeyNetra.Lib.Grouping
import KeyNetra.Lib.ReadThrough
import KeyNetra.Services.Coherence

/-!
# KeyNetra.Services.Relationships — relationship lists, grouped and cached

Relationships are listed for one subject or one object, for many with one query, and for a subject
through a cache whose entries expire.

* `listForSubjects` / `listForObjects` — the queries for many;
* `grouped_reads` — one query for many is a list for each;
* `RelationshipService.listRelationships` — the list through the cache;
* `relationships_listed` — in every run of creates, listings, requests and expiries the list through
  the cache is that of the table, where no type that is listed contains a colon.

The key of the cache joins the fields of a subject with colons, so that a type with a colon can be
taken for another subject.
-/

namespace KeyNetra

/-! ## Many at once -/

namespace RelationshipTable

variable (t : RelationshipTable) (tenantId : Int)

/-- `SqlRelationshipRepository.list_for_subjects`, by subject, relation, object and id. -/
def listForSubjects (subjectType : String) (subjectIds : List String) :
    String → Option (List RelationshipRecord) :=
  if subjectIds.isEmpty then fun _ => none
  else
    let rows := t.rows.filter fun row =>
      row.tenantId = tenantId ∧ row.record.subjectType = subjectType ∧
        row.record.subjectId ∈ subjectIds
    let rows := Lib.sortOn (fun row => row.record.subjectId)
      (Lib.sortOn (fun row => row.record.relation) (Lib.sortOn (fun row => row.record.objectType)
        (Lib.sortOn (fun row => row.record.objectId) (Lib.sortOn RelationshipRow.id rows))))
    Lib.group subjectIds (rows.map fun row => (row.record.subjectId, row.record))

/-- `SqlRelationshipRepository.list_for_objects`, by object, subject, relation and id. -/
def listForObjects (objects : List (String × String)) :
    String × String → Option (List RelationshipRecord) :=
  if objects.isEmpty then fun _ => none
  else
    let rows := t.rows.filter fun row =>
      row.tenantId = tenantId ∧ objects.contains (row.record.objectType, row.record.objectId)
    let rows := Lib.sortOn (fun row => row.record.objectType)
      (Lib.sortOn (fun row => row.record.objectId)
        (Lib.sortOn (fun row => row.record.subjectType)
          (Lib.sortOn (fun row => row.record.subjectId)
            (Lib.sortOn (fun row => row.record.relation) (Lib.sortOn RelationshipRow.id rows)))))
    Lib.group objects (rows.map fun row =>
      ((row.record.objectType, row.record.objectId), row.record))

variable {t tenantId}

/-- Rows of one key are sorted by it already. -/
theorem sortOn_of_key {α : Type} {key : α → String} {rows : List α} {k : String}
    (h : ∀ row ∈ rows, key row = k) : Lib.sortOn key rows = rows := by
  apply Lib.sortOn_eq_self
  apply List.pairwise_of_forall_mem_list
  intro a ha b hb
  rw [h a ha, h b hb]

theorem listForSubjects_apply (subjectType : String) (subjectIds : List String)
    (subjectId : String) : t.listForSubjects tenantId subjectType subjectIds subjectId =
      if subjectId ∈ subjectIds then some (t.listForSubject tenantId subjectType subjectId)
      else none := by
  unfold listForSubjects
  split
  · rename_i hempty
    rw [List.isEmpty_iff.mp hempty, if_neg List.not_mem_nil]
  · dsimp only
    have hasked : ∀ row ∈ t.rows.filter fun row => row.tenantId = tenantId ∧
        row.record.subjectType = subjectType ∧ row.record.subjectId ∈ subjectIds,
        row.record.subjectId ∈ subjectIds :=
      fun row hrow => (of_decide_eq_true (List.mem_filter.mp hrow).2).2.2
    rw [Lib.group_apply]
    · by_cases hasks : subjectId ∈ subjectIds
      · rw [if_pos hasks, if_pos hasks, List.filter_map, List.map_map]
        -- the rows of one of the subjects, among those of all
        have hrows : (t.rows.filter fun row => row.tenantId = tenantId ∧
              row.record.subjectType = subjectType ∧ row.record.subjectId ∈ subjectIds).filter
                (fun row => row.record.subjectId = subjectId) =
            t.rows.filter fun row => row.tenantId = tenantId ∧
              row.record.subjectType = subjectType ∧ row.record.subjectId = subjectId := by
          rw [List.filter_filter]
          apply List.filter_congr
          intro row _
          rw [← Bool.decide_and, decide_eq_decide]
          constructor
          · rintro ⟨hid, htenant, htype, -⟩
            exact ⟨htenant, htype, hid⟩
          · rintro ⟨htenant, htype, hid⟩
            exact ⟨hid, htenant, htype, hid ▸ hasks⟩
        show some (((Lib.sortOn _ _).filter fun row =>
          decide (row.record.subjectId = subjectId)).map RelationshipRow.record) = _
        rw [Lib.sortOn_filter, Lib.sortOn_filter, Lib.sortOn_filter, Lib.sortOn_filter,
          Lib.sortOn_filter, hrows, sortOn_of_key]
        · rfl
        · intro row hrow
          simp only [Lib.mem_sortOn] at hrow
          exact (of_decide_eq_true (List.mem_filter.mp hrow).2).2.2
      · rw [if_neg hasks, if_neg hasks]
    · intro pair hpair
      obtain ⟨row, hrow, rfl⟩ := List.mem_map.mp hpair
      exact hasked row (by simpa only [Lib.mem_sortOn] using hrow)

theorem listForObjects_apply (objects : List (String × String)) (object : String × String) :
    t.listForObjects tenantId objects object =
      if object ∈ objects then some (t.listForObject tenantId object.1 object.2) else none := by
  unfold listForObjects
  split
  · rename_i hempty
    rw [List.isEmpty_iff.mp hempty, if_neg List.not_mem_nil]
  · dsimp only
    have hasked : ∀ row ∈ t.rows.filter fun row => row.tenantId = tenantId ∧
        objects.contains (row.record.objectType, row.record.objectId),
        (row.record.objectType, row.record.objectId) ∈ objects :=
      fun row hrow => List.contains_iff_mem.mp (of_decide_eq_true (List.mem_filter.mp hrow).2).2
    rw [Lib.group_apply]
    · by_cases hasks : object ∈ objects
      · rw [if_pos hasks, if_pos hasks, List.filter_map, List.map_map]
        -- the rows of one of the objects, among those of all
        have hrows : (t.rows.filter fun row => row.tenantId = tenantId ∧
              objects.contains (row.record.objectType, row.record.objectId)).filter
                (fun row => (row.record.objectType, row.record.objectId) = object) =
            t.rows.filter fun row => row.tenantId = tenantId ∧
              row.record.objectType = object.1 ∧ row.record.objectId = object.2 := by
          rw [List.filter_filter]
          apply List.filter_congr
          intro row _
          rw [← Bool.decide_and, decide_eq_decide]
          constructor
          · rintro ⟨heq, htenant, -⟩
            exact ⟨htenant, congrArg Prod.fst heq, congrArg Prod.snd heq⟩
          · rintro ⟨htenant, htype, hid⟩
            have heq : (row.record.objectType, row.record.objectId) = object := Prod.ext htype hid
            exact ⟨heq, htenant, List.contains_iff_mem.mpr (heq ▸ hasks)⟩
        show some (((Lib.sortOn _ _).filter fun row =>
          decide ((row.record.objectType, row.record.objectId) = object)).map
            RelationshipRow.record) = _
        rw [Lib.sortOn_filter, Lib.sortOn_filter, Lib.sortOn_filter, Lib.sortOn_filter,
          Lib.sortOn_filter, Lib.sortOn_filter, hrows, sortOn_of_key, sortOn_of_key]
        · rfl
        · intro row hrow
          simp only [Lib.mem_sortOn] at hrow
          exact (of_decide_eq_true (List.mem_filter.mp hrow).2).2.2
        · intro row hrow
          simp only [Lib.mem_sortOn] at hrow
          exact (of_decide_eq_true (List.mem_filter.mp hrow).2).2.1
      · rw [if_neg hasks, if_neg hasks]
    · intro pair hpair
      obtain ⟨row, hrow, rfl⟩ := List.mem_map.mp hpair
      exact hasked row (by simpa only [Lib.mem_sortOn] using hrow)

/-- One query for many subjects, or many objects, gives each that is asked for its own list, and
nothing to the others. -/
theorem grouped_reads (t : RelationshipTable) (tenantId : Int) :
    (∀ subjectType subjectIds subjectId,
        t.listForSubjects tenantId subjectType subjectIds subjectId =
          if subjectId ∈ subjectIds then some (t.listForSubject tenantId subjectType subjectId)
          else none) ∧
      ∀ objects object, t.listForObjects tenantId objects object =
        if object ∈ objects then some (t.listForObject tenantId object.1 object.2) else none :=
  ⟨listForSubjects_apply, listForObjects_apply⟩

end RelationshipTable

/-! ## Through the cache -/

section Cached

variable [PyRuntime]

/-- `RelationshipService.list_relationships`. -/
def RelationshipService.listRelationships (w : World) (tenantKey subjectType subjectId : String) :
    Except PyError (List Dict) × World :=
  let tenant := w.tenant tenantKey
  let w := w.ensureTenant tenantKey
  match relationshipCacheGet w.backend tenant.id subjectType subjectId with
  | .error e => (.error e, w)
  | .ok (some cached) => (.ok (cached.map RelationshipRecord.toDict), w)
  | .ok none =>
      let relationships := w.db.relationships.listForSubject tenant.id subjectType subjectId
      (.ok (relationships.map RelationshipRecord.toDict),
        w.withBackend
          (relationshipCacheSet w.backend tenant.id subjectType subjectId relationships))

/-- What reads or writes the cached lists: creates, listings, the hydration of a user by a request,
and the expiry of a document. -/
inductive RelationshipOp where
  | create (tenantKey : String) (record : RelationshipRecord)
  | list (tenantKey subjectType subjectId : String)
  | hydrate (tenantKey subjectId : String)
  | expire (key : String)

/-- One operation. -/
def World.relationshipStep (w : World) : RelationshipOp → World
  | .create tenantKey record => (createRelationship w tenantKey record).2
  | .list tenantKey subjectType subjectId =>
      (RelationshipService.listRelationships w tenantKey subjectType subjectId).2
  | .hydrate tenantKey subjectId =>
      (userRelationships (w.ensureTenant tenantKey) (w.tenant tenantKey).id subjectId).2
  | .expire key => w.withBackend (w.backend.delete key)

/-- The types that are listed contain no colon. -/
def RelationshipOp.Plain : RelationshipOp → Prop
  | .list _ subjectType _ => ':' ∉ subjectType.toList
  | _ => True

/-- The subjects whose type contains no colon. -/
def plainSubjects : Set (Int × String × String) := {subject | ':' ∉ subject.2.1.toList}

/-- The lists of the table. -/
def World.relationshipsOf (w : World) (subject : Int × String × String) : Value :=
  encodeRelationships (w.db.relationships.listForSubject subject.1 subject.2.1 subject.2.2)

/-- The key of a subject. -/
def subjectKey (subject : Int × String × String) : String :=
  relationshipKey subject.1 subject.2.1 subject.2.2

/-- What is cached of a subject is its list. -/
def World.ListsFresh (w : World) : Prop :=
  Lib.Coherent plainSubjects w.backend.documents subjectKey w.relationshipsOf

variable {w : World}

omit [PyRuntime] in
/-- Without a colon in the types, the key tells the subject. -/
theorem subjectKey_inj {subject subject' : Int × String × String} (h : subject ∈ plainSubjects)
    (h' : subject' ∈ plainSubjects) (hkey : subjectKey subject = subjectKey subject') :
    subject = subject' := by
  unfold subjectKey relationshipKey at hkey
  rw [cacheKey_cons_inj (by decide) (by decide),
    cacheKey_cons_inj (Lib.colon_notMem_intRepr _) (Lib.colon_notMem_intRepr _),
    cacheKey_cons_inj h h', Lib.toString_int_inj, cacheKey_single, cacheKey_single] at hkey
  exact Prod.ext hkey.2.1 (Prod.ext hkey.2.2.1 hkey.2.2.2)

omit [PyRuntime] in
/-- Storing the list of a subject keeps the lists fresh. -/
theorem World.ListsFresh.fill (h : w.ListsFresh) {subject : Int × String × String}
    (hplain : subject ∈ plainSubjects) :
    (w.withBackend (relationshipCacheSet w.backend subject.1 subject.2.1 subject.2.2
      (w.db.relationships.listForSubject subject.1 subject.2.1 subject.2.2))).ListsFresh := by
  apply Lib.Coherent.fill h
  · exact Backend.get_set_self w.backend (subjectKey subject) (w.relationshipsOf subject)
  · intro key hne
    exact Backend.get_set_ne w.backend _ hne
  · intro other hother hkey
    rw [subjectKey_inj hother hplain hkey]

/-- A listing of a subject is that of the table, and keeps the lists fresh. -/
theorem listRelationships_spec (h : w.ListsFresh) (tenantKey : String)
    {subjectType : String} (hplain : ':' ∉ subjectType.toList) (subjectId : String) :
    (RelationshipService.listRelationships w tenantKey subjectType subjectId).1 =
        .ok ((w.db.relationships.listForSubject (w.tenant tenantKey).id subjectType subjectId).map
          RelationshipRecord.toDict) ∧
      (RelationshipService.listRelationships w tenantKey subjectType subjectId).2.ListsFresh := by
  have hensured : (w.ensureTenant tenantKey).ListsFresh := h
  have hlive : ((w.tenant tenantKey).id, subjectType, subjectId) ∈ plainSubjects := hplain
  unfold RelationshipService.listRelationships
  dsimp only
  rcases hdoc : w.backend.get (relationshipKey (w.tenant tenantKey).id subjectType subjectId) with
    _ | doc
  · have hget : relationshipCacheGet (w.ensureTenant tenantKey).backend (w.tenant tenantKey).id
        subjectType subjectId = .ok none := relationshipCacheGet_of_none hdoc
    rw [hget]
    exact ⟨rfl, hensured.fill hlive⟩
  · have hrecords := h _ hlive doc hdoc
    rw [hrecords] at hdoc
    have hget : relationshipCacheGet (w.ensureTenant tenantKey).backend (w.tenant tenantKey).id
        subjectType subjectId = .ok (some (w.db.relationships.listForSubject
          (w.tenant tenantKey).id subjectType subjectId)) := relationshipCacheGet_of_doc hdoc
    rw [hget]
    exact ⟨rfl, hensured⟩

omit [PyRuntime] in
/-- The counters and the rest of the tables do not matter to the lists. -/
theorem World.ListsFresh.frame {w' : World} (h : w.ListsFresh)
    (hdocuments : w'.backend.documents = w.backend.documents)
    (hrows : w'.db.relationships = w.db.relationships) : w'.ListsFresh := by
  unfold World.ListsFresh World.relationshipsOf
  rw [hdocuments, hrows]
  exact h

omit [PyRuntime] in
/-- A document that goes keeps the lists fresh. -/
theorem World.ListsFresh.delete (h : w.ListsFresh) (key : String) :
    (w.withBackend (w.backend.delete key)).ListsFresh := by
  apply Lib.Coherent.move h
  intro subject _
  by_cases hkey : subjectKey subject = key
  · right
    rw [hkey]
    exact Backend.get_delete_self w.backend key
  · exact Or.inl ⟨Backend.get_delete_ne w.backend hkey, rfl⟩

omit [PyRuntime] in
/-- A create drops the list of its subject. -/
theorem createRelationship_fresh (h : w.ListsFresh) (tenantKey : String)
    (record : RelationshipRecord) : (createRelationship w tenantKey record).2.ListsFresh := by
  unfold createRelationship
  dsimp only
  rcases hcreate : (w.ensureTenant tenantKey).db.relationships.create (w.tenant tenantKey).id record
    with e | ⟨rowId, relationships⟩
  · exact h.frame rfl rfl
  · let subject : Int × String × String :=
      ((w.tenant tenantKey).id, record.subjectType, record.subjectId)
    apply World.ListsFresh.frame (w := { w with
      db := { w.db with relationships := relationships }
      backend := w.backend.delete (subjectKey subject) })
    · apply Lib.Coherent.move h
      -- the list of the subject is deleted, those of others are as they were
      intro other _
      by_cases hkey : subjectKey other = subjectKey subject
      · right
        show (w.backend.delete (subjectKey subject)).get (subjectKey other) = none
        rw [hkey]
        exact Backend.get_delete_self ..
      · left
        refine ⟨Backend.get_delete_ne w.backend hkey, ?_⟩
        have hlist : relationships.listForSubject other.1 other.2.1 other.2.2 =
            w.db.relationships.listForSubject other.1 other.2.1 other.2.2 := by
          apply RelationshipTable.listForSubject_create hcreate
          rintro ⟨htenant, htype, hid⟩
          exact hkey (congrArg subjectKey (Prod.ext htenant.symm (Prod.ext htype.symm hid.symm)))
        exact congrArg encodeRelationships hlist
    · rfl
    · rfl

/-- The relationships of a user are those of the table, and the lists stay fresh. -/
theorem userRelationships_fresh (h : w.ListsFresh) (tenantId : Int) (subjectId : String) :
    (userRelationships w tenantId subjectId).2.ListsFresh := by
  have hlive : (tenantId, "user", subjectId) ∈ plainSubjects := by
    show ':' ∉ "user".toList
    decide
  unfold userRelationships
  split
  · exact h
  · exact h.fill hlive

theorem relationshipStep_fresh (h : w.ListsFresh) {op : RelationshipOp} (hplain : op.Plain) :
    (w.relationshipStep op).ListsFresh := by
  cases op with
  | create tenantKey record => exact createRelationship_fresh h tenantKey record
  | list tenantKey subjectType subjectId =>
      exact (listRelationships_spec h tenantKey hplain subjectId).2
  | hydrate tenantKey subjectId =>
      have hensured : (w.ensureTenant tenantKey).ListsFresh := h
      exact userRelationships_fresh hensured _ subjectId
  | expire key => exact h.delete key

/-- In every run of creates, listings, requests and expiries, of any tenants, the list through the
cache is that of the table, where no type that is listed contains a colon. -/
theorem relationships_listed
    (hcold : ∀ subject, w.backend.get (subjectKey subject) = none) {ops : List RelationshipOp}
    (hplain : ∀ op ∈ ops, op.Plain) (tenantKey : String) {subjectType : String}
    (htype : ':' ∉ subjectType.toList) (subjectId : String) :
    let w' := Lib.run World.relationshipStep w ops
    (RelationshipService.listRelationships w' tenantKey subjectType subjectId).1 =
      .ok ((w'.db.relationships.listForSubject (w'.tenant tenantKey).id subjectType subjectId).map
        RelationshipRecord.toDict) := by
  have hstart : w.ListsFresh := Lib.coherent_of_empty fun subject _ => hcold subject
  have hrun : (Lib.run World.relationshipStep w ops).ListsFresh := by
    refine @Lib.run_invariant World RelationshipOp World.relationshipStep (fun _ op => op.Plain)
      World.ListsFresh ?_ w ops hstart (Lib.along_of_forall hplain)
    exact fun w op hfresh hop => relationshipStep_fresh hfresh hop
  exact (listRelationships_spec hrun tenantKey htype subjectId).1

end Cached

section Concrete

attribute [local instance] plainRuntime

attribute [local semireducible] cacheKey

/-- User 7 is a member of the engineers. -/
def membership : RelationshipRecord := ⟨"user", "7", "member_of", "team", "engineers"⟩

/-- The list is cached before the relationship is created. -/
def membershipOps : List RelationshipOp :=
  [.list "acme" "user" "7", .create "acme" membership]

theorem membership_listed :
    (RelationshipService.listRelationships (Lib.run World.relationshipStep blankWorld membershipOps)
      "acme" "user" "7").1 = .ok [membership.toDict] := by
  have hplain : ∀ op ∈ membershipOps, op.Plain := by
    intro op hop
    rcases List.mem_cons.mp hop with rfl | hop
    · show ':' ∉ "user".toList
      decide
    · rw [List.mem_singleton.mp hop]
      trivial
  have htype : ':' ∉ "user".toList := by decide
  have hlisted := relationships_listed (w := blankWorld) (fun _ => rfl) hplain "acme" htype "7"
  have hrows : (Lib.run World.relationshipStep blankWorld
      membershipOps).db.relationships.listForSubject
        ((Lib.run World.relationshipStep blankWorld membershipOps).tenant "acme").id "user" "7" =
      [membership] := by
    decide +kernel
  dsimp only at hlisted
  rw [hlisted, hrows]
  rfl

end Concrete

end KeyNetra
