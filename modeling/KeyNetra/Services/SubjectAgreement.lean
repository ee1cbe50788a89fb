import KeyNetra.Services.AclStage

/-!
# KeyNetra.Services.SubjectAgreement — one subject, in a relationship row and in an ACL entry

The subject of a relationship row grants through the relationship index, the subject of an ACL
entry through the ACL stage. For users, roles and permissions both look up the same descriptor.
For a `relationship` subject the index holds the row's own edge, and not the edge that the subject
names.

* `RowAllows` / `EntryDecides` — the two stages on a single row and on a single entry;
* `row_entry_agree_iff` — when they agree.
-/

namespace KeyNetra

section SubjectAgreement

variable [PyRuntime]

/-- The relationship stage allows through this one row. -/
def RowAllows (request : AuthorizeRequest) (user : Dict) (graph : Option CompiledPermissionGraph)
    (l : Lookup) (row : RelationshipRecord) : Prop :=
  (evaluateRelationshipIndex (request.input user graph (indexEntries l [] [row]))
    (userDescriptors user)).outcome = .allow

/-- The ACL stage decides through this one entry. -/
def EntryDecides (request : AuthorizeRequest) (user : Dict)
    (graph : Option CompiledPermissionGraph) (l : Lookup) (acl : ACLRecord) : Prop :=
  (evaluateAcl (request.input user graph (indexEntries l [acl] [])) (userDescriptors user)).outcome ≠
    .abstain

/-- The user has what a `relationship` subject of an ACL entry is looked up as: the edge it names,
with or without its prefix, or what it is confused with. -/
def HoldsNamedEdge (user : Dict) (subjectId : String) : Prop :=
  (∃ rest, subjectId = descriptorOf "relationship" rest ∧
    (Holds user "relationship" rest ∨ Holds user "relationship" (":" ++ rest))) ∨
  (subjectId ≠ "" ∧ (∀ rest, subjectId ≠ descriptorOf "relationship" rest) ∧
    (Holds user "relationship" subjectId ∨
      ∃ kind item, Holds user kind item ∧ descriptorOf kind item = subjectId))

/-- The row's subject is not an edge, and not an empty text that the user holds; or the user has the
row's own edge and the edge that the subject names, or neither. -/
structure SubjectsAgree (user : Dict) (row : RelationshipRecord) : Prop where
  plain : row.subjectType ≠ "relationship" → row.subjectId = "" →
    ¬ Holds user row.subjectType ""
  edge : row.subjectType = "relationship" →
    (Holds user "relationship" (edgeText row.relation row.objectType row.objectId) ↔
      HoldsNamedEdge user row.subjectId)

variable {request : AuthorizeRequest} {user : Dict} {graph : Option CompiledPermissionGraph}
  {tenantId : Int} {row : RelationshipRecord} {acl : ACLRecord}

theorem mem_userDescriptors {kind item : String} (h : kind ∈ subjectKinds) :
    descriptorOf kind item ∈ userDescriptors user ↔ Holds user kind item :=
  mem_subjectDescriptors_of_kind h

/-- The index looks up the descriptor of the row. -/
theorem rowAllows_iff (hidentified : (request.lookup tenantId).Identified) :
    RowAllows request user graph (request.lookup tenantId) row ↔
      rowDescriptor row ∈ userDescriptors user := by
  have hresource : KeyNetraEngine.resourceIdentity request.resource =
      ((request.lookup tenantId).resourceType, (request.lookup tenantId).resourceId) := rfl
  have haction : request.action = (request.lookup tenantId).action := rfl
  have hidentity : ¬ ((request.lookup tenantId).resourceType = "" ∨
      (request.lookup tenantId).resourceId = "") := not_or.mpr hidentified
  -- one row makes one entry of the index
  have hany := any_indexEntries (request.lookup tenantId) [] [row] (userDescriptors user)
  simp only [List.mem_singleton, exists_eq_left] at hany
  rw [← hany]
  unfold RowAllows evaluateRelationshipIndex AuthorizeRequest.input
  dsimp only
  rw [hresource, haction]
  dsimp only
  rw [if_neg hidentity]
  split
  · rename_i hmatch
    exact ⟨fun _ => hmatch, fun _ => rfl⟩
  · rename_i hmatch
    constructor
    · intro hallow
      cases hallow
    · intro h
      exact absurd h hmatch

/-- The ACL stage looks up the entry's subject. -/
theorem entryDecides_iff (hidentified : (request.lookup tenantId).Identified)
    (heffect : acl.Decides) :
    EntryDecides request user graph (request.lookup tenantId) acl ↔
      aclSubjectMatches acl.subjectType acl.subjectId (userDescriptors user) = true := by
  have houtcome := congrArg Prod.fst
    (@evaluateAcl_rows _ request user graph tenantId [acl] [] hidentified)
  -- an effect that decides is no abstention
  have hdecided : acl.outcome ≠ .abstain := by
    unfold ACLRecord.outcome
    split
    · decide
    · decide
  have hfound : acl.decidesFor (userDescriptors user) = true ↔
      aclSubjectMatches acl.subjectType acl.subjectId (userDescriptors user) = true := by
    unfold ACLRecord.decidesFor
    rw [decide_eq_true heffect, Bool.true_and]
  have hstage : EntryDecides request user graph (request.lookup tenantId) acl ↔
      (directOutcome (userDescriptors user) [acl]).1 ≠ .abstain := by
    rw [← houtcome]
    exact Iff.rfl
  rw [hstage, ← hfound]
  unfold directOutcome
  -- the entry is the one found, if the user is its subject
  by_cases h : acl.decidesFor (userDescriptors user) = true
  · rw [List.find?_cons_of_pos h]
    exact ⟨fun _ => h, fun _ => hdecided⟩
  · rw [List.find?_cons_of_neg h]
    exact ⟨fun habstain => absurd rfl habstain, fun hdecides => absurd hdecides h⟩

/-- What a `relationship` subject of an entry is looked up as. -/
theorem aclSubjectMatches_edge {subjectId : String} :
    aclSubjectMatches "relationship" subjectId (userDescriptors user) = true ↔
      HoldsNamedEdge user subjectId := by
  have hinput : userDescriptors user =
      subjectDescriptors { user := user, resource := [], action := "" } := rfl
  -- an entry without a subject id matches nobody
  by_cases hempty : subjectId = ""
  · have hnone : ∀ rest, subjectId ≠ descriptorOf "relationship" rest := by
      intro rest hsame
      have hlist := descriptorOf_toList "relationship" rest
      rw [← hsame, hempty] at hlist
      cases hlist
    have hmatch : aclSubjectMatches "relationship" subjectId (userDescriptors user) = false :=
      if_pos (.inr hempty)
    rw [hmatch]
    constructor
    · intro h
      cases h
    · rintro (⟨rest, hsame, _⟩ | ⟨hne, _⟩)
      · exact absurd hsame (hnone rest)
      · exact absurd hempty hne
  · rw [hinput, aclSubjectMatches_iff (by decide) hempty]
    unfold HoldsNamedEdge
    -- an id that already begins with the prefix is compared as it is
    by_cases hstarted : ∃ rest, subjectId = descriptorOf "relationship" rest
    · rcases hstarted with ⟨rest, rfl⟩
      have hkind : "relationship" ∈ subjectKinds := by decide
      simp only [matchesThrough_prefixed, exists_eq_left]
      constructor
      · intro hholds
        exact .inl ⟨rest, rfl, hholds⟩
      · rintro (⟨rest', hsame, hholds⟩ | ⟨_, hbare, _⟩)
        · rw [((descriptorOf_inj hkind hkind).mp hsame).2]
          exact hholds
        · exact absurd rfl (hbare rest)
    · rw [not_exists] at hstarted
      simp only [matchesThrough_bare hstarted]
      constructor
      · rintro ⟨kind, hspelled | ⟨_, hholds⟩⟩
        · exact .inr ⟨hempty, hstarted, .inr ⟨kind, hspelled⟩⟩
        · exact .inr ⟨hempty, hstarted, .inl hholds⟩
      · rintro (⟨rest, hsame, _⟩ | ⟨_, _, hholds | ⟨kind, hspelled⟩⟩)
        · exact absurd hsame (hstarted rest)
        · exact ⟨"relationship", .inr ⟨rfl, hholds⟩⟩
        · exact ⟨kind, .inl hspelled⟩

/-- A user, a role or a permission is looked up as it is, unless it is an empty text. -/
theorem aclSubjectMatches_plain {subjectType subjectId : String} (hkind : subjectType ∈ subjectKinds)
    (hne : subjectType ≠ "relationship") :
    aclSubjectMatches subjectType subjectId (userDescriptors user) = true ↔
      subjectId ≠ "" ∧ Holds user subjectType subjectId := by
  have hinput : userDescriptors user =
      subjectDescriptors { user := user, resource := [], action := "" } := rfl
  have htype : subjectType ≠ "" := by
    rintro rfl
    exact absurd hkind (by decide)
  by_cases hempty : subjectId = ""
  · -- an entry without an id matches nobody
    have hmatch : aclSubjectMatches subjectType subjectId (userDescriptors user) = false :=
      if_pos (.inr hempty)
    rw [hmatch]
    constructor
    · intro h
      cases h
    · intro ⟨hnonempty, _⟩
      exact absurd hempty hnonempty
  · rw [hinput, aclSubjectMatches_iff htype hempty]
    simp only [matchesThrough_other hne]
    constructor
    · -- the descriptor tells kind and item
      rintro ⟨kind, item, hholds, hsame⟩
      have ⟨hkind', hitem⟩ := (descriptorOf_inj hholds.kind hkind).mp hsame
      rw [hkind', hitem] at hholds
      exact ⟨hempty, hholds⟩
    · intro ⟨_, hholds⟩
      exact ⟨subjectType, subjectId, hholds, rfl⟩

/-- A row and an entry with one subject agree on a user exactly when the subject is a user, a role
or a permission with a text, or an edge that the user has together with the row's own edge. -/
theorem row_entry_agree_iff (hidentified : (request.lookup tenantId).Identified)
    (hkind : row.subjectType ∈ subjectKinds) (htype : acl.subjectType = row.subjectType)
    (hid : acl.subjectId = row.subjectId) (heffect : acl.Decides) :
    (RowAllows request user graph (request.lookup tenantId) row ↔
        EntryDecides request user graph (request.lookup tenantId) acl) ↔
      SubjectsAgree user row := by
  rw [rowAllows_iff hidentified, entryDecides_iff hidentified heffect, htype, hid]
  -- the descriptor of an edge spells its three parts, any other the subject id
  by_cases hedge : row.subjectType = "relationship"
  · have hdescriptor : rowDescriptor row =
        descriptorOf "relationship" (edgeText row.relation row.objectType row.objectId) := by
      rw [descriptorOf_edge]
      exact if_neg (not_not.mpr hedge)
    rw [hdescriptor, mem_userDescriptors (by decide), hedge, aclSubjectMatches_edge]
    constructor
    · intro hagree
      exact ⟨fun hne => absurd hedge hne, fun _ => hagree⟩
    · intro h
      exact h.edge hedge
  · have hdescriptor : rowDescriptor row = descriptorOf row.subjectType row.subjectId :=
      if_pos hedge
    rw [hdescriptor, mem_userDescriptors hkind, aclSubjectMatches_plain hkind hedge]
    constructor
    · intro hagree
      refine ⟨?_, fun h => absurd h hedge⟩
      intro _ hempty hholds
      rw [← hempty] at hholds
      exact (hagree.mp hholds).1 hempty
    · intro h
      constructor
      · intro hholds
        refine ⟨?_, hholds⟩
        intro hempty
        rw [hempty] at hholds
        exact h.plain hedge hempty hholds
      · intro hholds
        exact hholds.2

end SubjectAgreement

section Concrete

attribute [local instance] plainRuntime

/-- Document 1 is shared with user 7 by a row and by an entry: both count for user 7. -/
theorem user_agrees :
    RowAllows readDoc readDoc.user none (readDoc.lookup 1) ⟨"user", "7", "viewer", "doc", "1"⟩ ↔
      EntryDecides readDoc readDoc.user none (readDoc.lookup 1) (readRow 1 "allow") := by
  have hidentified : (readDoc.lookup 1).Identified := by decide +kernel
  apply (row_entry_agree_iff hidentified (by decide) rfl rfl (by decide)).mpr
  constructor
  · intro _ hempty
    exact absurd hempty (by decide)
  · intro hedge
    exact absurd hedge (by decide)

/-- A member of the group `eng`. -/
def engineer : Dict :=
  [("id", .int 8), ("relations", .list [.dict [("relation", .str "member"),
    ("object_type", .str "group"), ("object_id", .str "eng")]])]

/-- Document 1 is shared with the members of `eng` by a row and by an entry: only the entry counts
for a member. -/
theorem group_row_ignored :
    ¬ RowAllows readDoc engineer none (readDoc.lookup 1)
      ⟨"relationship", "member:group:eng", "viewer", "doc", "1"⟩ ∧
    EntryDecides readDoc engineer none (readDoc.lookup 1)
      ⟨1, 1, "relationship", "member:group:eng", "doc", "1", "read", "allow", none⟩ := by
  unfold RowAllows EntryDecides
  decide +kernel

end Concrete

end KeyNetra
