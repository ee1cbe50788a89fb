import KeyNetra.Engine.Pipeline
import KeyNetra.Lib.Text

/-!
# KeyNetra.Engine.Subjects — whom an ACL subject names

A user's descriptors are texts `kind:item` for the user's id, roles, permissions and relation
edges. The subject of an ACL entry is matched against these texts.

* `Holds` — the items of a user, by kind; `mem_subjectDescriptors`: the descriptors are theirs;
* `SubjectNames` — whom a subject of an entry should match;
* `aclSubjectMatches_iff` — whom it matches: for three of the four subject types, the same. A
  subject of type `relationship` is also looked up as a whole descriptor and with its prefix cut
  one character short, and a type of another name may hold the start of a descriptor;
* `subject_sound_iff` — when a subject matches only what it names.
-/

namespace KeyNetra

section Subjects

variable [PyRuntime]

/-! ## The items of a user -/

/-- The text of an item of a list attribute; `None` items are skipped. -/
def ItemText (value : Value) (text : String) : Prop :=
  ∃ items item, value = .list items ∧ item ∈ items ∧ item ≠ .null ∧ text = item.text

/-- `relation:object_type:object_id` of an edge. -/
def edgeText (relation objectType objectId : String) : String :=
  relation ++ ":" ++ objectType ++ ":" ++ objectId

/-- The text of a complete relation edge of the user. -/
def RelationEdge (value : Value) (text : String) : Prop :=
  ∃ relations edge, value = .list relations ∧ .dict edge ∈ relations ∧
    (Dict.getD edge "relation" (.str "")).text ≠ "" ∧
    (Dict.getD edge "object_type" (.str "")).text ≠ "" ∧
    (Dict.getD edge "object_id" (.str "")).text ≠ "" ∧
    text = edgeText (Dict.getD edge "relation" (.str "")).text
      (Dict.getD edge "object_type" (.str "")).text (Dict.getD edge "object_id" (.str "")).text

/-- The user's id, roles, permissions and relation edges, by kind. -/
inductive Holds (user : Dict) : String → String → Prop where
  | user (h : Dict.get user "id" ≠ .null) : Holds user "user" (Dict.get user "id").text
  | role {item : String} (h : ItemText (Dict.getD user "roles" (.list [])) item) :
      Holds user "role" item
  | permission {item : String} (h : ItemText (Dict.getD user "permissions" (.list [])) item) :
      Holds user "permission" item
  | directPermission {item : String}
      (h : ItemText (Dict.getD user "direct_permissions" (.list [])) item) :
      Holds user "permission" item
  | edge {item : String} (h : RelationEdge (Dict.getD user "relations" (.list [])) item) :
      Holds user "relationship" item

theorem Holds.relation_edge {user : Dict} {kind item : String} (h : Holds user kind item)
    (hkind : kind = "relationship") :
    RelationEdge (Dict.getD user "relations" (.list [])) item := by
  cases h with
  | user => exact absurd hkind (by decide)
  | role => exact absurd hkind (by decide)
  | permission => exact absurd hkind (by decide)
  | directPermission => exact absurd hkind (by decide)
  | edge hedge => exact hedge

/-- The kinds of descriptors. -/
def subjectKinds : List String := ["user", "role", "permission", "relationship"]

/-- `kind:item`. -/
def descriptorOf (kind item : String) : String := kind ++ ":" ++ item

theorem Holds.kind {user : Dict} {kind item : String} (h : Holds user kind item) :
    kind ∈ subjectKinds := by
  cases h <;> decide

theorem mem_listDescriptors {kind : String} {value : Value} {descriptor : String} :
    descriptor ∈ listDescriptors kind value ↔
      ∃ item, ItemText value item ∧ descriptor = descriptorOf kind item := by
  constructor
  · intro h
    unfold listDescriptors at h
    split at h
    · rename_i items
      have ⟨item, hitem, hdescriptor⟩ := List.mem_filterMap.mp h
      split at hdescriptor
      · cases hdescriptor
      · rename_i hnull
        rcases hdescriptor with ⟨⟩
        exact ⟨item.text, ⟨items, item, rfl, hitem, hnull, rfl⟩, rfl⟩
    · cases h
  · rintro ⟨text, ⟨items, item, rfl, hitem, hnull, rfl⟩, rfl⟩
    apply List.mem_filterMap.mpr
    refine ⟨item, hitem, ?_⟩
    split
    · exact absurd rfl hnull
    · rfl

omit [PyRuntime] in
theorem descriptorOf_edge (relation objectType objectId : String) :
    descriptorOf "relationship" (edgeText relation objectType objectId) =
      s!"relationship:{relation}:{objectType}:{objectId}" := by
  show "relationship" ++ ":" ++ (relation ++ ":" ++ objectType ++ ":" ++ objectId) =
    "relationship:" ++ relation ++ ":" ++ objectType ++ ":" ++ objectId
  simp only [← String.toList_inj, String.toList_append, List.append_assoc]
  rfl

theorem mem_edgeDescriptors {value : Value} {descriptor : String} :
    (∃ relations edge, value = .list relations ∧ edge ∈ relations ∧
      edgeDescriptor? edge = some descriptor) ↔
      ∃ item, RelationEdge value item ∧ descriptor = descriptorOf "relationship" item := by
  constructor
  · rintro ⟨relations, value', rfl, hedge, hdescriptor⟩
    unfold edgeDescriptor? at hdescriptor
    split at hdescriptor
    · rename_i edge
      dsimp only at hdescriptor
      split at hdescriptor
      · rename_i hcomplete
        rcases hdescriptor with ⟨⟩
        exact ⟨_, ⟨relations, edge, rfl, hedge, hcomplete.1, hcomplete.2.1, hcomplete.2.2, rfl⟩,
          (descriptorOf_edge _ _ _).symm⟩
      · cases hdescriptor
    · cases hdescriptor
  · rintro ⟨item, ⟨relations, edge, rfl, hedge, hrelation, htype, hid, rfl⟩, rfl⟩
    refine ⟨relations, .dict edge, rfl, hedge, ?_⟩
    unfold edgeDescriptor?
    rw [descriptorOf_edge]
    exact if_pos ⟨hrelation, htype, hid⟩

/-- The descriptor of the user's id. -/
def idDescriptors (user : Dict) : List String :=
  match Dict.get user "id" with
  | .null => []
  | userId => [s!"user:{userId.text}"]

/-- The descriptors of the user's relation edges. -/
def relationDescriptors (user : Dict) : List String :=
  match Dict.getD user "relations" (.list []) with
  | .list relations => relations.filterMap edgeDescriptor?
  | _ => []

theorem subjectDescriptors_eq (input : AuthorizationInput) :
    subjectDescriptors input =
      idDescriptors input.user ++
        listDescriptors "role" (Dict.getD input.user "roles" (.list [])) ++
        listDescriptors "permission" (Dict.getD input.user "permissions" (.list [])) ++
        listDescriptors "permission" (Dict.getD input.user "direct_permissions" (.list [])) ++
        relationDescriptors input.user := rfl

/-- The user's descriptors are those of its items. -/
theorem mem_subjectDescriptors {input : AuthorizationInput} {descriptor : String} :
    descriptor ∈ subjectDescriptors input ↔
      ∃ kind item, Holds input.user kind item ∧ descriptor = descriptorOf kind item := by
  -- the id gives at most one descriptor, each list one for each member
  have hid : descriptor ∈ idDescriptors input.user ↔ Dict.get input.user "id" ≠ .null ∧
      descriptor = descriptorOf "user" (Dict.get input.user "id").text := by
    unfold idDescriptors
    split
    · rename_i hnull
      simp [hnull]
    · rename_i hnull
      rw [List.mem_singleton]
      exact ⟨fun h => ⟨hnull, h⟩, fun h => h.2⟩
  have hrelations : descriptor ∈ relationDescriptors input.user ↔
      ∃ item, RelationEdge (Dict.getD input.user "relations" (.list [])) item ∧
        descriptor = descriptorOf "relationship" item := by
    rw [← mem_edgeDescriptors]
    unfold relationDescriptors
    split
    · rename_i relations hvalue
      rw [List.mem_filterMap]
      constructor
      · -- an edge of the list
        rintro ⟨edge, hedge, hsome⟩
        exact ⟨relations, edge, hvalue, hedge, hsome⟩
      · rintro ⟨relations', edge, hvalue', hedge, hsome⟩
        rw [hvalue] at hvalue'
        rcases hvalue' with ⟨⟩
        exact ⟨edge, hedge, hsome⟩
    · -- no list of relations, no edges
      rename_i hother
      constructor
      · intro h
        cases h
      · rintro ⟨relations, _, hvalue, _⟩
        exact absurd hvalue (hother relations)
  rw [subjectDescriptors_eq, List.mem_append, List.mem_append, List.mem_append, List.mem_append,
    hid, hrelations, mem_listDescriptors, mem_listDescriptors, mem_listDescriptors]
  constructor
  · -- the five parts of the set, in the order in which they are added
    rintro ((((⟨hne, h⟩ | ⟨item, hitem, h⟩) | ⟨item, hitem, h⟩) | ⟨item, hitem, h⟩) |
      ⟨item, hitem, h⟩)
    · exact ⟨"user", _, .user hne, h⟩
    · exact ⟨"role", item, .role hitem, h⟩
    · exact ⟨"permission", item, .permission hitem, h⟩
    · exact ⟨"permission", item, .directPermission hitem, h⟩
    · exact ⟨"relationship", item, .edge hitem, h⟩
  · rintro ⟨kind, item, hholds, h⟩
    cases hholds with
    | user hne => exact .inl (.inl (.inl (.inl ⟨hne, h⟩)))
    | role hitem => exact .inl (.inl (.inl (.inr ⟨item, hitem, h⟩)))
    | permission hitem => exact .inl (.inl (.inr ⟨item, hitem, h⟩))
    | directPermission hitem => exact .inl (.inr ⟨item, hitem, h⟩)
    | edge hitem => exact .inr ⟨item, hitem, h⟩

/-! ## Descriptors are told apart by their kind -/

omit [PyRuntime] in
theorem kind_noColon {kind : String} (h : kind ∈ subjectKinds) : ':' ∉ kind.toList := by
  have hall : ∀ kind ∈ subjectKinds, ':' ∉ kind.toList := by decide
  exact hall kind h

omit [PyRuntime] in
theorem descriptorOf_toList (kind item : String) :
    (descriptorOf kind item).toList = kind.toList ++ ':' :: item.toList := by
  unfold descriptorOf
  rw [String.toList_append, String.toList_append, List.append_assoc]
  rfl

omit [PyRuntime] in
theorem descriptorOf_inj {kind kind' item item' : String} (h : kind ∈ subjectKinds)
    (h' : kind' ∈ subjectKinds) :
    descriptorOf kind item = descriptorOf kind' item' ↔ kind = kind' ∧ item = item' := by
  rw [← String.toList_inj, descriptorOf_toList, descriptorOf_toList,
    Lib.append_sep_inj (kind_noColon h) (kind_noColon h'), String.toList_inj, String.toList_inj]

/-- A descriptor of a known kind is one of the user's when the user holds the item. -/
theorem mem_subjectDescriptors_of_kind {input : AuthorizationInput} {kind item : String}
    (h : kind ∈ subjectKinds) :
    descriptorOf kind item ∈ subjectDescriptors input ↔ Holds input.user kind item := by
  rw [mem_subjectDescriptors]
  constructor
  · rintro ⟨kind', item', hholds, hsame⟩
    have ⟨hkind, hitem⟩ := (descriptorOf_inj h hholds.kind).mp hsame
    rw [hkind, hitem]
    exact hholds
  · intro hholds
    exact ⟨kind, item, hholds, rfl⟩

/-! ## What the subject of an entry is looked up as -/

/-- The texts that `_acl_subject_matches` looks up among the user's descriptors. -/
def subjectCandidates (subjectType subjectId : String) : List String :=
  if subjectType = "relationship" then
    if "relationship:".isPrefixOf subjectId then
      [subjectId, String.ofList (subjectId.toList.drop 12),
        descriptorOf "relationship" (String.ofList (subjectId.toList.drop 12))]
    else [subjectId, subjectId, descriptorOf "relationship" subjectId]
  else [descriptorOf subjectType subjectId]

omit [PyRuntime] in
theorem relationship_colon (item : String) :
    s!"relationship:{item}" = descriptorOf "relationship" item := by
  show "relationship:" ++ item = "relationship" ++ ":" ++ item
  rfl

omit [PyRuntime] in
theorem aclSubjectMatches_candidates {subjectType subjectId : String} {subjects : List String}
    (htype : subjectType ≠ "") (hid : subjectId ≠ "") :
    aclSubjectMatches subjectType subjectId subjects = true ↔
      ∃ candidate ∈ subjectCandidates subjectType subjectId, candidate ∈ subjects := by
  have hnonempty : ¬ (subjectType = "" ∨ subjectId = "") := not_or.mpr ⟨htype, hid⟩
  unfold aclSubjectMatches subjectCandidates
  rw [if_neg hnonempty]
  by_cases hrelationship : subjectType = "relationship"
  · rw [if_pos hrelationship, if_pos hrelationship]
    dsimp only
    split
    · rw [relationship_colon, List.any_eq_true]
      simp only [List.contains_iff_mem]
    · rw [relationship_colon, List.any_eq_true]
      simp only [List.contains_iff_mem]
  · rw [if_neg hrelationship, if_neg hrelationship, List.contains_iff_mem]
    simp only [List.mem_singleton, exists_eq_left]
    exact Iff.rfl

omit [PyRuntime] in
/-- A `relationship` subject with its prefix: that is cut off without its colon. -/
theorem subjectCandidates_prefixed (rest : String) :
    subjectCandidates "relationship" (descriptorOf "relationship" rest) =
      [descriptorOf "relationship" rest, ":" ++ rest,
        descriptorOf "relationship" (":" ++ rest)] := by
  have hstart : "relationship:".isPrefixOf (descriptorOf "relationship" rest) = true := by
    unfold String.isPrefixOf
    rw [String.startsWith_string_iff, descriptorOf_toList]
    exact ⟨rest.toList, rfl⟩
  have hdrop : String.ofList ((descriptorOf "relationship" rest).toList.drop 12) = ":" ++ rest := by
    rw [descriptorOf_toList, ← String.toList_inj, String.toList_ofList, String.toList_append]
    rfl
  unfold subjectCandidates
  rw [if_pos rfl, if_pos hstart, hdrop]

omit [PyRuntime] in
/-- A `relationship` subject without its prefix. -/
theorem subjectCandidates_bare {subjectId : String}
    (h : ∀ rest, subjectId ≠ descriptorOf "relationship" rest) :
    subjectCandidates "relationship" subjectId =
      [subjectId, subjectId, descriptorOf "relationship" subjectId] := by
  have hstart : ¬ "relationship:".isPrefixOf subjectId = true := by
    unfold String.isPrefixOf
    rw [String.startsWith_string_iff]
    rintro ⟨rest, hrest⟩
    have hback : (String.ofList rest).toList = rest := String.toList_ofList
    apply h (String.ofList rest)
    rw [← String.toList_inj, descriptorOf_toList, hback, ← hrest]
    rfl
  unfold subjectCandidates
  rw [if_pos rfl, if_neg hstart]

/-! ## Whom a subject names -/

/-- Whom the subject of an entry names: a user by id, role or permission; a holder of a relation
edge, with or without one `relationship:` before it. -/
def SubjectNames (user : Dict) (subjectType subjectId : String) : Prop :=
  Holds user subjectType subjectId ∨
    (subjectType = "relationship" ∧
      ∃ edge, subjectId = descriptorOf "relationship" edge ∧ Holds user "relationship" edge)

/-- The subject matches through a descriptor of this kind. -/
def MatchesThrough (user : Dict) (subjectType subjectId kind : String) : Prop :=
  ∃ item, Holds user kind item ∧ descriptorOf kind item ∈ subjectCandidates subjectType subjectId

/-- What keeps a subject from matching someone it does not name. -/
structure SubjectUnconfused (user : Dict) (subjectType subjectId : String) : Prop where
  /-- A `relationship` subject is not the descriptor of the user's id, a role or a permission. -/
  borrowed : subjectType = "relationship" → ∀ kind item, Holds user kind item →
    kind ≠ "relationship" → subjectId ≠ descriptorOf kind item
  /-- A subject of another type does not spell out one of the user's descriptors. -/
  extended : subjectType ∉ subjectKinds → ∀ kind item, Holds user kind item →
    descriptorOf subjectType subjectId ≠ descriptorOf kind item
  /-- The edge that is named and the one that is looked up, with a `:` before it, are both held or
  both not held. -/
  shifted : subjectType = "relationship" → ∀ rest, subjectId = descriptorOf "relationship" rest →
    ¬ Holds user "relationship" rest →
      (Holds user "relationship" (":" ++ rest) ↔ Holds user "relationship" subjectId)

section Sound

variable {input : AuthorizationInput} {user : Dict} {subjectType subjectId : String}

/-- A subject matches when it matches through some kind. -/
theorem aclSubjectMatches_iff (htype : subjectType ≠ "") (hid : subjectId ≠ "") :
    aclSubjectMatches subjectType subjectId (subjectDescriptors input) = true ↔
      ∃ kind, MatchesThrough input.user subjectType subjectId kind := by
  rw [aclSubjectMatches_candidates htype hid]
  constructor
  · rintro ⟨candidate, hcandidate, hmem⟩
    have ⟨kind, item, hholds, hsame⟩ := mem_subjectDescriptors.mp hmem
    exact ⟨kind, item, hholds, hsame ▸ hcandidate⟩
  · rintro ⟨kind, item, hholds, hcandidate⟩
    exact ⟨_, hcandidate, mem_subjectDescriptors.mpr ⟨kind, item, hholds, rfl⟩⟩

/-- No descriptor starts with a colon. -/
theorem colon_not_descriptor {user : Dict} {kind item rest : String} (h : Holds user kind item) :
    descriptorOf kind item ≠ ":" ++ rest := by
  intro hsame
  have hlists : kind.toList ++ ':' :: item.toList = [] ++ ':' :: rest.toList := by
    rw [← descriptorOf_toList, hsame, String.toList_append]
    rfl
  have hkind := ((Lib.append_sep_inj (kind_noColon h.kind) (by simp)).mp hlists).1
  have hall : ∀ kind ∈ subjectKinds, kind.toList ≠ [] := by decide
  exact hall kind h.kind hkind

/-- Subjects of a type of another name, or of a user, a role or a permission. -/
theorem matchesThrough_other (hne : subjectType ≠ "relationship") {kind : String} :
    MatchesThrough user subjectType subjectId kind ↔
      ∃ item, Holds user kind item ∧
        descriptorOf kind item = descriptorOf subjectType subjectId := by
  unfold MatchesThrough subjectCandidates
  rw [if_neg hne]
  simp only [List.mem_singleton]

/-- A prefixed subject matches through edges: the one it names, or the one with a colon before. -/
theorem matchesThrough_prefixed {rest kind : String} :
    MatchesThrough user "relationship" (descriptorOf "relationship" rest) kind ↔
      kind = "relationship" ∧
        (Holds user "relationship" rest ∨ Holds user "relationship" (":" ++ rest)) := by
  have hkind : "relationship" ∈ subjectKinds := by decide
  unfold MatchesThrough
  rw [subjectCandidates_prefixed]
  simp only [List.mem_cons, List.not_mem_nil, or_false]
  constructor
  · rintro ⟨item, hholds, hnamed | hcolon | hshifted⟩
    · have ⟨hsame, hitem⟩ := (descriptorOf_inj hholds.kind hkind).mp hnamed
      rw [hsame, hitem] at hholds
      exact ⟨hsame, .inl hholds⟩
    · exact absurd hcolon (colon_not_descriptor hholds)
    · have ⟨hsame, hitem⟩ := (descriptorOf_inj hholds.kind hkind).mp hshifted
      rw [hsame, hitem] at hholds
      exact ⟨hsame, .inr hholds⟩
  · rintro ⟨rfl, hnamed | hshifted⟩
    · exact ⟨rest, hnamed, .inl rfl⟩
    · exact ⟨":" ++ rest, hshifted, .inr (.inr rfl)⟩

/-- A bare subject matches through the edge it names, and through a descriptor it spells out. -/
theorem matchesThrough_bare (h : ∀ rest, subjectId ≠ descriptorOf "relationship" rest)
    {kind : String} :
    MatchesThrough user "relationship" subjectId kind ↔
      (∃ item, Holds user kind item ∧ descriptorOf kind item = subjectId) ∨
        (kind = "relationship" ∧ Holds user "relationship" subjectId) := by
  have hkind : "relationship" ∈ subjectKinds := by decide
  unfold MatchesThrough
  rw [subjectCandidates_bare h]
  simp only [List.mem_cons, List.not_mem_nil, or_false]
  constructor
  · rintro ⟨item, hholds, hspelled | hspelled | hnamed⟩
    · exact .inl ⟨item, hholds, hspelled⟩
    · exact .inl ⟨item, hholds, hspelled⟩
    · have ⟨hsame, hitem⟩ := (descriptorOf_inj hholds.kind hkind).mp hnamed
      rw [hsame, hitem] at hholds
      exact .inr ⟨hsame, hholds⟩
  · rintro (⟨item, hholds, hspelled⟩ | ⟨rfl, hholds⟩)
    · exact ⟨item, hholds, .inl hspelled⟩
    · exact ⟨subjectId, hholds, .inr (.inr rfl)⟩

/-- The subject matches whom it names, and through descriptors of its own type only. -/
def SubjectSound (input : AuthorizationInput) (subjectType subjectId : String) : Prop :=
  (aclSubjectMatches subjectType subjectId (subjectDescriptors input) = true ↔
    SubjectNames input.user subjectType subjectId) ∧
  ∀ kind, MatchesThrough input.user subjectType subjectId kind → kind = subjectType

/-- Users, roles and permissions are matched as they are named; a type of another name must not
spell out a descriptor. -/
theorem subject_sound_other (htype : subjectType ≠ "") (hid : subjectId ≠ "")
    (hne : subjectType ≠ "relationship") :
    SubjectSound input subjectType subjectId ↔
      (subjectType ∉ subjectKinds → ∀ kind item, Holds input.user kind item →
        descriptorOf subjectType subjectId ≠ descriptorOf kind item) := by
  unfold SubjectSound SubjectNames
  rw [aclSubjectMatches_iff htype hid]
  simp only [matchesThrough_other hne]
  constructor
  · rintro ⟨_, hthrough⟩ hkind kind item hholds hsame
    apply hkind
    rw [← hthrough kind ⟨item, hholds, hsame.symm⟩]
    exact hholds.kind
  · intro hextended
    -- among the known kinds a descriptor tells kind and item
    have hown : ∀ kind item, Holds input.user kind item →
        descriptorOf kind item = descriptorOf subjectType subjectId →
          kind = subjectType ∧ item = subjectId := by
      intro kind item hholds hsame
      by_cases hkind : subjectType ∈ subjectKinds
      · exact (descriptorOf_inj hholds.kind hkind).mp hsame
      · exact absurd hsame.symm (hextended hkind kind item hholds)
    refine ⟨⟨?_, ?_⟩, ?_⟩
    · rintro ⟨kind, item, hholds, hsame⟩
      have ⟨hkind, hitem⟩ := hown kind item hholds hsame
      rw [hkind, hitem] at hholds
      exact .inl hholds
    · rintro (hholds | ⟨hrelationship, _⟩)
      · exact ⟨_, _, hholds, rfl⟩
      · exact absurd hrelationship hne
    · rintro kind ⟨item, hholds, hsame⟩
      exact (hown kind item hholds hsame).1

/-- An edge with its prefix: what is looked up besides is the edge with a colon before. -/
theorem subject_sound_prefixed (rest : String) :
    SubjectSound input "relationship" (descriptorOf "relationship" rest) ↔
      (¬ Holds input.user "relationship" rest →
        (Holds input.user "relationship" (":" ++ rest) ↔
          Holds input.user "relationship" (descriptorOf "relationship" rest))) := by
  have hid : descriptorOf "relationship" rest ≠ "" := by
    intro hempty
    have hlist := descriptorOf_toList "relationship" rest
    rw [hempty] at hlist
    cases hlist
  have hkind : "relationship" ∈ subjectKinds := by decide
  -- an entry may name the descriptor, or what stands behind its prefix
  have hnames : SubjectNames input.user "relationship" (descriptorOf "relationship" rest) ↔
      Holds input.user "relationship" (descriptorOf "relationship" rest) ∨
        Holds input.user "relationship" rest := by
    unfold SubjectNames
    constructor
    · rintro (hholds | ⟨_, edge, hsame, hholds⟩)
      · exact .inl hholds
      · rw [((descriptorOf_inj hkind hkind).mp hsame).2]
        exact .inr hholds
    · rintro (hholds | hholds)
      · exact .inl hholds
      · exact .inr ⟨rfl, rest, rfl, hholds⟩
  unfold SubjectSound
  rw [aclSubjectMatches_iff (by decide) hid, hnames]
  simp only [matchesThrough_prefixed, exists_eq_left]
  constructor
  · rintro ⟨hmatch, _⟩ hnot
    constructor
    · intro hshifted
      -- the engine strips the prefix once more, and matches an item that begins with a colon
      exact (hmatch.mp (.inr hshifted)).resolve_right hnot
    · intro hholds
      exact (hmatch.mpr (.inl hholds)).resolve_left hnot
  · intro hshifted
    refine ⟨⟨?_, ?_⟩, fun kind h => h.1⟩
    · rintro (hholds | hholds)
      · exact .inr hholds
      · by_cases hnamed : Holds input.user "relationship" rest
        · exact .inr hnamed
        · exact .inl ((hshifted hnamed).mp hholds)
    · rintro (hholds | hholds)
      · by_cases hnamed : Holds input.user "relationship" rest
        · exact .inl hnamed
        · exact .inr ((hshifted hnamed).mpr hholds)
      · exact .inl hholds

/-- An edge without its prefix: it must not be a descriptor of another kind. -/
theorem subject_sound_bare (hid : subjectId ≠ "")
    (h : ∀ rest, subjectId ≠ descriptorOf "relationship" rest) :
    SubjectSound input "relationship" subjectId ↔
      ∀ kind item, Holds input.user kind item → kind ≠ "relationship" →
        subjectId ≠ descriptorOf kind item := by
  have hnames : SubjectNames input.user "relationship" subjectId ↔
      Holds input.user "relationship" subjectId := by
    unfold SubjectNames
    constructor
    · rintro (hholds | ⟨_, edge, hsame, _⟩)
      · exact hholds
      · exact absurd hsame (h edge)
    · exact .inl
  unfold SubjectSound
  rw [aclSubjectMatches_iff (by decide) hid, hnames]
  simp only [matchesThrough_bare h]
  constructor
  · rintro ⟨_, hthrough⟩ kind item hholds hkind hsame
    exact hkind (hthrough kind (.inl ⟨item, hholds, hsame.symm⟩))
  · intro hborrowed
    -- no descriptor of the user is spelled like the id
    have hown : ∀ kind item, Holds input.user kind item → descriptorOf kind item ≠ subjectId := by
      intro kind item hholds hsame
      by_cases hkind : kind = "relationship"
      · rw [hkind] at hsame
        exact h item hsame.symm
      · exact hborrowed kind item hholds hkind hsame.symm
    refine ⟨⟨?_, ?_⟩, ?_⟩
    · rintro ⟨kind, ⟨item, hholds, hsame⟩ | ⟨_, hholds⟩⟩
      · exact absurd hsame (hown kind item hholds)
      · exact hholds
    · intro hholds
      exact ⟨"relationship", .inr ⟨rfl, hholds⟩⟩
    · rintro kind (⟨item, hholds, hsame⟩ | ⟨hkind, _⟩)
      · exact absurd hsame (hown kind item hholds)
      · exact hkind

/-- A subject matches only what it names exactly when nothing confuses it. -/
theorem subject_sound_iff (htype : subjectType ≠ "") (hid : subjectId ≠ "") :
    SubjectSound input subjectType subjectId ↔ SubjectUnconfused input.user subjectType subjectId := by
  by_cases hrelationship : subjectType = "relationship"
  · subst hrelationship
    have hkind : "relationship" ∈ subjectKinds := by decide
    -- an id that begins with the prefix, or one that gets it
    by_cases hstarted : ∃ rest, subjectId = descriptorOf "relationship" rest
    · rcases hstarted with ⟨rest, rfl⟩
      rw [subject_sound_prefixed rest]
      constructor
      · intro hshifted
        refine ⟨?_, fun hnot => absurd hkind hnot, ?_⟩
        · intro _ kind item hholds hne hsame
          exact hne ((descriptorOf_inj hkind hholds.kind).mp hsame).1.symm
        · intro _ rest' hsame hnot
          have hrest := ((descriptorOf_inj hkind hkind).mp hsame).2
          rw [← hrest] at hnot ⊢
          exact hshifted hnot
      · intro h
        exact h.shifted rfl rest rfl
    · rw [not_exists] at hstarted
      rw [subject_sound_bare hid hstarted]
      constructor
      · intro hborrowed
        refine ⟨fun _ => hborrowed, fun hnot => absurd hkind hnot, ?_⟩
        intro _ rest hsame
        exact absurd hsame (hstarted rest)
      · intro h
        exact h.borrowed rfl
  · rw [subject_sound_other htype hid hrelationship]
    constructor
    · intro hextended
      exact ⟨fun h => absurd h hrelationship, hextended, fun h => absurd h hrelationship⟩
    · intro h
      exact h.extended

end Sound

end Subjects

section Concrete

attribute [local instance] plainRuntime

/-- User 7, with one relation edge. -/
def viewerInput (relation : String) : AuthorizationInput :=
  { user := [("id", .int 7), ("relations", .list [.dict
      [("relation", .str relation), ("object_type", .str "doc"), ("object_id", .str "1")]])]
    action := "read", resource := [] }

/-- The edge that user 7 has, named without its prefix. -/
theorem viewer_sound : SubjectSound (viewerInput "viewer") "relationship" "viewer:doc:1" := by
  apply (subject_sound_iff (by decide) (by decide)).mpr
  have hviewer : "viewer" ∉ subjectKinds := by decide
  have hcolon : ':' ∉ "viewer".toList := by decide
  have hstart : ∀ kind item, kind ∈ subjectKinds → "viewer:doc:1" ≠ descriptorOf kind item := by
    intro kind item hkind hsame
    have hlists : "viewer".toList ++ ':' :: "doc:1".toList =
        kind.toList ++ ':' :: item.toList := by
      rw [← descriptorOf_toList kind item, ← hsame]
      rfl
    have hword := ((Lib.append_sep_inj hcolon (kind_noColon hkind)).mp hlists).1
    rw [String.toList_inj] at hword
    exact hviewer (hword ▸ hkind)
  refine ⟨?_, ?_, ?_⟩
  · intro _ kind item hholds _
    exact hstart kind item hholds.kind
  · intro hnot
    exact absurd (by decide) hnot
  · intro _ rest hsame
    exact absurd hsame (hstart "relationship" rest (by decide))

/-- The only edge that the user has. -/
theorem viewer_edge_only {relation item : String}
    (h : Holds (viewerInput relation).user "relationship" item) :
    item = edgeText relation "doc" "1" := by
  rcases h.relation_edge rfl with ⟨relations, edge, hrelations, hmem, _, _, _, htext⟩
  rcases hrelations with ⟨⟩
  rcases List.mem_singleton.mp hmem with ⟨⟩
  exact htext

/-- A `relationship` subject `user:7` matches user 7, and one that names the edge `a:doc:1`
matches the holder of `:a:doc:1`. -/
theorem relationship_confused :
    (aclSubjectMatches "relationship" "user:7" (subjectDescriptors (viewerInput "viewer")) = true ∧
      ¬ SubjectNames (viewerInput "viewer").user "relationship" "user:7") ∧
    (aclSubjectMatches "relationship" "relationship:a:doc:1"
        (subjectDescriptors (viewerInput ":a")) = true ∧
      ¬ SubjectNames (viewerInput ":a").user "relationship" "relationship:a:doc:1") := by
  have hmatches : aclSubjectMatches "relationship" "user:7"
        (subjectDescriptors (viewerInput "viewer")) = true ∧
      aclSubjectMatches "relationship" "relationship:a:doc:1"
        (subjectDescriptors (viewerInput ":a")) = true := by decide +kernel
  refine ⟨⟨hmatches.1, ?_⟩, hmatches.2, ?_⟩
  · rintro (hholds | ⟨_, edge, hsame, hholds⟩)
    · exact absurd (viewer_edge_only hholds) (by decide)
    · rw [viewer_edge_only hholds] at hsame
      exact absurd hsame (by decide)
  · rintro (hholds | ⟨_, edge, hsame, hholds⟩)
    · exact absurd (viewer_edge_only hholds) (by decide)
    · rw [viewer_edge_only hholds] at hsame
      exact absurd hsame (by decide)

end Concrete

end KeyNetra
