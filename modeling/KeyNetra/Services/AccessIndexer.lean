import KeyNetra.Lib.Runs
import KeyNetra.Repo.Tables

/-!
# KeyNetra.Services.AccessIndexer — building a resource's access index

`build_resource_index` answers from the index cache, else from the indexer's own
memo, else rebuilds: the ACL rows from the ACL cache or the table, relabelled
with the requested resource, and one entry for the relationship rows.

* `rebuildResourceIndex` / `buildResourceIndex` — the two functions;
* `IndexerSystem` — indexers sharing the caches, over any sequence of lookups,
  background refreshes and expirations;
* `acl_isolation_iff` — the entries returned for a lookup are exactly the rows of
  that lookup, whatever was looked up before, if and only if no other lookup
  joins to the same keys (or there are no rows to confuse).

The invariant: an ACL document holds the rows of *some* lookup with that key, an
index document holds such rows under the label of *some* lookup with that key.
-/

namespace KeyNetra

/-! ## Entries -/

/-- `_subject_descriptor`. -/
def subjectDescriptor (subjectType subjectId : String) : String := s!"{subjectType}:{subjectId}"

/-- `relationship_descriptor`. -/
def relationshipDescriptor (r : RelationshipRecord) : String :=
  s!"relationship:{r.relation}:{r.objectType}:{r.objectId}"

/-- The entry of an ACL row, labelled with the requested resource and action. -/
def aclIndexEntry (l : Lookup) (acl : ACLRecord) : AccessIndexEntry where
  resourceType := l.resourceType
  resourceId := l.resourceId
  action := l.action
  allowedSubjects := [subjectDescriptor acl.subjectType acl.subjectId]
  source := "acl"
  subjectType := some acl.subjectType
  subjectId := some acl.subjectId
  effect := some acl.effect
  aclId := some acl.id

/-- The descriptor of a row's subject. -/
def rowDescriptor (row : RelationshipRecord) : String :=
  if row.subjectType ≠ "relationship" then subjectDescriptor row.subjectType row.subjectId
  else relationshipDescriptor row

/-- The entry of a resource's relationship rows. -/
def relationshipIndexEntry (l : Lookup) (rows : List RelationshipRecord) : AccessIndexEntry where
  resourceType := l.resourceType
  resourceId := l.resourceId
  action := l.action
  allowedSubjects := sortedSet (rows.map rowDescriptor)
  source := "relationship"

/-- The index of a resource. -/
def indexEntries (l : Lookup) (aclEntries : List ACLRecord) (rows : List RelationshipRecord) :
    List AccessIndexEntry :=
  aclEntries.map (aclIndexEntry l) ++
    if rows.isEmpty then [] else [relationshipIndexEntry l rows]

/-- The ACL-sourced entries of an index. -/
def aclPart (entries : List AccessIndexEntry) : List AccessIndexEntry :=
  entries.filter fun entry => entry.source = "acl"

@[simp] theorem aclPart_indexEntries (l : Lookup) (aclEntries : List ACLRecord)
    (rows : List RelationshipRecord) :
    aclPart (indexEntries l aclEntries rows) = aclEntries.map (aclIndexEntry l) := by
  have hacl : (aclEntries.map (aclIndexEntry l)).filter (fun entry => entry.source = "acl") =
      aclEntries.map (aclIndexEntry l) := by
    apply List.filter_eq_self.mpr
    intro entry hentry
    obtain ⟨acl, -, rfl⟩ := List.mem_map.mp hentry
    rfl
  unfold aclPart indexEntries
  rw [List.filter_append, hacl]
  split
  · simp
  · simp [relationshipIndexEntry]

section Indexer

variable [PyRuntime] (acl : AclTable) (relationships : RelationshipTable)

/-! ## Building -/

/-- The relationship rows of a lookup's resource. -/
def relationshipRows (l : Lookup) : List RelationshipRecord :=
  relationships.listForObject l.tenantId l.resourceType l.resourceId

/-- `AccessIndexer._rebuild_resource_index`. -/
def rebuildResourceIndex (b : Backend) (l : Lookup) :
    Except PyError (List AccessIndexEntry) × Backend :=
  match aclCacheGet b l with
  | .error e => (.error e, b)
  | .ok (some aclEntries) =>
      let entries := indexEntries l aclEntries (relationshipRows relationships l)
      (.ok entries, indexCacheSet b l entries)
  | .ok none =>
      let aclEntries := acl.findMatchingAcl l
      let b := aclCacheSet b l aclEntries
      let entries := indexEntries l aclEntries (relationshipRows relationships l)
      (.ok entries, indexCacheSet b l entries)

/-- The memo of one indexer. -/
abbrev Memo := Lookup → Option (List AccessIndexEntry)

/-- `_memo_set`. -/
def Memo.set (memo : Memo) (l : Lookup) (entries : List AccessIndexEntry) : Memo :=
  fun k => if k = l then some entries else memo k

/-- `AccessIndexer.build_resource_index`. A memo hit also schedules a refresh,
which runs in the background: it is a step of its own below. -/
def buildResourceIndex (b : Backend) (memo : Memo) (l : Lookup) :
    Except PyError (List AccessIndexEntry) × Backend × Memo :=
  match indexCacheGet b l with
  | .error e => (.error e, b, memo)
  | .ok (some cached) => (.ok cached, b, memo)
  | .ok none =>
      match memo l with
      | some entries => (.ok entries, b, memo)
      | none =>
          match rebuildResourceIndex acl relationships b l with
          | (.error e, b) => (.error e, b, memo)
          | (.ok entries, b) => (.ok entries, b, memo.set l entries)

variable {acl relationships} {b : Backend} {memo : Memo} {l : Lookup}

/-- A rebuild on an ACL hit. -/
theorem rebuild_of_hit {records : List ACLRecord}
    (h : b.get (aclKey b.counters l) = some (encodeAcl records)) :
    rebuildResourceIndex acl relationships b l =
      (.ok (indexEntries l records (relationshipRows relationships l)),
        indexCacheSet b l (indexEntries l records (relationshipRows relationships l))) := by
  unfold rebuildResourceIndex
  rw [aclCacheGet_of_doc h]

/-- A rebuild on an ACL miss. -/
theorem rebuild_of_miss (h : b.get (aclKey b.counters l) = none) :
    rebuildResourceIndex acl relationships b l =
      (.ok (indexEntries l (acl.findMatchingAcl l) (relationshipRows relationships l)),
        indexCacheSet (aclCacheSet b l (acl.findMatchingAcl l)) l
          (indexEntries l (acl.findMatchingAcl l) (relationshipRows relationships l))) := by
  unfold rebuildResourceIndex
  rw [aclCacheGet_of_none h]

/-- A call on an index hit. -/
theorem build_of_hit {entries : List AccessIndexEntry}
    (h : b.get (indexKey b.counters l) = some (encodeIndex entries)) :
    buildResourceIndex acl relationships b memo l = (.ok entries, b, memo) := by
  unfold buildResourceIndex
  rw [indexCacheGet_of_doc h]

/-- A call on an index miss and a memo hit. -/
theorem build_of_memo {entries : List AccessIndexEntry}
    (h : b.get (indexKey b.counters l) = none) (hmemo : memo l = some entries) :
    buildResourceIndex acl relationships b memo l = (.ok entries, b, memo) := by
  unfold buildResourceIndex
  rw [indexCacheGet_of_none h]
  simp only [hmemo]

/-- A call on an index miss and a memo miss. -/
theorem build_of_rebuild {entries : List AccessIndexEntry} {b' : Backend}
    (h : b.get (indexKey b.counters l) = none) (hmemo : memo l = none)
    (hrebuild : rebuildResourceIndex acl relationships b l = (.ok entries, b')) :
    buildResourceIndex acl relationships b memo l = (.ok entries, b', memo.set l entries) := by
  unfold buildResourceIndex
  rw [indexCacheGet_of_none h]
  simp only [hmemo, hrebuild]

/-! ## Indexers sharing the caches -/

/-- The shared backend and the memo of every indexer. -/
structure IndexerSystem where
  backend : Backend
  memos : Nat → Memo

/-- What can happen, without a write: a call, a background refresh, the
expiration of a document or of a memo entry. -/
inductive IndexerEvent where
  | call (indexer : Nat) (l : Lookup)
  | refresh (indexer : Nat) (l : Lookup)
  | expire (key : String)
  | forget (indexer : Nat) (l : Lookup)

/-- Replace the memo of one indexer. -/
def IndexerSystem.setMemo (s : IndexerSystem) (indexer : Nat) (memo : Memo) : IndexerSystem :=
  { s with memos := fun i => if i = indexer then memo else s.memos i }

variable (acl relationships)

def IndexerSystem.step (s : IndexerSystem) : IndexerEvent → IndexerSystem
  | .call i l =>
      let (_, b, memo) := buildResourceIndex acl relationships s.backend (s.memos i) l
      { s with backend := b }.setMemo i memo
  | .refresh i l =>
      match rebuildResourceIndex acl relationships s.backend l with
      | (.error _, b) => { s with backend := b }
      | (.ok entries, b) => { s with backend := b }.setMemo i ((s.memos i).set l entries)
  | .expire key => { s with backend := s.backend.delete key }
  | .forget i l => s.setMemo i fun k => if k = l then none else s.memos i k

/-- Cold caches, under any namespace counters. -/
def IndexerSystem.cold (counters : String → Option Nat) : IndexerSystem where
  backend := .cold counters
  memos _ _ := none

/-- A lookup by any indexer returns exactly the rows of that lookup. -/
def IndexerSystem.ExactFor (s : IndexerSystem) (q : Lookup) : Prop :=
  ∀ i, ∃ entries, (buildResourceIndex acl relationships s.backend (s.memos i) q).1 = .ok entries ∧
    aclPart entries = (acl.findMatchingAcl q).map (aclIndexEntry q)

/-- `q` is confused with no other lookup: none has its index key, and of those
that do none shares its ACL key with another; or there are no rows to confuse. -/
def Unconfused (counters : String → Option Nat) (q : Lookup) : Prop :=
  (∀ r s, indexKey counters r = indexKey counters q → aclKey counters s = aclKey counters r →
      r = q ∧ s = q) ∨
    (acl.findMatchingAcl q = [] ∧ ∀ r s, indexKey counters r = indexKey counters q →
      aclKey counters s = aclKey counters r → acl.findMatchingAcl s = [])

variable {acl relationships}

/-! ## The invariant -/

/-- What the caches hold: rows of lookups with the same ACL key, under labels of
lookups with the same index key. -/
structure Sourced (acl : AclTable) (relationships : RelationshipTable)
    (counters : String → Option Nat) (s : IndexerSystem) : Prop where
  countersEq : s.backend.counters = counters
  aclDoc : ∀ l v, s.backend.get (aclKey counters l) = some v →
    ∃ r, aclKey counters r = aclKey counters l ∧ v = encodeAcl (acl.findMatchingAcl r)
  indexDoc : ∀ l v, s.backend.get (indexKey counters l) = some v →
    ∃ r t, indexKey counters r = indexKey counters l ∧ aclKey counters t = aclKey counters r ∧
      v = encodeIndex (indexEntries r (acl.findMatchingAcl t) (relationshipRows relationships r))
  memo : ∀ i l entries, s.memos i l = some entries →
    ∃ t, aclKey counters t = aclKey counters l ∧
      entries = indexEntries l (acl.findMatchingAcl t) (relationshipRows relationships l)

variable {counters : String → Option Nat} {s : IndexerSystem}

omit [PyRuntime] in
theorem sourced_cold : Sourced acl relationships counters (.cold counters) where
  countersEq := rfl
  aclDoc _ _ h := by cases h
  indexDoc _ _ h := by cases h
  memo _ _ _ h := by cases h

omit [PyRuntime] in
theorem Sourced.withBackend (h : Sourced acl relationships counters s) {b : Backend}
    (hb : Sourced acl relationships counters { s with backend := b }) {i : Nat} {m : Memo}
    (hm : ∀ l entries, m l = some entries →
      ∃ t, aclKey counters t = aclKey counters l ∧
        entries = indexEntries l (acl.findMatchingAcl t) (relationshipRows relationships l)) :
    Sourced acl relationships counters ({ s with backend := b }.setMemo i m) where
  countersEq := hb.countersEq
  aclDoc := hb.aclDoc
  indexDoc := hb.indexDoc
  memo j l entries hmemo := by
    simp only [IndexerSystem.setMemo] at hmemo
    split at hmemo
    · exact hm l entries hmemo
    · exact h.memo j l entries hmemo

omit [PyRuntime] in
/-- Storing the rows of a lookup under its ACL key. -/
theorem Sourced.aclSet (h : Sourced acl relationships counters s) (l : Lookup) :
    Sourced acl relationships counters
      { s with backend := aclCacheSet s.backend l (acl.findMatchingAcl l) } where
  countersEq := h.countersEq
  aclDoc r v hv := by
    simp only [aclCacheSet, h.countersEq] at hv
    by_cases hkey : aclKey counters r = aclKey counters l
    · rw [hkey, Backend.get_set_self] at hv
      exact ⟨l, hkey.symm, (Option.some.inj hv).symm⟩
    · rw [Backend.get_set_ne _ _ hkey] at hv
      exact h.aclDoc r v hv
  indexDoc r v hv := by
    simp only [aclCacheSet, h.countersEq] at hv
    rw [Backend.get_set_ne _ _ (aclKey_ne_indexKey _ _ _ _).symm] at hv
    exact h.indexDoc r v hv
  memo := h.memo

omit [PyRuntime] in
/-- Storing an index built from rows that share the lookup's ACL key. -/
theorem Sourced.indexSet (h : Sourced acl relationships counters s) {l t : Lookup}
    (ht : aclKey counters t = aclKey counters l) :
    Sourced acl relationships counters
      { s with
        backend := indexCacheSet s.backend l
          (indexEntries l (acl.findMatchingAcl t) (relationshipRows relationships l)) } where
  countersEq := h.countersEq
  aclDoc r v hv := by
    simp only [indexCacheSet, h.countersEq] at hv
    rw [Backend.get_set_ne _ _ (aclKey_ne_indexKey _ _ _ _)] at hv
    exact h.aclDoc r v hv
  indexDoc r v hv := by
    simp only [indexCacheSet, h.countersEq] at hv
    by_cases hkey : indexKey counters r = indexKey counters l
    · rw [hkey, Backend.get_set_self] at hv
      exact ⟨l, t, hkey.symm, ht, (Option.some.inj hv).symm⟩
    · rw [Backend.get_set_ne _ _ hkey] at hv
      exact h.indexDoc r v hv
  memo := h.memo

/-- A rebuild returns rows that share the lookup's ACL key, under its label. -/
theorem Sourced.rebuild (h : Sourced acl relationships counters s) (l : Lookup) :
    ∃ t b, aclKey counters t = aclKey counters l ∧
      rebuildResourceIndex acl relationships s.backend l =
        (.ok (indexEntries l (acl.findMatchingAcl t) (relationshipRows relationships l)), b) ∧
      Sourced acl relationships counters { s with backend := b } := by
  have hkey : aclKey s.backend.counters l = aclKey counters l := by rw [h.countersEq]
  cases hdoc : s.backend.get (aclKey s.backend.counters l) with
  | none => exact ⟨l, _, rfl, rebuild_of_miss hdoc, (h.aclSet l).indexSet rfl⟩
  | some v =>
      obtain ⟨t, ht, rfl⟩ := h.aclDoc l v (hkey ▸ hdoc)
      exact ⟨t, _, ht, rebuild_of_hit hdoc, h.indexSet ht⟩

/-- What a call returns, and what it leaves. -/
theorem Sourced.build (h : Sourced acl relationships counters s) (i : Nat) (l : Lookup) :
    ∃ r t b m, indexKey counters r = indexKey counters l ∧ aclKey counters t = aclKey counters r ∧
      buildResourceIndex acl relationships s.backend (s.memos i) l =
        (.ok (indexEntries r (acl.findMatchingAcl t) (relationshipRows relationships r)), b, m) ∧
      Sourced acl relationships counters ({ s with backend := b }.setMemo i m) := by
  have hkey : indexKey s.backend.counters l = indexKey counters l := by rw [h.countersEq]
  have hsame : Sourced acl relationships counters (s.setMemo i (s.memos i)) :=
    h.withBackend (b := s.backend) h fun l entries hl => h.memo i l entries hl
  cases hdoc : s.backend.get (indexKey s.backend.counters l) with
  | some v =>
      -- served from the index cache, under the label stored there
      obtain ⟨r, t, hr, ht, rfl⟩ := h.indexDoc l v (hkey ▸ hdoc)
      exact ⟨r, t, _, _, hr, ht, build_of_hit hdoc, hsame⟩
  | none =>
      cases hmemo : s.memos i l with
      | some entries =>
          obtain ⟨t, ht, rfl⟩ := h.memo i l entries hmemo
          exact ⟨l, t, _, _, rfl, ht, build_of_memo hdoc hmemo, hsame⟩
      | none =>
          obtain ⟨t, b, ht, hrebuild, hb⟩ := h.rebuild l
          refine ⟨l, t, b, _, rfl, ht, build_of_rebuild hdoc hmemo hrebuild, h.withBackend hb ?_⟩
          intro k entries hk
          simp only [Memo.set] at hk
          split at hk
          · rename_i hkl
            cases hk
            subst hkl
            exact ⟨t, ht, rfl⟩
          · exact h.memo i k entries hk

/-- Every event keeps the invariant. -/
theorem Sourced.step (h : Sourced acl relationships counters s) (e : IndexerEvent) :
    Sourced acl relationships counters (s.step acl relationships e) := by
  cases e with
  | call i l =>
      obtain ⟨r, t, b, m, -, -, hbuild, hs⟩ := h.build i l
      simp only [IndexerSystem.step, hbuild]
      exact hs
  | refresh i l =>
      obtain ⟨t, b, ht, hrebuild, hb⟩ := h.rebuild l
      simp only [IndexerSystem.step, hrebuild]
      apply h.withBackend hb
      intro k entries hk
      -- what is memoized comes from the rows just read
      simp only [Memo.set] at hk
      split at hk
      · rename_i hkl
        cases hk
        subst hkl
        exact ⟨t, ht, rfl⟩
      · exact h.memo i k entries hk
  | expire key =>
      have hget : ∀ k v, (s.backend.delete key).get k = some v → s.backend.get k = some v := by
        intro k v hv
        -- deleting a document leaves the others
        by_cases hk : k = key
        · rw [hk, Backend.get_delete_self] at hv
          cases hv
        · rwa [Backend.get_delete_ne _ hk] at hv
      exact ⟨h.countersEq, fun l v hv => h.aclDoc l v (hget _ v hv),
        fun l v hv => h.indexDoc l v (hget _ v hv), h.memo⟩
  | forget i l =>
      apply h.withBackend (b := s.backend) h
      intro k entries hk
      split at hk
      · cases hk
      · exact h.memo i k entries hk

/-- Every run from cold caches keeps the invariant. -/
theorem sourced_run (events : List IndexerEvent) :
    Sourced acl relationships counters
      (Lib.run (IndexerSystem.step acl relationships) (.cold counters) events) :=
  Lib.run_preserves (fun _ e h => h.step e) sourced_cold events

/-! ## When a lookup is isolated -/

omit [PyRuntime] in
/-- Rows of one lookup under the label of another are the rows of `q` under its own
label only when all three are `q`, or there are none. -/
theorem aclPart_eq_iff {q r t : Lookup} (hr : indexKey counters r = indexKey counters q)
    (ht : aclKey counters t = aclKey counters r) :
    (acl.findMatchingAcl t).map (aclIndexEntry r) = (acl.findMatchingAcl q).map (aclIndexEntry q) ↔
      (r = q ∧ t = q) ∨ (acl.findMatchingAcl t = [] ∧ acl.findMatchingAcl q = []) := by
  constructor
  · intro heq
    cases hrows : acl.findMatchingAcl t with
    | nil =>
        rw [hrows] at heq
        exact Or.inr ⟨rfl, List.map_eq_nil_iff.mp heq.symm⟩
    | cons row rows =>
        cases hqrows : acl.findMatchingAcl q with
        | nil =>
            rw [hrows, hqrows] at heq
            cases heq
        | cons qrow qrows =>
            rw [hrows, hqrows] at heq
            have hhead := (List.cons.inj heq).1
            -- the label of the first entry is that of `q`
            have hrtenant : r.tenantId = q.tenantId := ((Lookup.key_inj (by decide)).mp hr).1
            have htype : r.resourceType = q.resourceType :=
              congrArg AccessIndexEntry.resourceType hhead
            have hid : r.resourceId = q.resourceId := congrArg AccessIndexEntry.resourceId hhead
            have haction : r.action = q.action := congrArg AccessIndexEntry.action hhead
            have hrq : r = q := by
              cases r
              cases q
              simp_all
            -- and its row is the first row of `q`, as ids are unique
            have hrowid : row.id = qrow.id :=
              Option.some.inj (congrArg AccessIndexEntry.aclId hhead)
            have hrow := AclTable.mem_findMatchingAcl.mp (hrows ▸ List.mem_cons_self)
            have hqrow := AclTable.mem_findMatchingAcl.mp (hqrows ▸ List.mem_cons_self)
            have hsame : row = qrow := Lib.eq_of_key_eq acl.ids hrow.1 hqrow.1 hrowid
            subst hsame
            have htq : t = q := by
              obtain ⟨h1, h2, h3, h4⟩ := hrow.2
              obtain ⟨k1, k2, k3, k4⟩ := hqrow.2
              cases t
              cases q
              simp_all
            exact Or.inl ⟨hrq, htq⟩
  · rintro (⟨rfl, rfl⟩ | ⟨hempty, hqempty⟩)
    · rfl
    · rw [hempty, hqempty]
      rfl

omit [PyRuntime] in
/-- The condition, stated lookup by lookup. -/
theorem isolated_iff {q : Lookup} :
    Unconfused acl counters q ↔ ∀ r t, indexKey counters r = indexKey counters q →
      aclKey counters t = aclKey counters r →
        (r = q ∧ t = q) ∨ (acl.findMatchingAcl t = [] ∧ acl.findMatchingAcl q = []) := by
  constructor
  · rintro (hkeys | ⟨hq, hrows⟩) r t hr ht
    · exact Or.inl (hkeys r t hr ht)
    · exact Or.inr ⟨hrows r t hr ht, hq⟩
  · intro h
    by_cases hq : acl.findMatchingAcl q = []
    · refine Or.inr ⟨hq, fun r t hr ht => ?_⟩
      rcases h r t hr ht with ⟨-, rfl⟩ | ⟨ht', -⟩
      · exact hq
      · exact ht'
    · refine Or.inl fun r t hr ht => ?_
      rcases h r t hr ht with hsame | ⟨-, hq'⟩
      · exact hsame
      · exact absurd hq' hq

/-- Isolation is enough, whatever happened before. -/
theorem exact_of_isolated {q : Lookup} (h : Unconfused acl counters q)
    (hs : Sourced acl relationships counters s) : s.ExactFor acl relationships q := by
  intro i
  obtain ⟨r, t, b, m, hr, ht, hbuild, -⟩ := hs.build i q
  refine ⟨_, congrArg Prod.fst hbuild, ?_⟩
  rw [aclPart_indexEntries]
  exact (aclPart_eq_iff hr ht).mpr (isolated_iff.mp h r t hr ht)

/-- A call that rebuilds stores what it returns. -/
theorem step_call (s : IndexerSystem) {i : Nat} {l : Lookup} {entries : List AccessIndexEntry} {b : Backend}
    (hdoc : s.backend.get (indexKey s.backend.counters l) = none) (hmemo : s.memos i l = none)
    (hrebuild : rebuildResourceIndex acl relationships s.backend l = (.ok entries, b)) :
    s.step acl relationships (.call i l) =
      { s with backend := b }.setMemo i ((s.memos i).set l entries) := by
  simp only [IndexerSystem.step, build_of_rebuild hdoc hmemo hrebuild]

/-- The caches after a lookup of `t` from cold caches. -/
def afterCall (acl : AclTable) (relationships : RelationshipTable)
    (counters : String → Option Nat) (t : Lookup) : Backend :=
  indexCacheSet (aclCacheSet (.cold counters) t (acl.findMatchingAcl t)) t
    (indexEntries t (acl.findMatchingAcl t) (relationshipRows relationships t))

omit [PyRuntime] in
theorem counters_afterCall (t : Lookup) :
    (afterCall acl relationships counters t).counters = counters := rfl

omit [PyRuntime] in
theorem get_afterCall_index {r t : Lookup} (hne : indexKey counters r ≠ indexKey counters t) :
    (afterCall acl relationships counters t).get
      (indexKey (afterCall acl relationships counters t).counters r) = none := by
  rw [counters_afterCall]
  unfold afterCall
  rw [get_indexCacheSet_ne (aclCacheSet (.cold counters) t _) _ hne,
    get_aclCacheSet_ne (.cold counters) _ (aclKey_ne_indexKey _ _ _ _).symm]
  rfl

omit [PyRuntime] in
theorem get_afterCall_acl {r t : Lookup} (ht : aclKey counters t = aclKey counters r) :
    (afterCall acl relationships counters t).get
      (aclKey (afterCall acl relationships counters t).counters r) =
        some (encodeAcl (acl.findMatchingAcl t)) := by
  rw [counters_afterCall, ← ht]
  unfold afterCall
  rw [get_indexCacheSet_ne _ _ (aclKey_ne_indexKey _ _ _ _)]
  exact get_aclCacheSet_self (.cold counters) t _

theorem cold_call (t : Lookup) :
    (IndexerSystem.cold counters).step acl relationships (.call 0 t) =
      { IndexerSystem.cold counters with
        backend := afterCall acl relationships counters t }.setMemo 0
          (Memo.set (fun _ => none) t
            (indexEntries t (acl.findMatchingAcl t) (relationshipRows relationships t))) :=
  step_call (.cold counters) rfl rfl (rebuild_of_miss rfl)

/-- What a fresh indexer returns from a state whose index document for `q` is known. -/
theorem exactFor_of_doc {q r t : Lookup} (i : Nat) (hexact : s.ExactFor acl relationships q)
    (hcounters : s.backend.counters = counters) (hr : indexKey counters r = indexKey counters q)
    (ht : aclKey counters t = aclKey counters r)
    (hdoc : s.backend.get (indexKey counters r) = some (encodeIndex
      (indexEntries r (acl.findMatchingAcl t) (relationshipRows relationships r)))) :
    (r = q ∧ t = q) ∨ (acl.findMatchingAcl t = [] ∧ acl.findMatchingAcl q = []) := by
  have ⟨entries, hbuild, hentries⟩ := hexact i
  have hhit : s.backend.get (indexKey s.backend.counters q) = some (encodeIndex
      (indexEntries r (acl.findMatchingAcl t) (relationshipRows relationships r))) := by
    rw [hcounters, ← hr]
    exact hdoc
  rw [build_of_hit hhit] at hbuild
  rw [← Except.ok.inj hbuild, aclPart_indexEntries] at hentries
  exact (aclPart_eq_iff hr ht).mp hentries

/-- A lookup of `l` leaves its own rows under its own label for whoever shares its
index key. -/
theorem exact_after_call {q l : Lookup} (hl : indexKey counters l = indexKey counters q)
    (hexact : IndexerSystem.ExactFor acl relationships
      (Lib.run (IndexerSystem.step acl relationships) (.cold counters) [.call 0 l]) q) :
    l = q ∨ (acl.findMatchingAcl l = [] ∧ acl.findMatchingAcl q = []) := by
  rw [Lib.run_cons, Lib.run_nil, cold_call] at hexact
  have hdoc : (afterCall acl relationships counters l).get (indexKey counters l) =
      some (encodeIndex
        (indexEntries l (acl.findMatchingAcl l) (relationshipRows relationships l))) :=
    get_indexCacheSet_self (aclCacheSet (.cold counters) l _) l _
  rcases exactFor_of_doc 1 hexact rfl hl rfl hdoc with ⟨hlq, -⟩ | hempty
  · exact Or.inl hlq
  · exact Or.inr hempty

/-- A lookup of `t` and then one of `r`, which shares its ACL key but not its index
key, leave the rows of `t` under the label of `r`. -/
theorem exact_after_calls {q r t : Lookup} (hr : indexKey counters r = indexKey counters q)
    (ht : aclKey counters t = aclKey counters r) (hne : indexKey counters r ≠ indexKey counters t)
    (hexact : IndexerSystem.ExactFor acl relationships
      (Lib.run (IndexerSystem.step acl relationships) (.cold counters) [.call 0 t, .call 1 r]) q) :
    (r = q ∧ t = q) ∨ (acl.findMatchingAcl t = [] ∧ acl.findMatchingAcl q = []) := by
  -- the second call misses the index and hits the ACL rows of `t`
  rw [Lib.run_cons, Lib.run_cons, Lib.run_nil, cold_call,
    step_call _ (get_afterCall_index hne) rfl (rebuild_of_hit (get_afterCall_acl ht))] at hexact
  have hdoc : (indexCacheSet (afterCall acl relationships counters t) r
      (indexEntries r (acl.findMatchingAcl t) (relationshipRows relationships r))).get
        (indexKey counters r) = some (encodeIndex
          (indexEntries r (acl.findMatchingAcl t) (relationshipRows relationships r))) :=
    get_indexCacheSet_self (afterCall acl relationships counters t) r _
  exact exactFor_of_doc 2 hexact rfl hr ht hdoc

/-- If every sequence of lookups leaves `q` exact, `q` is isolated. -/
theorem isolated_of_exact {q : Lookup}
    (h : ∀ calls : List (Nat × Lookup), IndexerSystem.ExactFor acl relationships
      (Lib.run (IndexerSystem.step acl relationships) (.cold counters)
        (calls.map fun call => .call call.1 call.2)) q) : Unconfused acl counters q := by
  rw [isolated_iff]
  intro r t hr ht
  by_cases hkey : indexKey counters r = indexKey counters t
  · -- both lookups have the index key of `q`: one of them alone confuses it
    rcases exact_after_call (hkey.symm.trans hr) (h [(0, t)]) with rfl | hempty
    · rcases exact_after_call hr (h [(0, r)]) with rfl | ⟨-, hempty⟩
      · exact Or.inl ⟨rfl, rfl⟩
      · exact Or.inr ⟨hempty, hempty⟩
    · exact Or.inr hempty
  · exact exact_after_calls hr ht hkey (h [(0, t), (1, r)])

variable (acl relationships counters)

/-- For every table, every namespace counters and every lookup: whatever sequence
of lookups came before, the ACL-sourced entries returned are exactly its rows, if
and only if it is isolated; and then background refreshes and expirations in
between change nothing. -/
theorem acl_isolation_iff (q : Lookup) :
    ((∀ calls : List (Nat × Lookup), IndexerSystem.ExactFor acl relationships
        (Lib.run (IndexerSystem.step acl relationships) (.cold counters)
          (calls.map fun call => .call call.1 call.2)) q) ↔ Unconfused acl counters q) ∧
      (Unconfused acl counters q → ∀ events, IndexerSystem.ExactFor acl relationships
        (Lib.run (IndexerSystem.step acl relationships) (.cold counters) events) q) := by
  have henough : Unconfused acl counters q → ∀ events, IndexerSystem.ExactFor acl relationships
      (Lib.run (IndexerSystem.step acl relationships) (.cold counters) events) q :=
    fun hq events => exact_of_isolated hq (sourced_run events)
  exact ⟨⟨isolated_of_exact, fun hq calls => henough hq _⟩, henough⟩

end Indexer

/-! ## A concrete table -/

section Concrete

attribute [local instance] plainRuntime

attribute [local semireducible] cacheKey

/-- One row, on a resource whose id contains a colon. -/
def sharedDocRow : ACLRecord where
  id := 1
  tenantId := 1
  subjectType := "user"
  subjectId := "7"
  resourceType := "doc"
  resourceId := "team:plan"
  action := "read"
  effect := "allow"
  createdAt := none

def sharedDocTable : AclTable := ⟨[sharedDocRow], List.nodup_singleton _⟩

/-- A tenant without relationships. -/
def noRelationships : RelationshipTable := ⟨[], List.nodup_nil, List.nodup_nil⟩

/-- The lookup of the row. -/
def planRead : Lookup := ⟨1, "doc", "team:plan", "read"⟩

/-- A lookup of another resource, with the same joined text. -/
def teamPlanRead : Lookup := ⟨1, "doc", "team", "plan:read"⟩

theorem planRead_key : indexKey (fun _ => none) planRead = indexKey (fun _ => none) teamPlanRead :=
  (Lookup.key_inj (by decide)).mpr ⟨rfl, rfl, by decide⟩

/-- The table has no row for `doc:team`, action `plan:read`; once `doc:team:plan` has
been looked up, a lookup of it returns that resource's row. -/
theorem row_of_another_resource :
    sharedDocTable.findMatchingAcl teamPlanRead = [] ∧
      (buildResourceIndex sharedDocTable noRelationships
        (afterCall sharedDocTable noRelationships (fun _ => none) planRead) (fun _ => none)
        teamPlanRead).1 = .ok [aclIndexEntry planRead sharedDocRow] ∧
      ¬ ∀ calls : List (Nat × Lookup), IndexerSystem.ExactFor sharedDocTable noRelationships
        (Lib.run (IndexerSystem.step sharedDocTable noRelationships) (.cold fun _ => none)
          (calls.map fun call => .call call.1 call.2)) teamPlanRead := by
  have hempty : sharedDocTable.findMatchingAcl teamPlanRead = [] := by decide
  have hrow : sharedDocTable.findMatchingAcl planRead = [sharedDocRow] := by decide
  refine ⟨hempty, ?_, ?_⟩
  · have hdoc : (afterCall sharedDocTable noRelationships (fun _ => none) planRead).get
        (indexKey (fun _ => none) teamPlanRead) =
          some (encodeIndex [aclIndexEntry planRead sharedDocRow]) := by
      rw [← planRead_key]
      exact get_indexCacheSet_self _ planRead _
    exact congrArg Prod.fst (build_of_hit hdoc)
  · intro h
    rcases exact_after_call planRead_key (h [(0, planRead)]) with hsame | ⟨hnone, -⟩
    · exact absurd hsame (by decide)
    · rw [hrow] at hnone
      cases hnone

end Concrete

end KeyNetra
