import KeyNetra.Services.AccessIndexer

/-!
# KeyNetra.Concurrency.AclVisibility — one ACL write against concurrent rebuilds

Any number of `build_resource_index` calls and background refreshes for one
resource run step by step, interleaved with one ACL create or delete on that
resource: commit, ACL-namespace increment, index-namespace increment, memo drop.
A cache read or write is one step; its key reads the counters at that moment.

* `VisibilityState.step` — the interleaved system;
* `run_alone` — the steps of a call that nothing interrupts are
  `build_resource_index`;
* `VisibilityState.OnTime` — the steps that cannot lose the write: no store after
  an increment of rows the table no longer holds, increments to unused keys;
* `write_visible_of_on_time` — in every run of such steps, every call that began
  after the write had finished returns exactly the rows of the table;
* `late_store_hides_row` — one store that comes late hides the created row.

The invariant links a document's key to the table it was read from: past an
increment, what is stored under the current namespace is what the table holds.
-/

namespace KeyNetra

/-! ## The system -/

/-- The resource the write and the calls are about. -/
structure ResourceKey where
  tenantId : Int
  resourceType : String
  resourceId : String

/-- The lookup of one action. -/
def ResourceKey.lookup (res : ResourceKey) (action : String) : Lookup :=
  ⟨res.tenantId, res.resourceType, res.resourceId, action⟩

/-- The ACL write. -/
inductive AclWrite where
  | create (draft : AclDraft)
  | delete (aclId : Int)

/-- The write is about the resource: a delete finds a row of it. -/
def AclWrite.targets (res : ResourceKey) (t : AclTable) : AclWrite → Bool
  | .create draft => draft.resourceType = res.resourceType && draft.resourceId = res.resourceId
  | .delete aclId =>
      match t.getAclEntry res.tenantId aclId with
      | some row => row.resourceType = res.resourceType && row.resourceId = res.resourceId
      | none => false

/-- The committed table. -/
def AclWrite.apply (tenantId : Int) (t : AclTable) : AclWrite → AclTable
  | .create draft => (t.createAclEntry tenantId draft).2
  | .delete aclId => t.deleteAclEntry tenantId aclId

/-- Where a call stands. -/
inductive ReaderPc where
  | idle
  | started (action : String)
  | indexMissed (action : String)
  | rebuilding (action : String)
  | aclMissed (action : String)
  | tableRead (action : String) (rows : List ACLRecord)
  | rowsReady (action : String) (rows : List ACLRecord)
  | built (action : String) (entries : List AccessIndexEntry)
  | indexStored (action : String) (entries : List AccessIndexEntry)
  | returned (action : String) (entries : List AccessIndexEntry)
  | failed
deriving DecidableEq

/-- A call or a background refresh, on one indexer. `late` records that it is a
call which began after the write had finished; no step depends on it. -/
structure Reader where
  indexer : Nat
  late : Bool
  pc : ReaderPc

/-- Where the write stands. -/
inductive WriterPc where
  | idle
  | committed
  | aclBumped
  | indexBumped
  | done
deriving DecidableEq

structure VisibilityState where
  acl : AclTable
  backend : Backend
  memos : Nat → Memo
  readers : Nat → Reader
  writer : WriterPc

/-- The moves: a call or a refresh begins, one of them advances, the write
advances, a document or a memo entry expires. -/
inductive VisibilityEvent where
  | call (reader indexer : Nat) (action : String)
  | refresh (reader indexer : Nat) (action : String)
  | advance (reader : Nat)
  | write
  | expire (key : String)
  | forget (indexer : Nat) (l : Lookup)

namespace VisibilityState

/-- Replace one reader. -/
def setReader (s : VisibilityState) (r : Nat) (reader : Reader) : VisibilityState :=
  { s with readers := fun k => if k = r then reader else s.readers k }

/-- Move one reader. -/
def setPc (s : VisibilityState) (r : Nat) (pc : ReaderPc) : VisibilityState :=
  s.setReader r { s.readers r with pc := pc }

/-- A reader that is not in the middle of a call. -/
def resting (s : VisibilityState) (r : Nat) : Bool :=
  match (s.readers r).pc with
  | .idle | .returned .. | .failed => true
  | _ => false

end VisibilityState

section System

variable [PyRuntime] (relationships : RelationshipTable) (res : ResourceKey) (write : AclWrite)
  (writerIndexer : Nat)

namespace VisibilityState

/-- The next step of a call. -/
def advance (s : VisibilityState) (r : Nat) : VisibilityState :=
  match (s.readers r).pc with
  | .idle | .returned .. | .failed => s
  | .started a =>
      match indexCacheGet s.backend (res.lookup a) with
      | .error _ => s.setPc r .failed
      | .ok (some cached) => s.setPc r (.returned a cached)
      | .ok none => s.setPc r (.indexMissed a)
  | .indexMissed a =>
      match s.memos (s.readers r).indexer (res.lookup a) with
      | some entries => s.setPc r (.returned a entries)
      | none => s.setPc r (.rebuilding a)
  | .rebuilding a =>
      match aclCacheGet s.backend (res.lookup a) with
      | .error _ => s.setPc r .failed
      | .ok (some rows) => s.setPc r (.rowsReady a rows)
      | .ok none => s.setPc r (.aclMissed a)
  | .aclMissed a => s.setPc r (.tableRead a (s.acl.findMatchingAcl (res.lookup a)))
  | .tableRead a rows =>
      { s with backend := aclCacheSet s.backend (res.lookup a) rows }.setPc r (.rowsReady a rows)
  | .rowsReady a rows =>
      s.setPc r (.built a (indexEntries (res.lookup a) rows
        (relationshipRows relationships (res.lookup a))))
  | .built a entries =>
      { s with backend := indexCacheSet s.backend (res.lookup a) entries }.setPc r
        (.indexStored a entries)
  | .indexStored a entries =>
      { s with
        memos := fun i =>
          if i = (s.readers r).indexer then (s.memos i).set (res.lookup a) entries
          else s.memos i }.setPc r (.returned a entries)

/-- The backend after the ACL-namespace increment. -/
def aclBump (s : VisibilityState) : Backend :=
  aclCacheInvalidate s.backend res.tenantId res.resourceType res.resourceId

/-- The backend after the index-namespace increment. -/
def indexBump (s : VisibilityState) : Backend :=
  indexCacheInvalidate s.backend res.tenantId res.resourceType res.resourceId

/-- The next step of the write: the routes of `/acl`, then `invalidate_resource`. -/
def advanceWrite (s : VisibilityState) : VisibilityState :=
  match s.writer with
  | .idle =>
      if write.targets res s.acl then
        { s with acl := write.apply res.tenantId s.acl, writer := .committed }
      else s
  | .committed => { s with backend := s.aclBump res, writer := .aclBumped }
  | .aclBumped => { s with backend := s.indexBump res, writer := .indexBumped }
  | .indexBumped =>
      { s with
        memos := fun i l =>
          if i = writerIndexer ∧ l.tenantId = res.tenantId ∧ l.resourceType = res.resourceType ∧
            l.resourceId = res.resourceId then none else s.memos i l
        writer := .done }
  | .done => s

/-- One move; a move that is not enabled changes nothing. -/
def step (s : VisibilityState) : VisibilityEvent → VisibilityState
  | .call r i a =>
      if s.resting r then s.setReader r ⟨i, s.writer = .done, .started a⟩ else s
  | .refresh r i a => if s.resting r then s.setReader r ⟨i, false, .rebuilding a⟩ else s
  | .advance r => s.advance relationships res r
  | .write => s.advanceWrite res write writerIndexer
  | .expire key => { s with backend := s.backend.delete key }
  | .forget i l =>
      { s with memos := fun j k => if j = i ∧ k = l then none else s.memos j k }

/-- Before the write and before any call: any table, any caches, any memos. -/
def initial (acl : AclTable) (backend : Backend) (memos : Nat → Memo) : VisibilityState where
  acl := acl
  backend := backend
  memos := memos
  readers _ := ⟨0, false, .idle⟩
  writer := .idle

/-- The entries hold exactly the rows of the table. -/
def Fresh (s : VisibilityState) (action : String) (entries : List AccessIndexEntry) : Prop :=
  aclPart entries = (s.acl.findMatchingAcl (res.lookup action)).map (aclIndexEntry (res.lookup action))

/-- Every call that began after the write had finished returns exactly the rows of
the table: the created row among them, the deleted row not. -/
def Visible (s : VisibilityState) : Prop :=
  ∀ r action entries, (s.readers r).late = true → (s.readers r).pc = .returned action entries →
    s.Fresh res action entries

/-- The steps that cannot lose the write. An increment moves to keys without
documents; rows stored after an increment are rows the table holds; a memo that
answers a call begun after the write holds them too. -/
def OnTime (s : VisibilityState) : VisibilityEvent → Prop
  | .write =>
      (s.writer = .committed →
        ∀ a, s.backend.get (aclKey (s.aclBump res).counters (res.lookup a)) = none) ∧
      (s.writer = .aclBumped →
        ∀ a, s.backend.get (indexKey (s.indexBump res).counters (res.lookup a)) = none)
  | .advance r =>
      match (s.readers r).pc with
      | .tableRead a rows =>
          s.writer ∈ [.aclBumped, .indexBumped, .done] → rows = s.acl.findMatchingAcl (res.lookup a)
      | .built a entries => s.writer ∈ [.indexBumped, .done] → s.Fresh res a entries
      | .indexMissed a =>
          (s.readers r).late = true → ∀ entries,
            s.memos (s.readers r).indexer (res.lookup a) = some entries → s.Fresh res a entries
      | _ => True
  | _ => True

end VisibilityState

variable {relationships res write writerIndexer}

open VisibilityState

omit [PyRuntime] in
@[simp] theorem setPc_self (s : VisibilityState) (r : Nat) (pc : ReaderPc) :
    (s.setPc r pc).readers r = { s.readers r with pc := pc } := if_pos rfl

omit [PyRuntime] in
theorem setPc_other (s : VisibilityState) {r k : Nat} (pc : ReaderPc) (h : k ≠ r) :
    (s.setPc r pc).readers k = s.readers k := if_neg h

/-! ## A call alone -/

/-- What eight steps of one reader leave behind, when nothing interrupts it. -/
def alone (relationships : RelationshipTable) (res : ResourceKey) (write : AclWrite)
    (writerIndexer : Nat) (s : VisibilityState) (r : Nat) : VisibilityState :=
  Lib.run (VisibilityState.step relationships res write writerIndexer) s
    (List.replicate 8 (.advance r))

/-- The steps of a call that nothing interrupts are `build_resource_index`. -/
theorem run_alone {s : VisibilityState} {r : Nat} {a : String}
    (hpc : (s.readers r).pc = .started a) :
    let result := buildResourceIndex s.acl relationships s.backend
      (s.memos (s.readers r).indexer) (res.lookup a)
    let s' := alone relationships res write writerIndexer s r
    s'.backend = result.2.1 ∧ s'.memos (s.readers r).indexer = result.2.2 ∧
      (s'.readers r).pc =
        match result.1 with
        | .ok entries => .returned a entries
        | .error _ => .failed := by
  intro result s'
  simp only [s', result, alone, List.replicate, Lib.run, List.foldl_cons, List.foldl_nil,
    VisibilityState.step]
  unfold buildResourceIndex
  -- one case for each way through the call; the steps left over do nothing
  cases hindex : indexCacheGet s.backend (res.lookup a) with
  | error e => simp [VisibilityState.advance, hpc, hindex, setPc, setReader]
  | ok cached =>
      cases cached with
      | some entries => simp [VisibilityState.advance, hpc, hindex, setPc, setReader]
      | none =>
          cases hmemo : s.memos (s.readers r).indexer (res.lookup a) with
          | some entries => simp [VisibilityState.advance, hpc, hindex, hmemo, setPc, setReader]
          | none =>
              unfold rebuildResourceIndex
              cases hacl : aclCacheGet s.backend (res.lookup a) with
              | error e =>
                  simp [VisibilityState.advance, hpc, hindex, hmemo, hacl, setPc, setReader]
              | ok rows =>
                  cases rows with
                  | some rows =>
                      simp [VisibilityState.advance, hpc, hindex, hmemo, hacl, setPc, setReader]
                  | none =>
                      simp [VisibilityState.advance, hpc, hindex, hmemo, hacl, setPc, setReader]

/-! ## Keys of one resource -/

omit [PyRuntime] in
/-- Two actions with one key are one action. -/
theorem lookup_key_inj {kind : String} (hkind : kind ∈ documentKinds) {m n : Nat}
    {a c : String} (h : (res.lookup a).key kind m = (res.lookup c).key kind n) : a = c := by
  have hjoined := ((Lookup.key_inj hkind).mp h).2.2
  have hsame : res.lookup a = res.lookup c := Lookup.eq_of_joined rfl rfl rfl hjoined
  exact congrArg Lookup.action hsame

omit [PyRuntime] in
/-- An index-namespace increment moves no ACL key. -/
theorem aclKey_indexBump (s : VisibilityState) (l : Lookup) :
    aclKey (s.indexBump res).counters l = aclKey s.backend.counters l := by
  have hresource : aclNamespaceKey l.tenantId l.resourceType l.resourceId ≠
      indexNamespaceKey res.tenantId res.resourceType res.resourceId :=
    cacheKey_ne (by decide) (by decide) (by decide)
  have hglobal : aclGlobalKey ≠ indexNamespaceKey res.tenantId res.resourceType res.resourceId :=
    cacheKey_ne (by decide) (by decide) (by decide)
  unfold aclKey aclNamespace indexBump indexCacheInvalidate
  rw [Backend.counters_incr_ne _ hresource, Backend.counters_incr_ne _ hglobal]

/-! ## The invariant -/

/-- What a late call holds is what the table holds. -/
def PcFresh (res : ResourceKey) (s : VisibilityState) : ReaderPc → Prop
  | .tableRead a rows | .rowsReady a rows => rows = s.acl.findMatchingAcl (res.lookup a)
  | .built a entries | .indexStored a entries | .returned a entries => s.Fresh res a entries
  | _ => True

/-- Past an increment, what is stored under the current namespace is what the
table holds, and so is what a late call has read. -/
structure Settled (res : ResourceKey) (s : VisibilityState) : Prop where
  aclDoc : s.writer ∈ [.aclBumped, .indexBumped, .done] → ∀ a v,
    s.backend.get (aclKey s.backend.counters (res.lookup a)) = some v →
      v = encodeAcl (s.acl.findMatchingAcl (res.lookup a))
  indexDoc : s.writer ∈ [.indexBumped, .done] → ∀ a v,
    s.backend.get (indexKey s.backend.counters (res.lookup a)) = some v →
      ∃ entries, v = encodeIndex entries ∧ s.Fresh res a entries
  late : ∀ r, (s.readers r).late = true → s.writer = .done ∧ PcFresh res s (s.readers r).pc

omit [PyRuntime] in
theorem settled_initial (acl : AclTable) (backend : Backend) (memos : Nat → Memo) :
    Settled res (initial acl backend memos) where
  aclDoc h := by simp [initial] at h
  indexDoc h := by simp [initial] at h
  late r h := by simp [initial] at h

variable {s : VisibilityState}

omit [PyRuntime] in
/-- Moving a reader keeps the invariant when a late one moves to what is fresh. -/
theorem Settled.setPc (h : Settled res s) {r : Nat} {pc : ReaderPc}
    (hpc : (s.readers r).late = true → PcFresh res s pc) : Settled res (s.setPc r pc) where
  aclDoc := h.aclDoc
  indexDoc := h.indexDoc
  late k hlate := by
    by_cases hk : k = r
    · subst hk
      rw [setPc_self] at hlate ⊢
      exact ⟨(h.late k hlate).1, hpc hlate⟩
    · rw [setPc_other s pc hk] at hlate ⊢
      exact h.late k hlate

omit [PyRuntime] in
theorem Settled.withMemos (h : Settled res s) (memos : Nat → Memo) :
    Settled res { s with memos := memos } := ⟨h.aclDoc, h.indexDoc, h.late⟩

omit [PyRuntime] in
/-- Storing ACL rows the table holds. -/
theorem Settled.aclSet (h : Settled res s) {a : String} {rows : List ACLRecord}
    (hrows : s.writer ∈ [.aclBumped, .indexBumped, .done] →
      rows = s.acl.findMatchingAcl (res.lookup a)) :
    Settled res { s with backend := aclCacheSet s.backend (res.lookup a) rows } where
  aclDoc hw c v hv := by
    simp only [counters_aclCacheSet] at hv
    by_cases hkey : aclKey s.backend.counters (res.lookup c) =
        aclKey s.backend.counters (res.lookup a)
    · have hca : c = a := lookup_key_inj (by decide) hkey
      rw [hkey, get_aclCacheSet_self] at hv
      rw [← Option.some.inj hv, hrows hw, hca]
    · rw [get_aclCacheSet_ne _ _ hkey] at hv
      exact h.aclDoc hw c v hv
  indexDoc hw c v hv := by
    simp only [counters_aclCacheSet] at hv
    rw [get_aclCacheSet_ne _ _ (aclKey_ne_indexKey _ _ _ _).symm] at hv
    exact h.indexDoc hw c v hv
  late := h.late

omit [PyRuntime] in
/-- Storing index entries the table holds. -/
theorem Settled.indexSet (h : Settled res s) {a : String} {entries : List AccessIndexEntry}
    (hentries : s.writer ∈ [.indexBumped, .done] → s.Fresh res a entries) :
    Settled res { s with backend := indexCacheSet s.backend (res.lookup a) entries } where
  aclDoc hw c v hv := by
    simp only [counters_indexCacheSet] at hv
    rw [get_indexCacheSet_ne _ _ (aclKey_ne_indexKey _ _ _ _)] at hv
    exact h.aclDoc hw c v hv
  indexDoc hw c v hv := by
    simp only [counters_indexCacheSet] at hv
    by_cases hkey : indexKey s.backend.counters (res.lookup c) =
        indexKey s.backend.counters (res.lookup a)
    · have hca : c = a := lookup_key_inj (by decide) hkey
      rw [hkey, get_indexCacheSet_self] at hv
      exact ⟨entries, (Option.some.inj hv).symm, hca ▸ hentries hw⟩
    · rw [get_indexCacheSet_ne _ _ hkey] at hv
      exact h.indexDoc hw c v hv
  late := h.late

/-! ## One step -/

/-- The write is done when a late reader moves, so what it reads from the caches is fresh. -/
theorem Settled.readAcl (h : Settled res s) {r : Nat} {a : String} {rows : List ACLRecord}
    (hlate : (s.readers r).late = true)
    (hget : aclCacheGet s.backend (res.lookup a) = .ok (some rows)) :
    rows = s.acl.findMatchingAcl (res.lookup a) := by
  have hdone := (h.late r hlate).1
  cases hdoc : s.backend.get (aclKey s.backend.counters (res.lookup a)) with
  | none =>
      rw [aclCacheGet_of_none hdoc] at hget
      cases hget
  | some v =>
      have hv := h.aclDoc (by simp [hdone]) a v hdoc
      subst hv
      rw [aclCacheGet_of_doc hdoc] at hget
      exact (Option.some.inj (Except.ok.inj hget)).symm

theorem Settled.readIndex (h : Settled res s) {r : Nat} {a : String}
    {entries : List AccessIndexEntry} (hlate : (s.readers r).late = true)
    (hget : indexCacheGet s.backend (res.lookup a) = .ok (some entries)) :
    s.Fresh res a entries := by
  have hdone := (h.late r hlate).1
  cases hdoc : s.backend.get (indexKey s.backend.counters (res.lookup a)) with
  | none =>
      rw [indexCacheGet_of_none hdoc] at hget
      cases hget
  | some v =>
      have ⟨stored, hv, hfresh⟩ := h.indexDoc (by simp [hdone]) a v hdoc
      subst hv
      rw [indexCacheGet_of_doc hdoc] at hget
      rw [← Option.some.inj (Except.ok.inj hget)]
      exact hfresh

/-- A step of a reader. -/
theorem Settled.advance (h : Settled res s) {r : Nat} (hok : s.OnTime res (.advance r)) :
    Settled res (s.advance relationships res r) := by
  unfold VisibilityState.advance
  unfold OnTime at hok
  have hlate := fun hl => (h.late r hl).2
  cases hpc : (s.readers r).pc with
  | idle => exact h
  | returned a entries => exact h
  | failed => exact h
  | started a =>
      cases hget : indexCacheGet s.backend (res.lookup a) with
      | error e =>
          simp only [hget]
          exact h.setPc fun _ => trivial
      | ok cached =>
          cases cached with
          | none =>
              simp only [hget]
              exact h.setPc fun _ => trivial
          | some entries =>
              simp only [hget]
              -- a hit: the document is the one a late reader must see
              exact h.setPc fun hl => h.readIndex hl hget
  | indexMissed a =>
      simp only [hpc] at hok ⊢
      cases hmemo : s.memos (s.readers r).indexer (res.lookup a) with
      | none => exact h.setPc fun _ => trivial
      | some entries => exact h.setPc fun hl => hok hl entries hmemo
  -- the memo survives the invalidation; on time says that it holds the rows
  | rebuilding a =>
      cases hget : aclCacheGet s.backend (res.lookup a) with
      | error e =>
          simp only [hget]
          exact h.setPc fun _ => trivial
      | ok cached =>
          cases cached with
          | none =>
              simp only [hget]
              exact h.setPc fun _ => trivial
          | some rows =>
              simp only [hget]
              exact h.setPc fun hl => h.readAcl hl hget
  | aclMissed a => exact h.setPc fun _ => rfl
  | tableRead a rows =>
      simp only [hpc] at hok hlate
      -- storing is where an earlier reader could undo the invalidation
      exact (h.aclSet hok).setPc hlate
  | rowsReady a rows =>
      simp only [hpc] at hlate
      refine h.setPc fun hl => ?_
      show aclPart (indexEntries _ _ _) = _
      rw [aclPart_indexEntries, hlate hl]
  | built a entries =>
      simp only [hpc] at hok hlate
      exact (h.indexSet hok).setPc hlate
  | indexStored a entries =>
      simp only [hpc] at hlate
      exact (h.withMemos _).setPc hlate

omit [PyRuntime] in
/-- A step of the write. -/
theorem Settled.advanceWrite (h : Settled res s) (hok : s.OnTime res .write) :
    Settled res (s.advanceWrite res write writerIndexer) := by
  -- until the write is done there is no late reader
  have hnone : s.writer ≠ .done → ∀ r, (s.readers r).late ≠ true :=
    fun hw r hl => hw (h.late r hl).1
  unfold VisibilityState.advanceWrite
  unfold OnTime at hok
  cases hw : s.writer with
  | idle =>
      have hlate := hnone (by simp [hw])
      dsimp only
      split
      · exact ⟨fun hin => by simp at hin, fun hin => by simp at hin,
          fun r hl => absurd hl (hlate r)⟩
      · exact h
  | committed =>
      refine ⟨fun _ a v hv => ?_, fun hin => by simp at hin,
        fun r hl => absurd hl (hnone (by simp [hw]) r)⟩
      have hempty := hok.1 hw a
      exact absurd ((show (s.aclBump res).get _ = _ from hempty).symm.trans hv) (by simp)
  | aclBumped =>
      refine ⟨fun _ a v hv => ?_, fun _ a v hv => ?_,
        fun r hl => absurd hl (hnone (by simp [hw]) r)⟩
      · have hkey : s.backend.get (aclKey s.backend.counters (res.lookup a)) = some v := by
          rw [← aclKey_indexBump]
          exact hv
        exact h.aclDoc (by simp [hw]) a v hkey
      · have hempty := hok.2 hw a
        exact absurd ((show (s.indexBump res).get _ = _ from hempty).symm.trans hv) (by simp)
  | indexBumped =>
      exact ⟨fun _ => h.aclDoc (by simp [hw]), fun _ => h.indexDoc (by simp [hw]),
        fun r hl => absurd hl (hnone (by simp [hw]) r)⟩
  | done => exact h

/-- Every step that is on time keeps the invariant. -/
theorem settled_step (s : VisibilityState) (e : VisibilityEvent) (h : Settled res s)
    (hok : s.OnTime res e) :
    Settled res (s.step relationships res write writerIndexer e) := by
  cases e with
  | call r i a =>
      simp only [VisibilityState.step]
      split
      · refine ⟨h.aclDoc, h.indexDoc, fun k hl => ?_⟩
        by_cases hk : k = r
        · subst hk
          simp only [setReader, if_pos, decide_eq_true_eq] at hl ⊢
          exact ⟨hl, trivial⟩
        · simp only [setReader, if_neg hk] at hl ⊢
          exact h.late k hl
      · exact h
  | refresh r i a =>
      simp only [VisibilityState.step]
      split
      · refine ⟨h.aclDoc, h.indexDoc, fun k hl => ?_⟩
        by_cases hk : k = r
        · -- a refresh is never late: it reads nothing for a request
          simp [setReader, hk] at hl
        · simp only [setReader, if_neg hk] at hl ⊢
          exact h.late k hl
      · exact h
  | advance r => exact h.advance hok
  | write => exact h.advanceWrite hok
  | expire key =>
      have hget : ∀ k v, (s.backend.delete key).get k = some v → s.backend.get k = some v := by
        intro k v hv
        -- a document that is gone says nothing
        by_cases hk : k = key
        · rw [hk, Backend.get_delete_self] at hv
          cases hv
        · rwa [Backend.get_delete_ne _ hk] at hv
      exact ⟨fun hw a v hv => h.aclDoc hw a v (hget _ v hv),
        fun hw a v hv => h.indexDoc hw a v (hget _ v hv), h.late⟩
  | forget i l => exact ⟨h.aclDoc, h.indexDoc, h.late⟩

omit [PyRuntime] in
theorem Settled.visible (h : Settled res s) : s.Visible res := by
  intro r a entries hlate hpc
  have hfresh := (h.late r hlate).2
  rw [hpc] at hfresh
  exact hfresh

variable (relationships res write writerIndexer)

/-- From any table, any caches and any memos: in every run whose steps are on time,
every call that began after the write had finished returns exactly the rows of
the table. -/
theorem write_visible_of_on_time (acl : AclTable) (backend : Backend) (memos : Nat → Memo)
    (events : List VisibilityEvent)
    (hok : Lib.Along (VisibilityState.step relationships res write writerIndexer)
      (fun s e => s.OnTime res e) (initial acl backend memos) events) :
    (Lib.run (VisibilityState.step relationships res write writerIndexer)
      (initial acl backend memos) events).Visible res :=
  (Lib.run_invariant settled_step (settled_initial acl backend memos) hok).visible

end System

/-! ## Concrete runs -/

section Concrete

attribute [local instance] plainRuntime

attribute [local semireducible] cacheKey

/-- The document `doc:1` of tenant 1. -/
def docOneKey : ResourceKey := ⟨1, "doc", "1"⟩

/-- User 7 is allowed to read it. -/
def allowSeven : AclDraft := ⟨"user", "7", "doc", "1", "read", "allow", none⟩

def emptyAcl : AclTable := ⟨[], List.nodup_nil⟩

/-- The system in which the row is created, with cold caches. -/
def createRun (events : List VisibilityEvent) : VisibilityState :=
  Lib.run (VisibilityState.step noRelationships docOneKey (.create allowSeven) 9)
    (VisibilityState.initial emptyAcl (.cold fun _ => none) fun _ _ => none) events

/-- A rebuild that reads the table just after the commit, and then a call. -/
def punctualEvents : List VisibilityEvent :=
  [.call 0 0 "read", .advance 0, .advance 0, .advance 0, .write, .advance 0, .write, .write,
    .write, .advance 0, .advance 0, .advance 0, .advance 0, .call 1 1 "read", .advance 1]

/-- The later call sees the row. -/
theorem punctual_call_sees_row : (createRun punctualEvents).Visible docOneKey := by
  refine write_visible_of_on_time noRelationships docOneKey (.create allowSeven) 9 emptyAcl
    (.cold fun _ => none) (fun _ _ => none) punctualEvents ?_
  refine ⟨trivial, trivial, ?_, trivial, ?_, trivial, ?_, ?_, ?_, ?_, trivial, ?_, trivial,
    trivial, trivial, trivial⟩
  · intro hlate
    cases hlate
  · exact ⟨fun hw => (by cases hw), fun hw => (by cases hw)⟩
  · exact ⟨fun _ _ => rfl, fun hw => (by cases hw)⟩
  · exact ⟨fun hw => (by cases hw), fun _ _ => rfl⟩
  · exact ⟨fun hw => (by cases hw), fun hw => (by cases hw)⟩
  · intro _
    rfl
  · intro _
    rfl

/-- The same rebuild, overtaken by the whole write between its table read and its
first store. -/
def overtakenEvents : List VisibilityEvent :=
  [.call 0 0 "read", .advance 0, .advance 0, .advance 0, .advance 0, .write, .write, .write,
    .write, .advance 0, .advance 0, .advance 0, .advance 0, .call 1 1 "read", .advance 1]

/-- The table holds the row, the write has finished, and a call that began after
it returns no entry. -/
theorem late_store_hides_row :
    ((createRun overtakenEvents).readers 1).late = true ∧
      ((createRun overtakenEvents).readers 1).pc = .returned "read" [] ∧
      (createRun overtakenEvents).acl.findMatchingAcl (docOneKey.lookup "read") =
        [emptyAcl.newRow 1 allowSeven] ∧
      ¬ (createRun overtakenEvents).Visible docOneKey := by
  have hlate : ((createRun overtakenEvents).readers 1).late = true := by decide +kernel
  have hpc : ((createRun overtakenEvents).readers 1).pc = .returned "read" [] := by
    decide +kernel
  have hrows : (createRun overtakenEvents).acl.findMatchingAcl (docOneKey.lookup "read") =
      [emptyAcl.newRow 1 allowSeven] := by
    decide +kernel
  refine ⟨hlate, hpc, hrows, fun hvisible => ?_⟩
  have hfresh := hvisible 1 "read" [] hlate hpc
  unfold VisibilityState.Fresh at hfresh
  rw [hrows] at hfresh
  cases hfresh

end Concrete

end KeyNetra
