import KeyNetra.Cache.Adapters
import KeyNetra.Lib.Runs

/-!
# KeyNetra.Cache.IndexInvalidation — invalidating the access index

The index of a resource is kept under one namespace, read off three counters: its own, else
its tenant's, else the global one. An invalidation counts one of them up. A finer counter hides
the coarser ones, and counters of different levels reach the same values, so an invalidation
may leave a resource in a namespace its documents are already under.

* `IndexOp` / `IndexRun.step` — sequences of cache calls, with two histories: the namespace of
  each document set, and which lookups have been invalidated since they were set;
* `namespace_of_uncovered` — a namespace moves by the invalidations that cover it alone;
* `invalidation_effective_iff` — runs in which an invalidated lookup finds nothing.
-/

namespace KeyNetra

section Runs

variable [PyRuntime]

/-! ## Sequences of calls -/

/-- A call of `RedisBackedAccessIndexCache`. -/
inductive IndexOp where
  | get (l : Lookup)
  | set (l : Lookup) (entries : List AccessIndexEntry)
  | invalidate (tenantId : Int) (resourceType resourceId : String)
  | invalidateTenant (tenantId : Int)
  | invalidateGlobal

/-- A type and an id without a colon. -/
def PlainResource (resourceType resourceId : String) : Prop :=
  ':' ∉ resourceType.toList ∧ ':' ∉ resourceId.toList

/-- The lookup's resource has a type and an id without a colon. -/
def Lookup.Plain (l : Lookup) : Prop := PlainResource l.resourceType l.resourceId

/-- The call names no resource with a colon. -/
def IndexOp.Plain : IndexOp → Prop
  | .get l | .set l _ => l.Plain
  | .invalidate _ resourceType resourceId => PlainResource resourceType resourceId
  | .invalidateTenant _ | .invalidateGlobal => True

/-- The call invalidates the lookup's resource, its tenant, or everything. -/
def IndexOp.Covers (l : Lookup) : IndexOp → Prop
  | .get _ | .set _ _ => False
  | .invalidate tenantId resourceType resourceId =>
      tenantId = l.tenantId ∧ resourceType = l.resourceType ∧ resourceId = l.resourceId
  | .invalidateTenant tenantId => tenantId = l.tenantId
  | .invalidateGlobal => True

instance (l : Lookup) (op : IndexOp) : Decidable (op.Covers l) := by
  cases op <;> unfold IndexOp.Covers <;> infer_instance

/-- The backend after a call. -/
def IndexOp.apply (b : Backend) : IndexOp → Backend
  | .get _ => b
  | .set l entries => indexCacheSet b l entries
  | .invalidate tenantId resourceType resourceId =>
      indexCacheInvalidate b tenantId resourceType resourceId
  | .invalidateTenant tenantId => indexCacheInvalidateTenant b tenantId
  | .invalidateGlobal => indexCacheInvalidateGlobal b

/-- The backend, and what the calls so far have done to each lookup. -/
structure IndexRun where
  backend : Backend
  /-- The lookups set, each with its namespace at the time. -/
  history : List (Lookup × Nat)
  /-- The lookups covered by an invalidation and not set since. -/
  cleared : Lookup → Bool

/-- The namespace of a lookup. -/
def IndexRun.namespace (s : IndexRun) (l : Lookup) : Nat := indexNamespace s.backend.counters l

/-- One call. -/
def IndexRun.step (s : IndexRun) (op : IndexOp) : IndexRun where
  backend := op.apply s.backend
  history :=
    match op with
    | .set l _ => (l, s.namespace l) :: s.history
    | _ => s.history
  cleared l :=
    match op with
    | .set r _ => s.cleared l && l ≠ r
    | _ => s.cleared l || op.Covers l

/-- A cache without documents, under any counters. -/
def IndexRun.start (counters : String → Option Nat) : IndexRun := ⟨.cold counters, [], fun _ => false⟩

/-- After the call, whatever has been invalidated and not set since is not served. -/
def IndexRun.ServesNoCleared (s : IndexRun) (op : IndexOp) : Prop :=
  ∀ l : Lookup, l.Plain → (s.step op).cleared l = true →
    indexCacheGet (s.step op).backend l = .ok none

/-- The call moves what it invalidates to a namespace it has not been set under. -/
def IndexRun.MovesOn (s : IndexRun) (op : IndexOp) : Prop :=
  ∀ l : Lookup, l.Plain → op.Covers l → (l, (s.step op).namespace l) ∉ s.history

/-! ## Namespaces -/

omit [PyRuntime] in
theorem namespaceKey_inj {t t' : Int} {rt rt' ri ri' : String} (h : PlainResource rt ri)
    (h' : PlainResource rt' ri') :
    indexNamespaceKey t rt ri = indexNamespaceKey t' rt' ri' ↔ t = t' ∧ rt = rt' ∧ ri = ri' := by
  unfold indexNamespaceKey
  rw [cacheKey_cons_left, cacheKey_cons_inj (Lib.colon_notMem_intRepr _)
    (Lib.colon_notMem_intRepr _), cacheKey_cons_inj h.1 h'.1, cacheKey_single, cacheKey_single,
    Lib.toString_int_inj]

omit [PyRuntime] in
/-- A field is no join of two. -/
theorem cacheKey_pair_ne {a x y : String} (ha : ':' ∉ a.toList) : cacheKey [x, y] ≠ a := by
  intro h
  apply ha
  rw [← h]
  unfold cacheKey
  simp [String.intercalate_cons_cons]

omit [PyRuntime] in
theorem tenantKey_ne_namespaceKey (t t' : Int) (rt ri : String) :
    indexTenantKey t ≠ indexNamespaceKey t' rt ri := by
  unfold indexTenantKey indexNamespaceKey
  intro h
  rw [cacheKey_cons_left, cacheKey_cons_inj (Lib.colon_notMem_intRepr _)
    (Lib.colon_notMem_intRepr _), cacheKey_single] at h
  exact cacheKey_pair_ne (by decide : ':' ∉ "tenant".toList) h.2.symm

omit [PyRuntime] in
theorem globalKey_ne_namespaceKey (t : Int) (rt ri : String) :
    indexGlobalKey ≠ indexNamespaceKey t rt ri := by
  unfold indexGlobalKey indexNamespaceKey
  intro h
  rw [cacheKey_cons_left, cacheKey_single] at h
  have hcolon : ':' ∈ (cacheKey [toString t, rt, ri]).toList := by
    unfold cacheKey
    simp [String.intercalate_cons_cons]
  rw [← h] at hcolon
  exact absurd hcolon (by decide)

omit [PyRuntime] in
theorem tenantKey_inj {t t' : Int} : indexTenantKey t = indexTenantKey t' ↔ t = t' := by
  unfold indexTenantKey
  rw [cacheKey_cons_left, cacheKey_cons_inj (Lib.colon_notMem_intRepr _)
    (Lib.colon_notMem_intRepr _), Lib.toString_int_inj]
  exact and_iff_left rfl

omit [PyRuntime] in
theorem globalKey_ne_tenantKey (t : Int) : indexGlobalKey ≠ indexTenantKey t := by
  unfold indexGlobalKey indexTenantKey
  intro h
  rw [cacheKey_cons_left, cacheKey_single] at h
  exact cacheKey_pair_ne (by decide : ':' ∉ "global".toList) h.symm

omit [PyRuntime] in
/-- A counter none of the three levels of a lookup reads leaves its namespace alone. -/
theorem indexNamespace_incr_ne {b : Backend} {key : String} {l : Lookup}
    (hresource : indexNamespaceKey l.tenantId l.resourceType l.resourceId ≠ key)
    (htenant : indexTenantKey l.tenantId ≠ key) (hglobal : indexGlobalKey ≠ key) :
    indexNamespace (b.incr key).counters l = indexNamespace b.counters l := by
  unfold indexNamespace
  rw [Backend.counters_incr_ne b hresource, Backend.counters_incr_ne b htenant,
    Backend.counters_incr_ne b hglobal]

omit [PyRuntime] in
/-- A namespace moves by the invalidations that cover it alone. -/
theorem namespace_of_uncovered {s : IndexRun} {op : IndexOp} (hop : op.Plain) {l : Lookup}
    (hl : l.Plain) (h : ¬ op.Covers l) : (s.step op).namespace l = s.namespace l := by
  cases op with
  | get r => rfl
  | set r entries => rfl
  | invalidate t rt ri =>
      apply indexNamespace_incr_ne
      · intro heq
        rcases (namespaceKey_inj hl hop).mp heq with ⟨ht, hrt, hri⟩
        exact h ⟨ht.symm, hrt.symm, hri.symm⟩
      · exact tenantKey_ne_namespaceKey _ _ _ _
      · exact globalKey_ne_namespaceKey _ _ _
  | invalidateTenant t =>
      apply indexNamespace_incr_ne
      · exact (tenantKey_ne_namespaceKey _ _ _ _).symm
      · intro heq
        exact h (tenantKey_inj.mp heq).symm
      · exact globalKey_ne_tenantKey _
  | invalidateGlobal => exact absurd trivial h

omit [PyRuntime] in
/-- The counter of a resource hides those of its tenant. -/
theorem namespace_hidden {s : IndexRun} {l : Lookup} {n : Nat}
    (h : s.backend.counters (indexNamespaceKey l.tenantId l.resourceType l.resourceId) = some n)
    (tenantId : Int) : (s.step (.invalidateTenant tenantId)).namespace l = s.namespace l := by
  have hne := (tenantKey_ne_namespaceKey tenantId l.tenantId l.resourceType l.resourceId).symm
  show indexNamespace (s.backend.incr (indexTenantKey tenantId)).counters l =
    indexNamespace s.backend.counters l
  unfold indexNamespace
  rw [Backend.counters_incr_ne s.backend hne, h]
  rfl

/-! ## Documents -/

omit [PyRuntime] in
/-- The document key of a plain lookup tells it. -/
theorem plainKey_inj {l r : Lookup} (hl : l.Plain) (hr : r.Plain) {m n : Nat} :
    l.key "idx" m = r.key "idx" n ↔ l = r ∧ m = n := by
  constructor
  · intro h
    rcases (Lookup.key_inj (by decide)).mp h with ⟨htenant, hns, hjoined⟩
    refine ⟨?_, hns⟩
    have hfields := hjoined
    unfold Lookup.joined at hfields
    rw [cacheKey_cons_inj hl.1 hr.1, cacheKey_cons_inj hl.2 hr.2] at hfields
    exact Lookup.eq_of_joined htenant hfields.1 hfields.2.1 hjoined
  · rintro ⟨rfl, rfl⟩
    rfl

/-- The documents are those of the history, and what is cleared is in none of its namespaces. -/
structure IndexRun.Recorded (s : IndexRun) : Prop where
  stored : ∀ l : Lookup, l.Plain → ∀ n, (l, n) ∈ s.history →
    ∃ entries, s.backend.get (l.key "idx" n) = some (encodeIndex entries)
  absent : ∀ l : Lookup, l.Plain → ∀ n, (l, n) ∉ s.history → s.backend.get (l.key "idx" n) = none
  cleared : ∀ l : Lookup, l.Plain → s.cleared l = true → (l, s.namespace l) ∉ s.history

omit [PyRuntime] in
theorem recorded_start (counters : String → Option Nat) : (IndexRun.start counters).Recorded := by
  refine ⟨?_, ?_, ?_⟩
  · intro l _ n h
    cases h
  · intro l _ n _
    rfl
  · intro l _ h
    cases h

/-- A lookup that may be served is one whose namespace is in its history. -/
theorem IndexRun.Recorded.get {s : IndexRun} (h : s.Recorded) {l : Lookup} (hl : l.Plain) :
    indexCacheGet s.backend l = .ok none ↔ (l, s.namespace l) ∉ s.history := by
  constructor
  · intro hget hmem
    rcases h.stored l hl _ hmem with ⟨entries, hdoc⟩
    rw [indexCacheGet_of_doc hdoc] at hget
    cases hget
  · intro hmem
    exact indexCacheGet_of_none (h.absent l hl _ hmem)

omit [PyRuntime] in
/-- A call other than a set leaves documents and history alone. -/
theorem step_of_not_set {s : IndexRun} {op : IndexOp} (h : ∀ l entries, op ≠ .set l entries) :
    (s.step op).history = s.history ∧ (∀ key, (s.step op).backend.get key = s.backend.get key) ∧
      ∀ l, (s.step op).cleared l = (s.cleared l || decide (op.Covers l)) := by
  cases op with
  | get l => exact ⟨rfl, fun _ => rfl, fun _ => rfl⟩
  | set l entries => exact absurd rfl (h l entries)
  | invalidate t rt ri => exact ⟨rfl, fun _ => rfl, fun _ => rfl⟩
  | invalidateTenant t => exact ⟨rfl, fun _ => rfl, fun _ => rfl⟩
  | invalidateGlobal => exact ⟨rfl, fun _ => rfl, fun _ => rfl⟩

omit [PyRuntime] in
/-- A set records the lookup under its namespace. -/
theorem recorded_set {s : IndexRun} (h : s.Recorded) {r : Lookup} (hr : r.Plain)
    (entries : List AccessIndexEntry) : (s.step (.set r entries)).Recorded := by
  -- the keys of other lookups, and of other namespaces, are not written
  have hkey : ∀ (l : Lookup) (n : Nat), l.Plain → (l, n) ≠ (r, s.namespace r) →
      (s.step (.set r entries)).backend.get (l.key "idx" n) = s.backend.get (l.key "idx" n) := by
    intro l n hl hne
    apply get_indexCacheSet_ne
    intro heq
    rcases (plainKey_inj hl hr).mp heq with ⟨rfl, rfl⟩
    exact hne rfl
  refine ⟨?_, ?_, ?_⟩
  · -- stored: the new document under the namespace it is set in
    intro l hl n hmem
    by_cases hsame : (l, n) = (r, s.namespace r)
    · cases hsame
      exact ⟨entries, get_indexCacheSet_self s.backend r entries⟩
    · rcases List.mem_cons.mp hmem with heq | hmem
      · exact absurd heq hsame
      · rw [hkey l n hl hsame]
        exact h.stored l hl n hmem
  · -- absent: nothing else is written
    intro l hl n hmem
    rw [hkey l n hl fun heq => hmem (heq ▸ List.mem_cons_self)]
    exact h.absent l hl n fun hold => hmem (List.mem_cons_of_mem _ hold)
  · -- cleared: what is set is no longer cleared
    intro l hl hcleared hmem
    have hboth : (s.cleared l && decide (l ≠ r)) = true := hcleared
    rw [Bool.and_eq_true, decide_eq_true_eq] at hboth
    rcases List.mem_cons.mp hmem with heq | hmem
    · exact hboth.2 (Prod.mk.inj heq).1
    · exact h.cleared l hl hboth.1 hmem

omit [PyRuntime] in
/-- A call that moves on what it invalidates keeps the record. -/
theorem recorded_step {s : IndexRun} {op : IndexOp} (h : s.Recorded) (hop : op.Plain)
    (hmoves : s.MovesOn op) : (s.step op).Recorded := by
  by_cases hset : ∃ l entries, op = .set l entries
  · rcases hset with ⟨l, entries, rfl⟩
    exact recorded_set h hop entries
  · rcases step_of_not_set fun l entries heq => hset ⟨l, entries, heq⟩ with ⟨hhistory, hdocs, hcleared⟩
    refine ⟨?_, ?_, ?_⟩
    · intro l hl n hmem
      rw [hhistory] at hmem
      rw [hdocs]
      exact h.stored l hl n hmem
    · intro l hl n hmem
      rw [hhistory] at hmem
      rw [hdocs]
      exact h.absent l hl n hmem
    · intro l hl hc
      rw [hhistory]
      by_cases hcovers : op.Covers l
      · exact hmoves l hl hcovers
      · -- the namespace stays, and the lookup was cleared before
        rw [namespace_of_uncovered hop hl hcovers]
        rw [hcleared, decide_eq_false hcovers, Bool.or_false] at hc
        exact h.cleared l hl hc

/-- After a call nothing cleared is served exactly when it moves on what it invalidates. -/
theorem servesNoCleared_iff {s : IndexRun} {op : IndexOp} (h : s.Recorded) (hop : op.Plain) :
    s.ServesNoCleared op ↔ s.MovesOn op := by
  constructor
  · intro hserves l hl hcovers
    have hset : ∀ r entries, op ≠ .set r entries := by
      rintro r entries rfl
      exact hcovers
    rcases step_of_not_set hset with ⟨hhistory, hdocs, hcleared⟩
    have hc : (s.step op).cleared l = true := by
      rw [hcleared, decide_eq_true hcovers, Bool.or_true]
    have hget := hserves l hl hc
    intro hmem
    rcases h.stored l hl _ hmem with ⟨entries, hdoc⟩
    rw [← hdocs] at hdoc
    rw [indexCacheGet_of_doc hdoc] at hget
    cases hget
  · intro hmoves l hl hcleared
    have hrecorded := recorded_step h hop hmoves
    exact (hrecorded.get hl).mpr (hrecorded.cleared l hl hcleared)

/-- In a run from an empty cache, over resources without colons, what has been invalidated and
not set since is never served, exactly when every invalidation moves the lookups it covers to a
namespace they have not been set under. -/
theorem invalidation_effective_iff (counters : String → Option Nat) {ops : List IndexOp}
    (hplain : ∀ op ∈ ops, op.Plain) :
    Lib.Along IndexRun.step IndexRun.ServesNoCleared (.start counters) ops ↔
      Lib.Along IndexRun.step IndexRun.MovesOn (.start counters) ops := by
  have hlabels : Lib.Along IndexRun.step (fun _ op => op.Plain) (.start counters) ops :=
    Lib.along_of_forall hplain
  -- step by step, with what the history records
  have hboth : Lib.Along IndexRun.step (fun s op => s.ServesNoCleared op ∧ op.Plain)
        (.start counters) ops ↔
      Lib.Along IndexRun.step (fun s op => s.MovesOn op ∧ op.Plain) (.start counters) ops := by
    apply Lib.along_iff _ _ (recorded_start counters)
    · intro s op hs hop
      exact recorded_step hs hop.2 hop.1
    · intro s op hs
      constructor
      · rintro ⟨hserves, hop⟩
        exact ⟨(servesNoCleared_iff hs hop).mp hserves, hop⟩
      · rintro ⟨hmoves, hop⟩
        exact ⟨(servesNoCleared_iff hs hop).mpr hmoves, hop⟩
  rw [Lib.along_and, Lib.along_and] at hboth
  constructor
  · intro hserves
    exact (hboth.mp ⟨hserves, hlabels⟩).1
  · intro hmoves
    exact (hboth.mpr ⟨hmoves, hlabels⟩).1

/-- A resource with a counter of its own is served after its tenant has been invalidated. -/
theorem hidden_is_served {s : IndexRun} {l : Lookup} (hl : l.Plain) {n : Nat}
    (hcounter : s.backend.counters (indexNamespaceKey l.tenantId l.resourceType l.resourceId) =
      some n)
    {entries : List AccessIndexEntry}
    (hdoc : s.backend.get (indexKey s.backend.counters l) = some (encodeIndex entries)) :
    ¬ s.ServesNoCleared (.invalidateTenant l.tenantId) := by
  intro h
  have hcleared : (s.step (.invalidateTenant l.tenantId)).cleared l = true := by
    show (s.cleared l || decide (l.tenantId = l.tenantId)) = true
    rw [decide_eq_true rfl, Bool.or_true]
  have hkey : indexKey (s.step (.invalidateTenant l.tenantId)).backend.counters l =
      indexKey s.backend.counters l := by
    have hns : indexNamespace (s.step (.invalidateTenant l.tenantId)).backend.counters l =
        indexNamespace s.backend.counters l := namespace_hidden hcounter l.tenantId
    unfold indexKey
    rw [hns]
  have hget := h l hl hcleared
  rw [indexCacheGet_of_doc (by rw [hkey]; exact hdoc)] at hget
  cases hget

end Runs

/-! ## A concrete run -/

section Concrete

attribute [local instance] plainRuntime

/-- Reading document 42 of tenant 1. -/
def readDocument : Lookup := ⟨1, "document", "42", "read"⟩

/-- A document is set, its tenant invalidated, and the resource read: it is not served. -/
theorem tenant_invalidation_effective :
    Lib.Along IndexRun.step IndexRun.ServesNoCleared (.start fun _ => none)
      [.set readDocument [], .invalidateTenant 1, .get readDocument] := by
  apply (invalidation_effective_iff _ ?_).mpr
  · refine ⟨fun _ _ hcovers => hcovers.elim, ?_, fun _ _ hcovers => hcovers.elim, trivial⟩
    -- the document was set under namespace 0, and the tenant's counter is now 1
    intro l _ _ hmem
    rcases Prod.ext_iff.mp (List.mem_singleton.mp hmem) with ⟨hlookup, hnamespace⟩
    have hread : l = readDocument := hlookup
    rw [hread] at hnamespace
    exact absurd hnamespace (by decide +kernel)
  · intro op hop
    have hops : op = .set readDocument [] ∨ op = .invalidateTenant 1 ∨ op = .get readDocument := by
      simpa using hop
    rcases hops with rfl | rfl | rfl
    · exact ⟨by decide, by decide⟩
    · trivial
    · exact ⟨by decide, by decide⟩

/-- The resource is invalidated, set, and its tenant invalidated: it is still served. -/
theorem tenant_invalidation_hidden :
    ¬ Lib.Along IndexRun.step IndexRun.ServesNoCleared (.start fun _ => none)
      ([.invalidate 1 "document" "42", .set readDocument []] ++ [.invalidateTenant 1]) := by
  apply Lib.not_along_of_last
  apply hidden_is_served (l := readDocument) ⟨by decide, by decide⟩
  · exact Backend.counters_incr_self _ _
  · exact get_indexCacheSet_self _ _ _

end Concrete

end KeyNetra
