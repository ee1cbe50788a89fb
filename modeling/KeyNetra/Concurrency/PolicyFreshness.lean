import KeyNetra.Services.PolicyWrites

/-!
# KeyNetra.Concurrency.PolicyFreshness — policy writes against concurrent requests

The policy writes of a tenant run one at a time, each in the order of
`PolicyService`: commit, version, policy namespace, decision namespace, revision.
Any number of requests that bypass the decision cache interleave with them: read the
tenant, read the policy cache, list the current rows, store them under the key of
that moment. Policy documents never expire. What else a request does touches neither
the tenant's row nor a policy document.

* `PolicyRunState.step` — the interleaved system;
* `call_alone` — the steps of a request that nothing interrupts are `buildEngine`;
* `Inv` — the rows in a document are of a commit at least as late as the one its
  version was bumped for;
* `late_calls_see_writes` — in every run, a request begun after a write has completed
  builds its engine from rows listed after that write's commit.

The version of a key is read before the rows and bumped after the commit, so rows
stored late go under an old version, which no later request reads.
-/

namespace KeyNetra

/-! ## The system -/

/-- Where a request stands, up to its engine. `commit` is the number of commits made
when the rows were listed. -/
inductive PolicyPc where
  | idle
  | started
  | tenantRead (tenant : TenantRecord)
  | missed (tenant : TenantRecord)
  | listed (tenant : TenantRecord) (rows : List PolicyRecord) (commit : Nat)
  | built (cached : Bool) (rows : List PolicyRecord) (commit : Nat)

/-- A request. `after` is the number of the last commit whose write had completed when
it began. -/
structure PolicyCall where
  after : Nat
  pc : PolicyPc

/-- Where the writer stands. -/
inductive PolicyWriterPc where
  | idle
  | committed
  | versionBumped
  | invalidated
  | decisionsBumped
deriving DecidableEq

/-- The world, the requests and the writer; the stores committed so far, the commit
each document was listed at, and the last commit whose write has completed. No step
depends on the last three. -/
structure PolicyRunState where
  world : World
  calls : Nat → PolicyCall
  writer : PolicyWriterPc
  history : List PolicyStore
  listedAt : String → Nat
  done : Nat

/-- The moves: a request begins or advances, a write begins or advances, the policy
subscriber of some process invalidates, a document is evicted. -/
inductive PolicyEvent where
  | call (i : Nat)
  | advance (i : Nat)
  | write (change : PolicyWrite)
  | advanceWrite
  | subscriber
  | evict (key : String)

namespace PolicyRunState

/-- Move one request. -/
def setPc (s : PolicyRunState) (i : Nat) (pc : PolicyPc) : PolicyRunState :=
  { s with calls := Function.update s.calls i { s.calls i with pc := pc } }

/-- Replace the world. -/
def withWorld (s : PolicyRunState) (w : World) : PolicyRunState := { s with world := w }

/-- The key a tenant's policies are stored under now. -/
def policyKey (s : PolicyRunState) (tenant : TenantRecord) : String :=
  policyCacheKey s.world.backend.counters tenant.tenantKey tenant.policyVersion

/-- Store listed rows. -/
def store (s : PolicyRunState) (tenant : TenantRecord) (rows : List PolicyRecord)
    (commit : Nat) : PolicyRunState :=
  { s with
    world := s.world.withBackend
      (policyCacheSet s.world.backend tenant.tenantKey tenant.policyVersion rows)
    listedAt := Function.update s.listedAt (s.policyKey tenant) commit }

/-- The commit of a write. -/
def commit (s : PolicyRunState) (policies : PolicyStore) : PolicyRunState :=
  { s with
    world := s.world.withPolicies policies
    history := s.history ++ [policies]
    writer := .committed }

section System

variable [PyRuntime] (tenantKey : String)

/-- The next step of a request. -/
def advance (s : PolicyRunState) (i : Nat) : PolicyRunState :=
  match (s.calls i).pc with
  | .started =>
      (s.withWorld (s.world.ensureTenant tenantKey)).setPc i
        (.tenantRead (s.world.tenant tenantKey))
  | .tenantRead tenant =>
      match cachedPolicies s.world tenant "active" with
      | some rows => s.setPc i (.built true rows (s.listedAt (s.policyKey tenant)))
      | none => s.setPc i (.missed tenant)
  | .missed tenant =>
      s.setPc i (.listed tenant (s.world.db.policies.listCurrentPolicies tenant.id "active")
        s.history.length)
  | .listed tenant rows commit =>
      -- without rows the engine is that of the settings, and nothing is stored
      if rows.isEmpty then s.setPc i (.built false rows commit)
      else (s.store tenant rows commit).setPc i (.built false rows commit)
  | .idle | .built .. => s

/-- The next step of the write in progress. -/
def advanceWrite (s : PolicyRunState) : PolicyRunState :=
  match s.writer with
  | .idle => s
  | .committed =>
      { s with world := s.world.bumpPolicyVersion tenantKey, writer := .versionBumped }
  | .versionBumped =>
      { s with world := s.world.invalidatePolicies tenantKey, writer := .invalidated }
  | .invalidated =>
      { s with world := s.world.bumpDecisions tenantKey, writer := .decisionsBumped }
  | .decisionsBumped =>
      { s with
        world := s.world.bumpRevision tenantKey
        writer := .idle
        done := s.history.length }

/-- One move; a move that is not enabled changes nothing. -/
def step (s : PolicyRunState) : PolicyEvent → PolicyRunState
  | .call i =>
      match (s.calls i).pc with
      | .idle => { s with calls := Function.update s.calls i ⟨s.done, .started⟩ }
      | _ => s
  | .advance i => s.advance tenantKey i
  | .write change =>
      match s.writer, change.commit s.world.db.policies (s.world.tenant tenantKey).id with
      | .idle, .ok policies => s.commit policies
      | _, _ => s
  | .advanceWrite => s.advanceWrite tenantKey
  | .subscriber => s.withWorld (s.world.invalidatePolicies tenantKey)
  | .evict key => s.withWorld (s.world.withBackend (s.world.backend.delete key))

end System

/-- Any tables and counters, empty caches, and every request and write to come. -/
def initial (tenantKey : String) (w : World) : PolicyRunState where
  world := (w.withBackend (.cold w.backend.counters)).ensureTenant tenantKey
  calls _ := ⟨0, .idle⟩
  writer := .idle
  history := [w.db.policies]
  listedAt _ := 0
  done := 1

section Invariant

variable [PyRuntime] (tenantKey : String) (tenantId version : Int)

/-- The rows are those of commit `n`. -/
def RowsOf (s : PolicyRunState) (n : Nat) (rows : List PolicyRecord) : Prop :=
  ∃ policies, s.history[n - 1]? = some policies ∧
    rows = policies.listCurrentPolicies tenantId "active"

/-- The record is of the tenant, and its version was bumped for some commit between
`low` and `high`: the first commit goes with the initial version. -/
def VersionBetween (low high : Nat) (tenant : TenantRecord) : Prop :=
  tenant.tenantKey = tenantKey ∧ tenant.id = tenantId ∧
    version + low ≤ tenant.policyVersion + 1 ∧ tenant.policyVersion + 1 ≤ version + high

/-- What holds of a request where it stands. -/
def Placed (s : PolicyRunState) (after : Nat) : PolicyPc → Prop
  | .tenantRead tenant | .missed tenant =>
      VersionBetween tenantKey tenantId version after s.history.length tenant
  | .listed tenant rows n =>
      VersionBetween tenantKey tenantId version after n tenant ∧ RowsOf tenantId s n rows
  | .built _ rows n => after ≤ n ∧ RowsOf tenantId s n rows
  | _ => True

/-- A commit is still to be answered by its version bump. -/
def pending (s : PolicyRunState) : Nat := if s.writer = .committed then 1 else 0

/-- The commit of a write that is still in progress. -/
def inProgress (s : PolicyRunState) : Nat := if s.writer = .idle then 0 else 1

/-- The version counts the commits it was bumped for, and the rows in a document are
of a commit at least as late as the one its version was bumped for. -/
structure Inv (s : PolicyRunState) : Prop where
  registered : s.world.Registered tenantKey
  sameId : (s.world.tenant tenantKey).id = tenantId
  counted : (s.world.tenant tenantKey).policyVersion + 1 + s.pending =
    version + s.history.length
  last : s.history[s.history.length - 1]? = some s.world.db.policies
  done : s.done + s.inProgress = s.history.length
  documents : ∀ ns v doc, s.world.backend.get (policyKeyAt tenantKey ns v) = some doc →
    ∃ rows, doc = encodePolicies rows ∧
      RowsOf tenantId s (s.listedAt (policyKeyAt tenantKey ns v)) rows ∧
      v + 1 ≤ version + s.listedAt (policyKeyAt tenantKey ns v)
  placed : ∀ i, Placed tenantKey tenantId version s (s.calls i).after (s.calls i).pc
  after : ∀ i, (s.calls i).after ≤ s.done

variable {tenantKey tenantId version} {s s' : PolicyRunState}

omit [PyRuntime] in
theorem inv_initial (tenantKey : String) (w : World) :
    Inv tenantKey (w.tenant tenantKey).id (w.tenant tenantKey).policyVersion
      (initial tenantKey w) where
  registered := registered_ensureTenant _ _
  sameId := congrArg TenantRecord.id (tenant_ensureTenant _ _)
  counted := by
    have htenant := congrArg TenantRecord.policyVersion
      (tenant_ensureTenant (w.withBackend (.cold w.backend.counters)) tenantKey)
    show ((w.withBackend (.cold w.backend.counters)).ensureTenant tenantKey |>.tenant
      tenantKey).policyVersion + 1 + 0 = (w.tenant tenantKey).policyVersion + 1
    rw [htenant]
    exact Int.add_zero _
  last := rfl
  done := rfl
  documents _ _ _ hdoc := by cases hdoc
  placed _ := trivial
  after _ := Nat.zero_le _

/-! ## The parts of the invariant -/

omit [PyRuntime] in
theorem VersionBetween.mono {low high high' : Nat} {tenant : TenantRecord}
    (h : VersionBetween tenantKey tenantId version low high tenant) (hhigh : high ≤ high') :
    VersionBetween tenantKey tenantId version low high' tenant := by
  rcases h with ⟨hkey, hid, hlow, hbound⟩
  exact ⟨hkey, hid, hlow, by omega⟩

omit [PyRuntime] in
/-- A commit leaves the earlier commits where they are. -/
theorem RowsOf.commit {n : Nat} {rows : List PolicyRecord} (h : RowsOf tenantId s n rows)
    (policies : PolicyStore) : RowsOf tenantId (s.commit policies) n rows := by
  rcases h with ⟨listed, hlisted, hrows⟩
  refine ⟨listed, ?_, hrows⟩
  show (s.history ++ [policies])[n - 1]? = some listed
  rw [List.getElem?_append_left (List.getElem?_eq_some_iff.mp hlisted).1]
  exact hlisted

omit [PyRuntime] in
theorem length_commit (s : PolicyRunState) (policies : PolicyStore) :
    (s.commit policies).history.length = s.history.length + 1 := List.length_append

omit [PyRuntime] in
theorem Placed.commit {after : Nat} {pc : PolicyPc}
    (h : Placed tenantKey tenantId version s after pc) (policies : PolicyStore) :
    Placed tenantKey tenantId version (s.commit policies) after pc := by
  have hlength := length_commit s policies
  cases pc with
  | idle => trivial
  | started => trivial
  | tenantRead tenant => exact h.mono (by omega)
  | missed tenant => exact h.mono (by omega)
  | listed tenant rows n => exact ⟨h.1, h.2.commit policies⟩
  | built cached rows n => exact ⟨h.1, h.2.commit policies⟩

omit [PyRuntime] in
/-- A request moves; nothing else does. -/
theorem Inv.setPc (h : Inv tenantKey tenantId version s) (i : Nat) {pc : PolicyPc}
    (hpc : Placed tenantKey tenantId version s (s.calls i).after pc) :
    Inv tenantKey tenantId version (s.setPc i pc) where
  registered := h.registered
  sameId := h.sameId
  counted := h.counted
  last := h.last
  done := h.done
  documents := h.documents
  placed j := by
    unfold PolicyRunState.setPc
    -- placed: the call that moves is where the hypothesis puts it
    by_cases hj : j = i
    · rw [hj]
      dsimp only
      rw [Function.update_self]
      exact hpc
    · dsimp only
      rw [Function.update_of_ne hj]
      exact h.placed j
  after j := by
    unfold PolicyRunState.setPc
    -- after: a move does not change when the call began
    by_cases hj : j = i
    · rw [hj]
      dsimp only
      rw [Function.update_self]
      exact h.after i
    · dsimp only
      rw [Function.update_of_ne hj]
      exact h.after j

omit [PyRuntime] in
/-- The world moves without its version, its policies, or new documents. -/
theorem Inv.withWorld (h : Inv tenantKey tenantId version s) {w : World}
    (hregistered : w.Registered tenantKey)
    (hid : (w.tenant tenantKey).id = (s.world.tenant tenantKey).id)
    (hversion : (w.tenant tenantKey).policyVersion = (s.world.tenant tenantKey).policyVersion)
    (hpolicies : w.db.policies = s.world.db.policies)
    (hdocuments : ∀ key doc, w.backend.get key = some doc → s.world.backend.get key = some doc) :
    Inv tenantKey tenantId version (s.withWorld w) where
  registered := hregistered
  sameId := hid.trans h.sameId
  counted := by
    show (w.tenant tenantKey).policyVersion + 1 + s.pending = version + s.history.length
    rw [hversion]
    exact h.counted
  last := h.last.trans (congrArg some hpolicies.symm)
  done := h.done
  documents ns v doc hdoc := h.documents ns v doc (hdocuments _ _ hdoc)
  placed := h.placed
  after := h.after

omit [PyRuntime] in
/-- Listed rows are stored under the version that was read before them. -/
theorem Inv.store (h : Inv tenantKey tenantId version s) {tenant : TenantRecord} {n : Nat}
    {rows : List PolicyRecord} {low : Nat}
    (htenant : VersionBetween tenantKey tenantId version low n tenant)
    (hrows : RowsOf tenantId s n rows) :
    Inv tenantKey tenantId version (s.store tenant rows n) where
  registered := h.registered
  sameId := h.sameId
  counted := h.counted
  last := h.last
  done := h.done
  documents ns v doc hdoc := by
    have hkey : s.policyKey tenant = policyKeyAt tenantKey
        (policyNamespace s.world.backend.counters tenantKey) tenant.policyVersion := by
      unfold policyKey policyCacheKey
      rw [htenant.1]
    have hstored : (s.world.backend.set (s.policyKey tenant) (encodePolicies rows)).get
        (policyKeyAt tenantKey ns v) = some doc := hdoc
    show ∃ rows', doc = encodePolicies rows' ∧ RowsOf tenantId s
      (Function.update s.listedAt (s.policyKey tenant) n (policyKeyAt tenantKey ns v)) rows' ∧
        v + 1 ≤ version + Function.update s.listedAt (s.policyKey tenant) n
          (policyKeyAt tenantKey ns v)
    -- the document that is stored, or one of another namespace or version
    by_cases hsame : policyKeyAt tenantKey ns v = s.policyKey tenant
    · rw [hsame, Backend.get_set_self] at hstored
      rw [hsame, Function.update_self]
      have hversion : v = tenant.policyVersion := (policyKeyAt_inj.mp (hsame.trans hkey)).2
      refine ⟨rows, (Option.some.inj hstored).symm, hrows, ?_⟩
      rw [hversion]
      exact htenant.2.2.2
    · rw [Backend.get_set_ne _ _ hsame] at hstored
      rw [Function.update_of_ne hsame]
      exact h.documents ns v doc hstored
  placed := h.placed
  after := h.after

omit [PyRuntime] in
/-- A write commits its rows. -/
theorem Inv.commit (h : Inv tenantKey tenantId version s) (hidle : s.writer = .idle)
    (policies : PolicyStore) : Inv tenantKey tenantId version (s.commit policies) where
  registered := h.registered
  sameId := h.sameId
  counted := by
    have hcounted := h.counted
    -- the bump of this commit is still to come
    have hpending : s.pending = 0 := by
      unfold pending
      rw [hidle]
      rfl
    have hlength := length_commit s policies
    show (s.world.tenant tenantKey).policyVersion + 1 + (1 : Nat) =
      version + (s.commit policies).history.length
    rw [hlength]
    omega
  last := by
    rw [length_commit]
    exact List.getElem?_concat_length
  done := by
    have hdone := h.done
    have hrest : s.inProgress = 0 := by
      unfold inProgress
      rw [hidle]
      rfl
    show s.done + 1 = (s.commit policies).history.length
    rw [length_commit]
    omega
  documents ns v doc hdoc := by
    rcases h.documents ns v doc hdoc with ⟨rows, hrows, hcommit, hversion⟩
    exact ⟨rows, hrows, hcommit.commit policies, hversion⟩
  placed i := (h.placed i).commit policies
  after := h.after

omit [PyRuntime] in
/-- A request begins after the writes that have completed. -/
theorem Inv.call (h : Inv tenantKey tenantId version s) (i : Nat) :
    Inv tenantKey tenantId version
      { s with calls := Function.update s.calls i ⟨s.done, .started⟩ } where
  registered := h.registered
  sameId := h.sameId
  counted := h.counted
  last := h.last
  done := h.done
  documents := h.documents
  placed j := by
    -- placed: a call that has just started holds nothing
    by_cases hj : j = i
    · rw [hj]
      dsimp only
      rw [Function.update_self]
      exact trivial
    · dsimp only
      rw [Function.update_of_ne hj]
      exact h.placed j
  after j := by
    -- after: it begins behind all writes that are done
    by_cases hj : j = i
    · rw [hj]
      dsimp only
      rw [Function.update_self]
    · dsimp only
      rw [Function.update_of_ne hj]
      exact h.after j

/-! ## The invariant along a run -/

omit [PyRuntime] in
/-- A request that reads its tenant finds a version between the last answered write and
the last commit. -/
theorem Inv.tenantRead (h : Inv tenantKey tenantId version s) {after : Nat}
    (hafter : after ≤ s.done) :
    VersionBetween tenantKey tenantId version after s.history.length (s.world.tenant tenantKey) := by
  have hcounted := h.counted
  refine ⟨tenant_tenantKey _ _, h.sameId, ?_, ?_⟩
  · have hdone := h.done
    unfold pending at hcounted
    unfold inProgress at hdone
    split at hcounted
    · -- the commit whose bump is missing is not answered either
      rename_i hwriter
      rw [hwriter] at hdone
      have hbusy : s.done + 1 = s.history.length := hdone
      omega
    · omega
  · omega

/-- The rows the policy cache answers with were listed after every write the request has
to see. -/
theorem Inv.cached (h : Inv tenantKey tenantId version s) {after : Nat} {tenant : TenantRecord}
    (hread : VersionBetween tenantKey tenantId version after s.history.length tenant)
    {rows : List PolicyRecord} (hcached : cachedPolicies s.world tenant "active" = some rows) :
    Placed tenantKey tenantId version s after
      (.built true rows (s.listedAt (s.policyKey tenant))) := by
  have hkey : s.policyKey tenant = policyKeyAt tenantKey
      (policyNamespace s.world.backend.counters tenantKey) tenant.policyVersion := by
    unfold policyKey policyCacheKey
    rw [hread.1]
  cases hdoc : s.world.backend.get (s.policyKey tenant) with
  | none =>
      unfold cachedPolicies at hcached
      rw [policyCacheGet_of_none hdoc] at hcached
      simp at hcached
  | some doc =>
      rw [hkey] at hdoc
      rcases h.documents _ _ _ hdoc with ⟨rows', hencoded, hrows, hversion⟩
      rw [← hkey] at hdoc hrows hversion
      unfold cachedPolicies at hcached
      rw [policyCacheGet_of_doc (hdoc.trans (congrArg some hencoded))] at hcached
      have hsame : rows' = rows := by simpa using hcached
      rw [hsame] at hrows
      refine ⟨?_, hrows⟩
      -- the version of the key bounds the commit its rows were listed after
      have hlow := hread.2.2.1
      omega

/-- A step of a request keeps the invariant. -/
theorem Inv.advance (h : Inv tenantKey tenantId version s) (i : Nat) :
    Inv tenantKey tenantId version (s.advance tenantKey i) := by
  have hplaced := h.placed i
  have hafter := h.after i
  unfold PolicyRunState.advance
  cases hpc : (s.calls i).pc with
  | idle => exact h
  | built cached rows n => exact h
  | started =>
      dsimp only
      rw [ensureTenant_of_registered h.registered]
      exact h.setPc i (h.tenantRead hafter)
  | tenantRead tenant =>
      rw [hpc] at hplaced
      dsimp only
      cases hcached : cachedPolicies s.world tenant "active" with
      | none => exact h.setPc i hplaced
      | some rows => exact h.setPc i (h.cached hplaced hcached)
  | missed tenant =>
      rw [hpc] at hplaced
      apply h.setPc
      -- the rows listed are those of the last commit
      refine ⟨hplaced, s.world.db.policies, h.last, ?_⟩
      rw [hplaced.2.1]
  | listed tenant rows n =>
      rw [hpc] at hplaced
      have hbuilt : (s.calls i).after ≤ n := by
        have hlow := hplaced.1.2.2.1
        have hhigh := hplaced.1.2.2.2
        omega
      dsimp only
      split
      · exact h.setPc i ⟨hbuilt, hplaced.2⟩
      · exact (h.store hplaced.1 hplaced.2).setPc i ⟨hbuilt, hplaced.2⟩

omit [PyRuntime] in
/-- The version is bumped for the commit. -/
theorem Inv.bumpVersion (h : Inv tenantKey tenantId version s) (hwriter : s.writer = .committed) :
    Inv tenantKey tenantId version
      { s with world := s.world.bumpPolicyVersion tenantKey, writer := .versionBumped } := by
  have htenant := tenant_bumpPolicyVersion h.registered
  have hcounted := h.counted
  have hdone := h.done
  unfold pending at hcounted
  unfold inProgress at hdone
  rw [hwriter] at hcounted hdone
  exact
    { registered := htenant.1
      sameId := (congrArg TenantRecord.id htenant.2).trans h.sameId
      counted := by
        -- the version catches up with the write that is committed
        show ((s.world.bumpPolicyVersion tenantKey).tenant tenantKey).policyVersion + 1 + (0 : Nat) =
          version + s.history.length
        rw [htenant.2]
        have hsum : (s.world.tenant tenantKey).policyVersion + 1 + (1 : Nat) =
            version + s.history.length := hcounted
        dsimp only
        omega
      last := h.last
      done := hdone
      documents := h.documents
      placed := h.placed
      after := h.after }

omit [PyRuntime] in
/-- Only the writer moves, and it is not about to bump the version. -/
theorem Inv.setWriter (h : Inv tenantKey tenantId version s) {pc : PolicyWriterPc}
    (hbefore : s.writer ≠ .committed ∧ s.writer ≠ .idle) (hafter : pc ≠ .committed ∧ pc ≠ .idle) :
    Inv tenantKey tenantId version { s with writer := pc } where
  registered := h.registered
  sameId := h.sameId
  counted := by
    have hcounted := h.counted
    unfold pending at hcounted ⊢
    rw [if_neg hbefore.1] at hcounted
    rw [if_neg hafter.1]
    exact hcounted
  last := h.last
  done := by
    have hdone := h.done
    unfold inProgress at hdone ⊢
    rw [if_neg hbefore.2] at hdone
    rw [if_neg hafter.2]
    exact hdone
  documents := h.documents
  placed := h.placed
  after := h.after

omit [PyRuntime] in
/-- The write completes: requests to come are after its commit. -/
theorem Inv.complete (h : Inv tenantKey tenantId version s)
    (hwriter : s.writer = .decisionsBumped) :
    Inv tenantKey tenantId version { s with writer := .idle, done := s.history.length } where
  registered := h.registered
  sameId := h.sameId
  counted := by
    have hcounted := h.counted
    unfold pending at hcounted
    rw [hwriter] at hcounted
    exact hcounted
  last := h.last
  done := Nat.add_zero _
  documents := h.documents
  placed := h.placed
  after i := by
    have hdone := h.done
    have hi := h.after i
    show (s.calls i).after ≤ s.history.length
    omega

omit [PyRuntime] in
/-- A step of the write keeps the invariant. -/
theorem Inv.advanceWrite (h : Inv tenantKey tenantId version s) :
    Inv tenantKey tenantId version (s.advanceWrite tenantKey) := by
  unfold PolicyRunState.advanceWrite
  cases hwriter : s.writer with
  | idle => exact h
  | committed => exact h.bumpVersion hwriter
  | versionBumped =>
      -- the counters of the namespaces hold no documents
      have hworld : Inv tenantKey tenantId version
          (s.withWorld (s.world.invalidatePolicies tenantKey)) :=
        h.withWorld h.registered rfl rfl rfl fun key doc hdoc => hdoc
      apply hworld.setWriter
      · constructor <;> simp [PolicyRunState.withWorld, hwriter]
      · constructor <;> simp
  | invalidated =>
      have hworld : Inv tenantKey tenantId version
          (s.withWorld (s.world.bumpDecisions tenantKey)) :=
        h.withWorld h.registered rfl rfl rfl fun key doc hdoc => hdoc
      apply hworld.setWriter
      · constructor <;> simp [PolicyRunState.withWorld, hwriter]
      · constructor <;> simp
  | decisionsBumped =>
      have htenant := tenant_bumpRevision s.world tenantKey
      have hworld : Inv tenantKey tenantId version (s.withWorld (s.world.bumpRevision tenantKey)) :=
        h.withWorld (registered_bumpRevision _ _) (by rw [htenant]) (by rw [htenant]) rfl
          fun key doc hdoc => hdoc
      exact hworld.complete hwriter

/-- Every move keeps the invariant. -/
theorem Inv.step (h : Inv tenantKey tenantId version s) (e : PolicyEvent) :
    Inv tenantKey tenantId version (s.step tenantKey e) := by
  cases e with
  | call i =>
      dsimp only [PolicyRunState.step]
      split
      · exact h.call i
      · exact h
  | advance i => exact h.advance i
  | write change =>
      dsimp only [PolicyRunState.step]
      split
      · rename_i policies hwriter hcommit
        exact h.commit hwriter policies
      · exact h
  | advanceWrite => exact h.advanceWrite
  | subscriber => exact h.withWorld h.registered rfl rfl rfl fun key doc hdoc => hdoc
  | evict key =>
      apply h.withWorld (w := s.world.withBackend (s.world.backend.delete key)) h.registered rfl rfl
        rfl
      intro key' doc hdoc
      -- an evicted document is gone, the others are as they were
      by_cases hkey : key' = key
      · have hnone : (s.world.backend.delete key).get key' = none := by
          rw [hkey]
          exact Backend.get_delete_self _ _
        have hsome : (s.world.backend.delete key).get key' = some doc := hdoc
        rw [hnone] at hsome
        cases hsome
      · exact (Backend.get_delete_ne _ hkey).symm.trans hdoc

/-- The engine of the request is of rows listed after the commit of every write that
had completed when it began. -/
def SeesWrites (tenantId : Int) (s : PolicyRunState) (call : PolicyCall) : Prop :=
  match call.pc with
  | .built _ rows n => call.after ≤ n ∧ RowsOf tenantId s n rows
  | _ => True

/-- From any tables and counters and empty caches, however requests interleave with
the writes of the tenant, every request that has its engine sees the writes that had
completed when it began. -/
theorem late_calls_see_writes (tenantKey : String) (w : World) (events : List PolicyEvent)
    (i : Nat) :
    let s := Lib.run (step tenantKey) (initial tenantKey w) events
    SeesWrites (w.tenant tenantKey).id s (s.calls i) := by
  intro s
  have hinv : Inv tenantKey (w.tenant tenantKey).id (w.tenant tenantKey).policyVersion s :=
    Lib.run_preserves (fun _ e h => h.step e) (inv_initial tenantKey w) events
  have hplaced := hinv.placed i
  unfold SeesWrites
  cases hpc : (s.calls i).pc with
  | built cached rows n =>
      rw [hpc] at hplaced
      exact hplaced
  | _ => trivial

end Invariant

section Alone

variable [PyRuntime] {tenantKey : String} {s : PolicyRunState} {i : Nat}

/-! ## A request alone -/

omit [PyRuntime] in
@[simp] theorem setPc_pc (s : PolicyRunState) (i : Nat) (pc : PolicyPc) :
    ((s.setPc i pc).calls i).pc = pc := by
  unfold setPc
  dsimp only
  rw [Function.update_self]

omit [PyRuntime] in
@[simp] theorem setPc_world (s : PolicyRunState) (i : Nat) (pc : PolicyPc) :
    (s.setPc i pc).world = s.world := rfl

theorem advance_of_built {cached : Bool} {rows : List PolicyRecord} {n : Nat}
    (h : (s.calls i).pc = .built cached rows n) : s.advance tenantKey i = s := by
  unfold advance
  rw [h]

variable (tenantKey) in
/-- The last two steps of a request that has missed the cache. -/
theorem advance_of_missed {tenant : TenantRecord} (h : (s.calls i).pc = .missed tenant) :
    let rows := s.world.db.policies.listCurrentPolicies tenant.id "active"
    let s' := (s.advance tenantKey i).advance tenantKey i
    (∃ n, (s'.calls i).pc = .built false rows n) ∧
      s'.world = if rows.isEmpty then s.world else s.world.withBackend
        (policyCacheSet s.world.backend tenant.tenantKey tenant.policyVersion rows) := by
  intro rows s'
  have hlisted : s.advance tenantKey i = s.setPc i (.listed tenant rows s.history.length) := by
    unfold advance
    rw [h]
  have hs' : s' = if rows.isEmpty then
        (s.setPc i (.listed tenant rows s.history.length)).setPc i
          (.built false rows s.history.length)
      else ((s.setPc i (.listed tenant rows s.history.length)).store tenant rows
        s.history.length).setPc i (.built false rows s.history.length) := by
    show (s.advance tenantKey i).advance tenantKey i = _
    rw [hlisted]
    unfold advance
    rw [setPc_pc]
  rw [hs']
  split
  · exact ⟨⟨_, setPc_pc _ _ _⟩, rfl⟩
  · exact ⟨⟨_, setPc_pc _ _ _⟩, rfl⟩

/-- The steps of a request that nothing interrupts are `_build_engine`. -/
theorem call_alone (settings : Settings) (hidle : (s.calls i).pc = .idle) :
    let s' := Lib.run (step tenantKey) s
      [.call i, .advance i, .advance i, .advance i, .advance i]
    ∃ cached rows n, (s'.calls i).pc = .built cached rows n ∧
      buildEngine settings (s.world.ensureTenant tenantKey) (s.world.tenant tenantKey) "active" =
        (if cached then engineOf rows else currentEngine settings rows, s'.world) := by
  intro s'
  -- the request begins and reads its tenant
  let s₁ := s.step tenantKey (.call i)
  have hs₁ : s₁ = { s with calls := Function.update s.calls i ⟨s.done, .started⟩ } := by
    show s.step tenantKey (.call i) = _
    dsimp only [step]
    rw [hidle]
  have hstarted : (s₁.calls i).pc = .started := by
    rw [hs₁]
    dsimp only
    rw [Function.update_self]
  let s₂ := s₁.advance tenantKey i
  have hs₂ : s₂ = (s₁.withWorld (s₁.world.ensureTenant tenantKey)).setPc i
      (.tenantRead (s₁.world.tenant tenantKey)) := by
    show s₁.advance tenantKey i = _
    unfold advance
    rw [hstarted]
  have hworld₁ : s₁.world = s.world := by rw [hs₁]
  have hworld₂ : s₂.world = s.world.ensureTenant tenantKey := by
    rw [hs₂, setPc_world, hworld₁]
    rfl
  have hread : (s₂.calls i).pc = .tenantRead (s.world.tenant tenantKey) := by
    rw [hs₂, setPc_pc, hworld₁]
  have hrun : s' = ((s₂.advance tenantKey i).advance tenantKey i).advance tenantKey i := rfl
  have hkey : policySetKey "active" = "active" := policySetKey_active
  unfold buildEngine
  rw [hkey]
  -- the policy cache answers, or the rows are listed
  cases hcached : cachedPolicies (s.world.ensureTenant tenantKey) (s.world.tenant tenantKey)
      "active" with
  | some rows =>
      have hs₃ : s₂.advance tenantKey i =
          s₂.setPc i (.built true rows (s₂.listedAt (s₂.policyKey (s.world.tenant tenantKey)))) := by
        unfold advance
        rw [hread]
        dsimp only
        rw [hworld₂, hcached]
      have hbuilt : ((s₂.advance tenantKey i).calls i).pc =
          .built true rows (s₂.listedAt (s₂.policyKey (s.world.tenant tenantKey))) := by
        rw [hs₃, setPc_pc]
      rw [hrun, advance_of_built hbuilt, advance_of_built hbuilt]
      refine ⟨true, rows, _, hbuilt, ?_⟩
      rw [hs₃, setPc_world, hworld₂]
      dsimp only
      rw [hcached]
      rfl
  | none =>
      have hs₃ : s₂.advance tenantKey i = s₂.setPc i (.missed (s.world.tenant tenantKey)) := by
        unfold advance
        rw [hread]
        dsimp only
        rw [hworld₂, hcached]
      have hmissed : ((s₂.advance tenantKey i).calls i).pc =
          .missed (s.world.tenant tenantKey) := by
        rw [hs₃, setPc_pc]
      have hlast := advance_of_missed tenantKey hmissed
      rw [hs₃, setPc_world, hworld₂] at hlast
      rcases hlast with ⟨⟨n, hbuilt⟩, hworld⟩
      rw [hrun, hs₃]
      refine ⟨false, _, n, hbuilt, ?_⟩
      rw [hworld]
      dsimp only
      rw [hcached]
      dsimp only
      cases (List.isEmpty _) <;> rfl

end Alone

end PolicyRunState

end KeyNetra
