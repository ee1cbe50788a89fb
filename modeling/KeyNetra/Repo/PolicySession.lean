import KeyNetra.Repo.Policies

/-!
# KeyNetra.Repo.PolicySession — a policy write on a database that can be locked

`create_policy_version` adds a policy or moves its pointer, adds a version, and commits; on an
`OperationalError` it rolls back, adds the version alone, and commits again. The session works on
its own view of the tables until a commit, and a rollback drops that view.

* `PolicySession.createPolicyVersion` — the write, whatever the database answers;
* `createPolicyVersion_done` — where nothing is locked it is the write of the store;
* `write_is_current_iff` — a write that returns is the current one exactly when its first commit
  passed.
-/

namespace KeyNetra

/-! ## Tables of a database -/

/-- What a statement on the database raises. -/
inductive DbError where
  | operationalError
  | integrityError
deriving DecidableEq, Repr

/-- What the database answers to a flush or to a commit; one that is locked raises
`OperationalError`. -/
inductive DbReply where
  | done
  | locked
deriving DecidableEq, Repr

/-- The two tables, with the constraints that the database declares. SQLite enforces the foreign key
only when told to. -/
structure PolicyTables where
  foreignKeys : Bool
  policies : List Policy
  versions : List PolicyVersion
  policyIds : (policies.map Policy.id).Nodup
  policyKeys : (policies.map Policy.key).Nodup
  versionIds : (versions.map PolicyVersion.id).Nodup
  versionKeys : (versions.map PolicyVersion.key).Nodup
  policyRefs : foreignKeys = true → ∀ v ∈ versions, v.policyId ∈ policies.map Policy.id

theorem noPolicyRefs (foreignKeys : Bool) : foreignKeys = true →
    ∀ v ∈ ([] : List PolicyVersion), v.policyId ∈ ([] : List Policy).map Policy.id := by
  intro _ v hv
  cases hv

theorem noPolicyKeys : (([] : List Policy).map Policy.key).Nodup := List.nodup_nil

theorem noVersionKeys : (([] : List PolicyVersion).map PolicyVersion.key).Nodup := List.nodup_nil

/-- A new database. -/
def PolicyTables.empty (foreignKeys : Bool) : PolicyTables where
  foreignKeys := foreignKeys
  policies := []
  versions := []
  policyIds := List.nodup_nil
  policyKeys := noPolicyKeys
  versionIds := List.nodup_nil
  versionKeys := noVersionKeys
  policyRefs := noPolicyRefs foreignKeys

/-- `select(Policy).where(tenant_id, policy_key)`, its first row. -/
def PolicyTables.findPolicy (t : PolicyTables) (tenantId : Int) (policyKey : String) :
    Option Policy :=
  t.policies.find? fun p => p.key = (tenantId, policyKey)

/-- The next row of `policies`. -/
def PolicyTables.newPolicy (t : PolicyTables) (tenantId : Int) (policyKey : String)
    (currentVersion : Int) : Policy :=
  ⟨Lib.freshId (t.policies.map Policy.id), tenantId, policyKey, currentVersion⟩

section NewPolicy

variable (t : PolicyTables) (tenantId : Int) (policyKey : String) (currentVersion : Int)

theorem PolicyTables.newPolicy_ids :
    ((t.policies ++ [t.newPolicy tenantId policyKey currentVersion]).map Policy.id).Nodup :=
  Lib.nodup_map_append t.policyIds (Lib.freshId_notMem _)

theorem PolicyTables.newPolicy_keys
    (h : (t.newPolicy tenantId policyKey currentVersion).key ∉ t.policies.map Policy.key) :
    ((t.policies ++ [t.newPolicy tenantId policyKey currentVersion]).map Policy.key).Nodup :=
  Lib.nodup_map_append t.policyKeys h

/-- A new policy leaves the references of the versions. -/
theorem PolicyTables.newPolicy_refs : t.foreignKeys = true → ∀ v ∈ t.versions, v.policyId ∈
    (t.policies ++ [t.newPolicy tenantId policyKey currentVersion]).map Policy.id := by
  intro henforced v hv
  rw [List.map_append]
  exact List.mem_append_left _ (t.policyRefs henforced v hv)

end NewPolicy

attribute [local instance] Lib.decidableKeyMem

/-- `INSERT INTO policies`. -/
def PolicyTables.insertPolicy (t : PolicyTables) (tenantId : Int) (policyKey : String)
    (currentVersion : Int) : Except DbError (Policy × PolicyTables) :=
  if h : (t.newPolicy tenantId policyKey currentVersion).key ∈ t.policies.map Policy.key then
    .error .integrityError
  else .ok (t.newPolicy tenantId policyKey currentVersion,
    { t with
      policies := t.policies ++ [t.newPolicy tenantId policyKey currentVersion]
      policyIds := t.newPolicy_ids tenantId policyKey currentVersion
      policyKeys := t.newPolicy_keys tenantId policyKey currentVersion h
      policyRefs := t.newPolicy_refs tenantId policyKey currentVersion })

/-- The row of a policy, its pointer moved if it is the policy asked for. -/
def Policy.moved (policyId version : Int) (p : Policy) : Policy :=
  if p.id = policyId then { p with currentVersion := version } else p

theorem Policy.moved_id (policyId version : Int) (p : Policy) :
    (p.moved policyId version).id = p.id := by
  unfold Policy.moved
  split <;> rfl

theorem Policy.moved_key (policyId version : Int) (p : Policy) :
    (p.moved policyId version).key = p.key := by
  unfold Policy.moved
  split <;> rfl

section Moved

variable (t : PolicyTables) (policyId version : Int)

theorem PolicyTables.moved_ids :
    ((t.policies.map (Policy.moved policyId version)).map Policy.id).Nodup :=
  Lib.nodup_map_update (Policy.moved_id policyId version) t.policyIds

theorem PolicyTables.moved_keys :
    ((t.policies.map (Policy.moved policyId version)).map Policy.key).Nodup :=
  Lib.nodup_map_update (Policy.moved_key policyId version) t.policyKeys

theorem PolicyTables.moved_refs : t.foreignKeys = true → ∀ v ∈ t.versions, v.policyId ∈
    (t.policies.map (Policy.moved policyId version)).map Policy.id := by
  intro henforced v hv
  have hids : (t.policies.map (Policy.moved policyId version)).map Policy.id =
      t.policies.map Policy.id := by
    rw [List.map_map]
    exact List.map_congr_left fun p _ => Policy.moved_id policyId version p
  rw [hids]
  exact t.policyRefs henforced v hv

end Moved

/-- `UPDATE policies SET current_version`. -/
def PolicyTables.setCurrentVersion (t : PolicyTables) (policyId version : Int) : PolicyTables :=
  { t with
    policies := t.policies.map (Policy.moved policyId version)
    policyIds := t.moved_ids policyId version
    policyKeys := t.moved_keys policyId version
    policyRefs := t.moved_refs policyId version }

/-- The next row of `policy_versions`. -/
def PolicyTables.newVersion (t : PolicyTables) (draft : PolicyVersion) : PolicyVersion :=
  { draft with id := Lib.freshId (t.versions.map PolicyVersion.id) }

section NewVersion

variable (t : PolicyTables) (draft : PolicyVersion)

theorem PolicyTables.newVersion_ids :
    ((t.versions ++ [t.newVersion draft]).map PolicyVersion.id).Nodup :=
  Lib.nodup_map_append t.versionIds (Lib.freshId_notMem _)

theorem PolicyTables.newVersion_keys
    (h : (t.newVersion draft).key ∉ t.versions.map PolicyVersion.key) :
    ((t.versions ++ [t.newVersion draft]).map PolicyVersion.key).Nodup :=
  Lib.nodup_map_append t.versionKeys h

theorem PolicyTables.newVersion_refs
    (href : t.foreignKeys = true → (t.newVersion draft).policyId ∈ t.policies.map Policy.id) :
    t.foreignKeys = true →
      ∀ v ∈ t.versions ++ [t.newVersion draft], v.policyId ∈ t.policies.map Policy.id := by
  intro henforced v hv
  rcases List.mem_append.mp hv with hv | hv
  · exact t.policyRefs henforced v hv
  · rw [List.mem_singleton.mp hv]
    exact href henforced

end NewVersion

/-- `INSERT INTO policy_versions`. -/
def PolicyTables.insertVersion (t : PolicyTables) (draft : PolicyVersion) :
    Except DbError (PolicyVersion × PolicyTables) :=
  if hkey : (t.newVersion draft).key ∈ t.versions.map PolicyVersion.key then
    .error .integrityError
  else if href : t.foreignKeys = true →
      (t.newVersion draft).policyId ∈ t.policies.map Policy.id then
    .ok (t.newVersion draft,
      { t with
        versions := t.versions ++ [t.newVersion draft]
        versionIds := t.newVersion_ids draft
        versionKeys := t.newVersion_keys draft hkey
        policyRefs := t.newVersion_refs draft href })
  else .error .integrityError

/-! ## The session -/

/-- The tables as last committed, and as the session's transaction has them. -/
structure PolicySession where
  committed : PolicyTables
  working : PolicyTables

/-- A session that has written nothing. -/
def PolicySession.start (t : PolicyTables) : PolicySession := ⟨t, t⟩

/-- `rollback`: every insert and attribute change that is not committed is undone. -/
def PolicySession.rollback (s : PolicySession) : PolicySession := .start s.committed

/-- `add(policy)`, `flush()`. -/
def PolicySession.flushPolicy (s : PolicySession) (reply : DbReply) (tenantId : Int)
    (policyKey : String) (currentVersion : Int) : Except DbError (Policy × PolicySession) :=
  match reply with
  | .locked => .error .operationalError
  | .done => do
      let (row, working) ← s.working.insertPolicy tenantId policyKey currentVersion
      .ok (row, { s with working := working })

/-- `add(policy_version)`, `commit()`: the row is flushed, and the transaction ends. -/
def PolicySession.commitVersion (s : PolicySession) (reply : DbReply) (draft : PolicyVersion) :
    Except DbError (PolicyVersion × PolicySession) :=
  match reply with
  | .locked => .error .operationalError
  | .done => do
      let (row, tables) ← s.working.insertVersion draft
      .ok (row, .start tables)

/-- What the database answers to the flush of a new policy and to the two commits. -/
structure DbReplies where
  flush : DbReply := .done
  first : DbReply := .done
  second : DbReply := .done

/-- The policy of the key, which is added when there is none, and the number of its next version:
the pointer is moved to that number. -/
def PolicySession.nextVersion (s : PolicySession) (reply : DbReply) (tenantId : Int)
    (policyKey : String) : Except DbError (Int × Int × PolicySession) :=
  match s.working.findPolicy tenantId policyKey with
  | none => do
      let (policy, s) ← s.flushPolicy reply tenantId policyKey 1
      .ok (policy.id, 1, s)
  | some policy =>
      let next := policy.currentVersion + 1
      .ok (policy.id, next, { s with working := s.working.setCurrentVersion policy.id next })

/-- The commit of a version; behind an `OperationalError`, the rollback and the commit of another. -/
def PolicySession.commitOrRetry (s : PolicySession) (replies : DbReplies)
    (draft retried : PolicyVersion) : Except DbError (PolicyVersion × PolicySession) :=
  match s.commitVersion replies.first draft with
  | .error .operationalError => s.rollback.commitVersion replies.second retried
  | result => result

/-- `SqlPolicyRepository.create_policy_version`. The policy object keeps its id through the
rollback: one that was in the database is read again, a new one has left the session. The second
version leaves out the state, and has the default one. -/
def PolicySession.createPolicyVersion (s : PolicySession) (replies : DbReplies) (tenantId : Int)
    (change : PolicyChange) : Except DbError (PolicyMutationResult × PolicySession) := do
  let (policyId, next, s) ← s.nextVersion replies.flush tenantId change.policyKey
  let (row, s) ← s.commitOrRetry replies (change.row tenantId policyId next)
    ({ change with state := "active" }.row tenantId policyId next)
  .ok (row.result, s)

/-! ## Spec lemmas of the statements -/

theorem PolicyTables.findPolicy_some {t : PolicyTables} {tenantId : Int} {policyKey : String}
    {p : Policy} (h : t.findPolicy tenantId policyKey = some p) :
    p ∈ t.policies ∧ p.key = (tenantId, policyKey) :=
  ⟨List.mem_of_find?_eq_some h, by simpa using List.find?_some h⟩

theorem PolicyTables.findPolicy_none {t : PolicyTables} {tenantId : Int} {policyKey : String}
    (h : t.findPolicy tenantId policyKey = none) :
    ∀ p ∈ t.policies, p.key ≠ (tenantId, policyKey) := by
  intro p hp
  simpa using List.find?_eq_none.mp h p hp

theorem PolicyTables.insertPolicy_ok {t t' : PolicyTables} {tenantId version : Int}
    {policyKey : String} {row : Policy}
    (h : t.insertPolicy tenantId policyKey version = .ok (row, t')) :
    row.key = (tenantId, policyKey) ∧ row.currentVersion = version ∧
      t'.policies = t.policies ++ [row] ∧ t'.versions = t.versions := by
  unfold PolicyTables.insertPolicy at h
  split at h
  · cases h
  · cases h
    exact ⟨rfl, rfl, rfl, rfl⟩

theorem PolicyTables.insertVersion_ok {t t' : PolicyTables} {draft row : PolicyVersion}
    (h : t.insertVersion draft = .ok (row, t')) :
    row = { draft with id := row.id } ∧ t'.policies = t.policies ∧
      t'.versions = t.versions ++ [row] := by
  unfold PolicyTables.insertVersion at h
  split at h
  · cases h
  · split at h
    · cases h
      exact ⟨rfl, rfl, rfl⟩
    · cases h

/-- A commit that returns has stored the row, in what the session had. -/
theorem PolicySession.commitVersion_ok {s s' : PolicySession} {reply : DbReply}
    {draft row : PolicyVersion} (h : s.commitVersion reply draft = .ok (row, s')) :
    reply = .done ∧ row = { draft with id := row.id } ∧
      s'.committed.policies = s.working.policies ∧
      s'.committed.versions = s.working.versions ++ [row] := by
  unfold PolicySession.commitVersion at h
  cases reply with
  | locked => cases h
  | done =>
      have ⟨⟨row', t⟩, hinsert, hresult⟩ := Lib.bind_eq_ok.mp h
      cases hresult
      exact ⟨rfl, PolicyTables.insertVersion_ok hinsert⟩

/-- A row that is refused violates a constraint. -/
theorem PolicyTables.insertVersion_error {t : PolicyTables} {draft : PolicyVersion} {e : DbError}
    (h : t.insertVersion draft = .error e) : e = .integrityError := by
  unfold PolicyTables.insertVersion at h
  split at h
  · cases h
    rfl
  · split at h
    · cases h
    · cases h
      rfl

/-- A commit raises `OperationalError` where the database is locked only. -/
theorem PolicySession.commitVersion_error {s : PolicySession} {reply : DbReply}
    {draft : PolicyVersion} (h : s.commitVersion reply draft = .error .operationalError) :
    reply = .locked := by
  cases reply with
  | locked => rfl
  | done =>
      unfold PolicySession.commitVersion at h
      cases hinsert : s.working.insertVersion draft with
      | ok result =>
          rw [hinsert] at h
          cases h
      | error e =>
          rw [hinsert, PolicyTables.insertVersion_error hinsert] at h
          cases h

/-- The two ways to a version: by the first commit, or by the second on the committed tables. -/
theorem PolicySession.commitOrRetry_ok {s : PolicySession} {replies : DbReplies}
    {draft retried : PolicyVersion} {result : PolicyVersion × PolicySession}
    (h : s.commitOrRetry replies draft retried = .ok result) :
    (replies.first = .done ∧ s.commitVersion .done draft = .ok result) ∨
      (replies.first = .locked ∧ s.rollback.commitVersion replies.second retried = .ok result) := by
  unfold PolicySession.commitOrRetry at h
  cases hcommit : s.commitVersion replies.first draft with
  | ok stored =>
      rw [hcommit] at h
      have hdone := (PolicySession.commitVersion_ok hcommit).1
      rw [hdone] at hcommit
      exact .inl ⟨hdone, hcommit.trans h⟩
  | error e =>
      rw [hcommit] at h
      cases e with
      | integrityError => cases h
      | operationalError => exact .inr ⟨PolicySession.commitVersion_error hcommit, h⟩

/-- What the session has when the version is added: the pointer is at the number it will have. -/
theorem PolicySession.nextVersion_ok {t : PolicyTables} {s : PolicySession} {reply : DbReply}
    {tenantId policyId next : Int} {policyKey : String}
    (h : (PolicySession.start t).nextVersion reply tenantId policyKey = .ok (policyId, next, s)) :
    s.committed = t ∧ s.working.versions = t.versions ∧
      (∃ p ∈ s.working.policies, p.key = (tenantId, policyKey) ∧ p.id = policyId ∧
        p.currentVersion = next) ∧
      ∀ p ∈ t.policies, p.key = (tenantId, policyKey) → next = p.currentVersion + 1 := by
  unfold PolicySession.nextVersion at h
  cases hfind : (PolicySession.start t).working.findPolicy tenantId policyKey with
  | none =>
      rw [hfind] at h
      -- the key is new: its row is flushed with version one
      have ⟨⟨row, s₁⟩, hflush, hresult⟩ := Lib.bind_eq_ok.mp h
      unfold PolicySession.flushPolicy at hflush
      cases reply with
      | locked => cases hflush
      | done =>
          have ⟨⟨row', working⟩, hinsert, hsession⟩ := Lib.bind_eq_ok.mp hflush
          cases hsession
          cases hresult
          have ⟨hkey, hcurrent, hpolicies, hversions⟩ := PolicyTables.insertPolicy_ok hinsert
          have hmem : row ∈ working.policies := by
            rw [hpolicies]
            exact List.mem_append_right _ List.mem_cons_self
          refine ⟨rfl, hversions, ⟨row, hmem, hkey, rfl, hcurrent⟩, ?_⟩
          intro p hp hsame
          exact absurd hsame (PolicyTables.findPolicy_none hfind p hp)
  | some p =>
      rw [hfind] at h
      cases h
      have ⟨hp, hkey⟩ := PolicyTables.findPolicy_some hfind
      refine ⟨rfl, rfl, ⟨{ p with currentVersion := p.currentVersion + 1 }, ?_, hkey, rfl, rfl⟩, ?_⟩
      · refine List.mem_map.mpr ⟨p, hp, ?_⟩
        rw [Policy.moved, if_pos rfl]
      · intro q hq hsame
        -- keys are unique, so the row that moved is the one found
        have hqp : q = p := Lib.eq_of_key_eq t.policyKeys hq hp (hsame.trans hkey.symm)
        rw [hqp]

/-! ## Where nothing is locked -/

/-- A store of policies, in a database that enforces the foreign key. -/
def PolicyStore.tables (s : PolicyStore) : PolicyTables where
  foreignKeys := true
  policies := s.policies
  versions := s.versions
  policyIds := s.policyIds
  policyKeys := s.policyKeys
  versionIds := s.versionIds
  versionKeys := s.versionKeys
  policyRefs := fun _ => s.policyRefs

theorem tables_insertPolicy (s : PolicyStore) (tenantId : Int) (policyKey : String)
    (version : Int) :
    s.tables.insertPolicy tenantId policyKey version =
      match s.insertPolicy tenantId policyKey version with
      | .ok (row, s') => .ok (row, s'.tables)
      | .error _ => .error .integrityError := by
  unfold PolicyTables.insertPolicy PolicyStore.insertPolicy
  dsimp only
  by_cases htaken : (⟨Lib.freshId (s.policies.map Policy.id), tenantId, policyKey, version⟩ :
      Policy).key ∈ s.policies.map Policy.key
  · refine (dif_pos htaken).trans ?_
    rw [dif_pos htaken]
  · refine (dif_neg htaken).trans ?_
    rw [dif_neg htaken]
    rfl

theorem tables_insertVersion (s : PolicyStore) (draft : PolicyVersion) :
    s.tables.insertVersion draft =
      match s.insertVersion draft with
      | .ok (row, s') => .ok (row, s'.tables)
      | .error _ => .error .integrityError := by
  unfold PolicyTables.insertVersion PolicyStore.insertVersion
  dsimp only
  by_cases htaken : { draft with id := Lib.freshId (s.versions.map PolicyVersion.id) }.key ∈
      s.versions.map PolicyVersion.key
  · refine (dif_pos htaken).trans ?_
    rw [dif_pos htaken]
  · refine (dif_neg htaken).trans ?_
    rw [dif_neg htaken]
    by_cases href : draft.policyId ∈ s.policies.map Policy.id
    · refine (dif_pos fun _ => href).trans ?_
      rw [dif_pos href]
      rfl
    · refine (dif_neg fun h => href (h rfl)).trans ?_
      rw [dif_neg href]

/-- Where the database answers to all, the session's write is the store's. -/
theorem createPolicyVersion_done (s : PolicyStore) (tenantId : Int) (change : PolicyChange) :
    (PolicySession.start s.tables).createPolicyVersion {} tenantId change =
      match s.createPolicyVersion tenantId change with
      | .ok (result, s') => .ok (result, .start s'.tables)
      | .error _ => .error .integrityError := by
  -- where the database answers at once, the retry is not reached
  have hcommit : ∀ (s₁ : PolicyStore) (committed : PolicyTables) (draft retried : PolicyVersion),
      PolicySession.commitOrRetry ⟨committed, s₁.tables⟩ {} draft retried =
        match s₁.insertVersion draft with
        | .ok (row, s') => .ok (row, .start s'.tables)
        | .error _ => .error .integrityError := by
    intro s₁ committed draft retried
    unfold PolicySession.commitOrRetry PolicySession.commitVersion
    dsimp only
    rw [tables_insertVersion]
    cases s₁.insertVersion draft with
    | ok stored => rfl
    | error e => rfl
  have hfind : (PolicySession.start s.tables).working.findPolicy tenantId change.policyKey =
      s.findPolicy tenantId change.policyKey := rfl
  unfold PolicySession.createPolicyVersion PolicySession.nextVersion
    PolicyStore.createPolicyVersion
  rw [hfind]
  cases s.findPolicy tenantId change.policyKey with
  | none =>
      have hflush : (PolicySession.start s.tables).flushPolicy .done tenantId change.policyKey 1 =
          match s.insertPolicy tenantId change.policyKey 1 with
          | .ok (row, s') => .ok (row, ⟨s.tables, s'.tables⟩)
          | .error _ => .error .integrityError := by
        unfold PolicySession.flushPolicy
        dsimp only
        rw [show (PolicySession.start s.tables).working = s.tables from rfl, tables_insertPolicy]
        cases s.insertPolicy tenantId change.policyKey 1 with
        | ok stored => rfl
        | error e => rfl
      dsimp only
      rw [hflush]
      cases s.insertPolicy tenantId change.policyKey 1 with
      | error e => rfl
      | ok stored =>
          dsimp only
          rw [Lib.ok_bind, Lib.ok_bind, Lib.ok_bind, Lib.ok_bind]
          dsimp only
          rw [hcommit]
          cases stored.2.insertVersion (change.row tenantId stored.1.id 1) with
          | ok stored => rfl
          | error e => rfl
  | some p =>
      dsimp only
      rw [Lib.ok_bind, Lib.ok_bind]
      dsimp only
      have hset : s.tables.setCurrentVersion p.id (p.currentVersion + 1) =
          (s.setCurrentVersion p.id (p.currentVersion + 1)).tables := rfl
      rw [show (PolicySession.start s.tables).working = s.tables from rfl, hset, hcommit]
      cases (s.setCurrentVersion p.id (p.currentVersion + 1)).insertVersion
          (change.row tenantId p.id (p.currentVersion + 1)) with
      | ok stored => rfl
      | error e => rfl

/-! ## When the write is the current one -/

/-- The row has what the change asks for. -/
structure PolicyChange.StoredAs (change : PolicyChange) (row : PolicyVersion) : Prop where
  action : row.action = change.action
  effect : row.effect = change.effect
  priority : row.priority = change.priority
  conditions : row.conditions = change.conditions
  state : row.state = change.state

/-- The row that the write returned is the current version of the policy, as requested. -/
def IsCurrentWrite (t : PolicyTables) (tenantId : Int) (change : PolicyChange)
    (result : PolicyMutationResult) : Prop :=
  ∃ policy ∈ t.policies, policy.key = (tenantId, change.policyKey) ∧
    ∃ row ∈ t.versions, row.id = result.id ∧ row.policyId = policy.id ∧
      policy.currentVersion = row.version ∧ change.StoredAs row

/-- What the second commit leaves: the version, in the default state, and the policies as they were
before the write. -/
theorem create_after_locked {t : PolicyTables} {s : PolicySession} {replies : DbReplies}
    {tenantId : Int} {change : PolicyChange} {result : PolicyMutationResult}
    (h : (PolicySession.start t).createPolicyVersion replies tenantId change = .ok (result, s))
    (hlocked : replies.first = .locked) :
    s.committed.policies = t.policies ∧
      ∃ row, result = row.result ∧ row.state = "active" ∧
        s.committed.versions = t.versions ++ [row] ∧
        ∀ p ∈ t.policies, p.key = (tenantId, change.policyKey) →
          row.version = p.currentVersion + 1 := by
  have ⟨⟨policyId, next, s₁⟩, hnext, hcommit⟩ := Lib.bind_eq_ok.mp h
  have ⟨hcommitted, _, _, hpointer⟩ := PolicySession.nextVersion_ok hnext
  have ⟨⟨row, s₂⟩, hstored, hresult⟩ := Lib.bind_eq_ok.mp hcommit
  cases hresult
  rcases PolicySession.commitOrRetry_ok hstored with ⟨hdone, _⟩ | ⟨_, hretried⟩
  · -- the first commit was refused, so it did not pass
    rw [hlocked] at hdone
    cases hdone
  · have ⟨_, hrow, hpolicies, hversions⟩ := PolicySession.commitVersion_ok hretried
    -- the rollback took the new pointer back, and the retry stores the version alone
    have hworking : s₁.rollback.working = t := hcommitted
    rw [hworking] at hpolicies hversions
    refine ⟨hpolicies, row, rfl, ?_, hversions, ?_⟩
    · rw [hrow]
      rfl
    · intro p hp hkey
      rw [hrow]
      exact hpointer p hp hkey

/-- What a first commit that passes leaves. -/
theorem create_when_done {t : PolicyTables} {s : PolicySession} {replies : DbReplies}
    {tenantId : Int} {change : PolicyChange} {result : PolicyMutationResult}
    (h : (PolicySession.start t).createPolicyVersion replies tenantId change = .ok (result, s))
    (hfirst : replies.first = .done) :
    IsCurrentWrite s.committed tenantId change result := by
  have ⟨⟨policyId, next, s₁⟩, hnext, hcommit⟩ := Lib.bind_eq_ok.mp h
  have ⟨_, _, ⟨p, hp, hkey, hid, hcurrent⟩, _⟩ := PolicySession.nextVersion_ok hnext
  have ⟨⟨row, s₂⟩, hstored, hresult⟩ := Lib.bind_eq_ok.mp hcommit
  cases hresult
  rcases PolicySession.commitOrRetry_ok hstored with ⟨_, hdone⟩ | ⟨hlocked, _⟩
  · have ⟨_, hrow, hpolicies, hversions⟩ := PolicySession.commitVersion_ok hdone
    -- one commit for both: the policy points to the version that is stored
    rw [← hpolicies] at hp
    have hmem : row ∈ s.committed.versions := by
      rw [hversions]
      exact List.mem_append_right _ List.mem_cons_self
    refine ⟨p, hp, hkey, row, hmem, rfl, ?_, ?_, ?_⟩
    · rw [hrow, hid]
      rfl
    · rw [hrow, hcurrent]
      rfl
    · rw [hrow]
      exact ⟨rfl, rfl, rfl, rfl, rfl⟩
  · rw [hfirst] at hlocked
    cases hlocked

/-- A write whose first commit was refused is not the current one: no policy of its key points to
its version. -/
theorem not_current_of_locked {t : PolicyTables} {s : PolicySession} {replies : DbReplies}
    {tenantId : Int} {change : PolicyChange} {result : PolicyMutationResult}
    (h : (PolicySession.start t).createPolicyVersion replies tenantId change = .ok (result, s))
    (hlocked : replies.first = .locked) :
    ¬ IsCurrentWrite s.committed tenantId change result := by
  have ⟨hpolicies, row, hresult, _, hversions, hpointer⟩ := create_after_locked h hlocked
  rintro ⟨p, hp, hkey, row', hrow', hid, _, hcurrent, _⟩
  have hmem : row ∈ s.committed.versions := by
    rw [hversions]
    exact List.mem_append_right _ List.mem_cons_self
  have hsame : row' = row := by
    refine Lib.eq_of_key_eq s.committed.versionIds hrow' hmem ?_
    rw [hid, hresult]
    rfl
  rw [hpolicies] at hp
  have hnext := hpointer p hp hkey
  rw [hsame, hnext] at hcurrent
  omega

/-- Whatever the policies and versions are, a write that returns is the current one of its key, as
requested, if and only if its first commit passed. -/
theorem write_is_current_iff {t : PolicyTables} {s : PolicySession} {replies : DbReplies}
    {tenantId : Int} {change : PolicyChange} {result : PolicyMutationResult}
    (h : (PolicySession.start t).createPolicyVersion replies tenantId change = .ok (result, s)) :
    IsCurrentWrite s.committed tenantId change result ↔ replies.first = .done := by
  cases hfirst : replies.first with
  | done => exact ⟨fun _ => rfl, fun _ => create_when_done h hfirst⟩
  | locked =>
      constructor
      · intro hcurrent
        exact absurd hcurrent (not_current_of_locked h hfirst)
      · intro hdone
        cases hdone

/-! ## A policy and its draft -/

/-- A policy with one version. -/
def readTables : PolicyTables where
  foreignKeys := false
  policies := [⟨1, 1, "read", 1⟩]
  versions := [{ readChange.row 1 1 1 with id := 1 }]
  policyIds := by decide
  policyKeys := by decide
  versionIds := by decide
  versionKeys := by decide
  policyRefs := fun h => nomatch h

/-- The next write of the key, on a database that answers, is version 2 and the current one. -/
theorem next_write_current :
    ∃ result s, (PolicySession.start readTables).createPolicyVersion {} 1 readChange =
        .ok (result, s) ∧ s.committed.policies = [⟨1, 1, "read", 2⟩] ∧
      IsCurrentWrite s.committed 1 readChange result := by
  refine ⟨_, _, rfl, rfl, ?_⟩
  exact (@write_is_current_iff readTables _ {} 1 readChange _ rfl).mpr rfl

/-- The same policy, as a draft. -/
def readDraft : PolicyChange := { readChange with state := "draft" }

/-- A draft written while the database is locked for a moment: version 2 is stored in state
`active`, and the policy points to version 1. -/
theorem locked_draft_not_current :
    ∃ result s, (PolicySession.start readTables).createPolicyVersion { first := .locked } 1
        readDraft = .ok (result, s) ∧
      s.committed.versions.map (fun v => (v.id, v.version, v.state)) =
        [(1, 1, "active"), (result.id, 2, "active")] ∧
      s.committed.policies = [⟨1, 1, "read", 1⟩] ∧
      ¬ IsCurrentWrite s.committed 1 readDraft result := by
  refine ⟨_, _, rfl, rfl, rfl, ?_⟩
  exact @not_current_of_locked readTables _ { first := .locked } 1 readDraft _ rfl rfl

end KeyNetra
