import KeyNetra.Engine.PolicyGraph
import KeyNetra.Lib.Runs
import KeyNetra.Lib.Table

/-!
# KeyNetra.Repo.Policies — versioned policies

A policy key owns a row with a movable `current_version` pointer; its versions
are rows of a second table. `PolicyStore` carries the declared constraints, so
a store that violates them cannot be built.

* `createPolicyVersion` / `rollbackPolicy` / `deletePolicy` — the writes;
* `listCurrentPolicies` — the current rows of a policy set, by priority and id;
* `create_iff_at_newest` — over every run, creating a version succeeds exactly
  when the pointer stands at the newest stored version.

The invariant behind the first: the stored versions of a key are `1 … n`, and
the pointer is one of them.
-/

namespace KeyNetra

/-! ## Tables -/

/-- A row of `policies`. -/
structure Policy where
  id : Int
  tenantId : Int
  policyKey : String
  currentVersion : Int
deriving DecidableEq, Repr

/-- A row of `policy_versions`. -/
structure PolicyVersion where
  id : Int
  tenantId : Int
  policyId : Int
  version : Int
  action : String
  effect : String
  priority : Int
  conditions : Dict
  createdBy : Option String
  state : String

/-- The unique key of `policies` besides its id. -/
def Policy.key (p : Policy) : Int × String := (p.tenantId, p.policyKey)

/-- The unique key of `policy_versions` besides its id. -/
def PolicyVersion.key (v : PolicyVersion) : Int × Int := (v.policyId, v.version)

/-- The two tables, with the constraints the database enforces. -/
structure PolicyStore where
  policies : List Policy
  versions : List PolicyVersion
  policyIds : (policies.map Policy.id).Nodup
  policyKeys : (policies.map Policy.key).Nodup
  versionIds : (versions.map PolicyVersion.id).Nodup
  versionKeys : (versions.map PolicyVersion.key).Nodup
  policyRefs : ∀ v ∈ versions, v.policyId ∈ policies.map Policy.id

/-- The store without policies. -/
def PolicyStore.empty : PolicyStore where
  policies := []
  versions := []
  policyIds := List.nodup_nil
  policyKeys := List.nodup_nil
  versionIds := List.nodup_nil
  versionKeys := List.nodup_nil
  policyRefs := fun _ h => absurd h List.not_mem_nil

/-! ## Statements on the tables -/

/-- `select(Policy).where(tenant_id, policy_key)`, its first row. -/
def PolicyStore.findPolicy (s : PolicyStore) (tenantId : Int) (policyKey : String) :
    Option Policy :=
  s.policies.find? fun p => p.key = (tenantId, policyKey)

/-- `INSERT INTO policies`, under the unique constraint. -/
def PolicyStore.insertPolicy (s : PolicyStore) (tenantId : Int) (policyKey : String)
    (currentVersion : Int) : Except PyError (Policy × PolicyStore) :=
  let row : Policy := ⟨Lib.freshId (s.policies.map Policy.id), tenantId, policyKey, currentVersion⟩
  if h : row.key ∈ s.policies.map Policy.key then .error .integrityError
  else .ok (row,
    { s with
      policies := s.policies ++ [row]
      policyIds := Lib.nodup_map_append s.policyIds (Lib.freshId_notMem _)
      policyKeys := Lib.nodup_map_append s.policyKeys h
      policyRefs := fun v hv => by
        rw [List.map_append]
        exact List.mem_append_left _ (s.policyRefs v hv) })

/-- `UPDATE policies SET current_version`. -/
def PolicyStore.setCurrentVersion (s : PolicyStore) (policyId version : Int) : PolicyStore :=
  let update := fun p : Policy => if p.id = policyId then { p with currentVersion := version } else p
  have hid : ∀ p, (update p).id = p.id := fun p => by simp only [update]; split <;> rfl
  have hkey : ∀ p, (update p).key = p.key := fun p => by simp only [update]; split <;> rfl
  { s with
    policies := s.policies.map update
    policyIds := Lib.nodup_map_update hid s.policyIds
    policyKeys := Lib.nodup_map_update hkey s.policyKeys
    policyRefs := fun v hv => by
      have hids : (s.policies.map update).map Policy.id = s.policies.map Policy.id := by
        rw [List.map_map]
        exact List.map_congr_left fun p _ => hid p
      rw [hids]
      exact s.policyRefs v hv }

/-- `INSERT INTO policy_versions`, under the unique and foreign-key constraints. -/
def PolicyStore.insertVersion (s : PolicyStore) (draft : PolicyVersion) :
    Except PyError (PolicyVersion × PolicyStore) :=
  let row := { draft with id := Lib.freshId (s.versions.map PolicyVersion.id) }
  if hkey : row.key ∈ s.versions.map PolicyVersion.key then .error .integrityError
  else if href : row.policyId ∈ s.policies.map Policy.id then
    .ok (row,
      { s with
        versions := s.versions ++ [row]
        versionIds := Lib.nodup_map_append s.versionIds (Lib.freshId_notMem _)
        versionKeys := Lib.nodup_map_append s.versionKeys hkey
        policyRefs := fun v hv => by
          rcases List.mem_append.mp hv with hv | hv
          · exact s.policyRefs v hv
          · rw [List.mem_singleton.mp hv]
            exact href })
  else .error .integrityError

/-- `DELETE FROM policies WHERE id`, cascading to the versions that refer to it. -/
def PolicyStore.deletePolicyRow (s : PolicyStore) (policyId : Int) : PolicyStore :=
  { s with
    policies := s.policies.filter fun p => p.id ≠ policyId
    versions := s.versions.filter fun v => v.policyId ≠ policyId
    policyIds := Lib.nodup_map_filter _ s.policyIds
    policyKeys := Lib.nodup_map_filter _ s.policyKeys
    versionIds := Lib.nodup_map_filter _ s.versionIds
    versionKeys := Lib.nodup_map_filter _ s.versionKeys
    policyRefs := fun v hv => by
      obtain ⟨hv, hne⟩ := List.mem_filter.mp hv
      obtain ⟨p, hp, hpv⟩ := List.mem_map.mp (s.policyRefs v hv)
      refine List.mem_map.mpr ⟨p, List.mem_filter.mpr ⟨hp, ?_⟩, hpv⟩
      rw [hpv]
      exact hne }

/-- `DELETE FROM policy_versions WHERE tenant_id AND policy_id`. -/
def PolicyStore.deleteVersions (s : PolicyStore) (tenantId policyId : Int) : PolicyStore :=
  { s with
    versions := s.versions.filter fun v => ¬(v.tenantId = tenantId ∧ v.policyId = policyId)
    versionIds := Lib.nodup_map_filter _ s.versionIds
    versionKeys := Lib.nodup_map_filter _ s.versionKeys
    policyRefs := fun v hv => s.policyRefs v (List.mem_of_mem_filter hv) }

/-! ## The repository -/

/-- What a new version holds. -/
structure PolicyChange where
  policyKey : String
  action : String
  effect : String
  priority : Int
  conditions : Dict
  createdBy : Option String := none
  state : String := "active"

/-- What `create_policy_version` returns. -/
structure PolicyMutationResult where
  id : Int
  action : String
  effect : String
  priority : Int
  state : String
  conditions : Dict

/-- The version row of a change, its id still to be given. -/
def PolicyChange.row (change : PolicyChange) (tenantId policyId version : Int) : PolicyVersion :=
  { id := 0, tenantId, policyId, version
    action := change.action
    effect := change.effect
    priority := change.priority
    conditions := change.conditions
    createdBy := change.createdBy
    state := change.state }

/-- `SqlPolicyRepository.create_policy_version`. The session commits once, at the
end: a constraint violation leaves the store as it was. -/
def PolicyStore.createPolicyVersion (s : PolicyStore) (tenantId : Int) (change : PolicyChange) :
    Except PyError (PolicyMutationResult × PolicyStore) := do
  let (policyId, nextVersion, s₁) ←
    match s.findPolicy tenantId change.policyKey with
    | none => do
        let (policy, s₁) ← s.insertPolicy tenantId change.policyKey 1
        .ok (policy.id, (1 : Int), s₁)
    | some policy =>
        let nextVersion := policy.currentVersion + 1
        .ok (policy.id, nextVersion, s.setCurrentVersion policy.id nextVersion)
  let (row, s₂) ← s₁.insertVersion (change.row tenantId policyId nextVersion)
  .ok (⟨row.id, row.action, row.effect, row.priority, row.state, row.conditions⟩, s₂)

/-- `SqlPolicyRepository.rollback_policy`. -/
def PolicyStore.rollbackPolicy (s : PolicyStore) (tenantId : Int) (policyKey : String)
    (version : Int) : Except PyError ((String × Int) × PolicyStore) :=
  match s.findPolicy tenantId policyKey with
  | none => .error (.valueError "policy not found")
  | some policy =>
      let existing := s.versions.find? fun v =>
        v.tenantId = tenantId ∧ v.policyId = policy.id ∧ v.version = version
      if existing.isNone then .error (.valueError "version not found")
      else .ok ((policy.policyKey, version), s.setCurrentVersion policy.id version)

/-- `SqlPolicyRepository.delete_policy`. -/
def PolicyStore.deletePolicy (s : PolicyStore) (tenantId : Int) (policyKey : String) :
    PolicyStore :=
  match s.findPolicy tenantId policyKey with
  | none => s
  | some policy => (s.deleteVersions tenantId policy.id).deletePolicyRow policy.id

/-- A listed policy. -/
structure PolicyRecord where
  id : Int
  definition : PolicyDefinition

/-- `str(policy_set or "active").strip().lower()`, other names read as `active`. -/
def normalizedPolicySet (policySet : String) : String :=
  let normalized := pyLower (pyStrip (if policySet = "" then "active" else policySet))
  if normalized ∈ ["draft", "archived", "active"] then normalized else "active"

/-- `row` is the current version of `policy`, in a state of the set. -/
def IsCurrentRow (tenantId : Int) (state : String) (row : PolicyVersion × Policy) : Prop :=
  row.2.id = row.1.policyId ∧ row.2.tenantId = tenantId ∧ row.1.tenantId = tenantId ∧
    row.1.version = row.2.currentVersion ∧ row.1.state = state

instance (tenantId : Int) (state : String) (row : PolicyVersion × Policy) :
    Decidable (IsCurrentRow tenantId state row) := by
  unfold IsCurrentRow
  infer_instance

/-- The join of the two tables. -/
def PolicyStore.joined (s : PolicyStore) : List (PolicyVersion × Policy) :=
  s.versions.flatMap fun v => s.policies.map fun p => (v, p)

/-- `_current_policy_rows`: `ORDER BY priority, id` is the stable sort by id, then
by priority. -/
def PolicyStore.currentPolicyRows (s : PolicyStore) (tenantId : Int) (policySet : String) :
    List (PolicyVersion × Policy) :=
  Lib.sortOn (fun row => row.1.priority) (Lib.sortOn (fun row => row.1.id)
    (s.joined.filter fun row => IsCurrentRow tenantId (normalizedPolicySet policySet) row))

/-- The engine's definition of a current row. -/
def policyRecord (row : PolicyVersion × Policy) : PolicyRecord :=
  { id := row.1.id
    definition :=
      { action := row.1.action
        effect := .ofText row.1.effect
        priority := row.1.priority
        conditions := row.1.conditions
        policyId := some s!"{row.2.policyKey}:v{row.1.version}" } }

/-- The definition the engine is given of a row. -/
def rowDefinition (row : PolicyVersion × Policy) : PolicyDefinition := (policyRecord row).definition

/-- `SqlPolicyRepository.list_current_policies`. -/
def PolicyStore.listCurrentPolicies (s : PolicyStore) (tenantId : Int)
    (policySet : String := "active") : List PolicyRecord :=
  (s.currentPolicyRows tenantId policySet).map policyRecord

/-! ## Spec lemmas of the writes -/

theorem findPolicy_some {s : PolicyStore} {tenantId : Int} {policyKey : String} {p : Policy}
    (h : s.findPolicy tenantId policyKey = some p) :
    p ∈ s.policies ∧ p.tenantId = tenantId ∧ p.policyKey = policyKey := by
  have hkey := List.find?_some h
  simp only [decide_eq_true_eq, Policy.key, Prod.mk.injEq] at hkey
  exact ⟨List.mem_of_find?_eq_some h, hkey.1, hkey.2⟩

theorem findPolicy_none {s : PolicyStore} {tenantId : Int} {policyKey : String}
    (h : s.findPolicy tenantId policyKey = none) :
    ∀ p ∈ s.policies, p.key ≠ (tenantId, policyKey) := by
  intro p hp
  simpa using List.find?_eq_none.mp h p hp

/-- Two policies of one store with one id are one policy. -/
theorem policy_eq_of_id {s : PolicyStore} {p q : Policy} (hp : p ∈ s.policies)
    (hq : q ∈ s.policies) (hid : p.id = q.id) : p = q :=
  Lib.eq_of_key_eq s.policyIds hp hq hid

/-- Inserting a version whose key is free appends it under a fresh id. -/
theorem insertVersion_ok {s : PolicyStore} (draft : PolicyVersion)
    (hkey : ∀ v ∈ s.versions, v.policyId = draft.policyId → v.version ≠ draft.version)
    (href : draft.policyId ∈ s.policies.map Policy.id) :
    ∃ s', s.insertVersion draft =
        .ok ({ draft with id := Lib.freshId (s.versions.map PolicyVersion.id) }, s') ∧
      s'.policies = s.policies ∧
      s'.versions =
        s.versions ++ [{ draft with id := Lib.freshId (s.versions.map PolicyVersion.id) }] := by
  have hfree : draft.key ∉ s.versions.map PolicyVersion.key := by
    intro hmem
    obtain ⟨v, hv, hvk⟩ := List.mem_map.mp hmem
    simp only [PolicyVersion.key, Prod.mk.injEq] at hvk
    exact hkey v hv hvk.1 hvk.2
  unfold PolicyStore.insertVersion
  dsimp only
  split
  · rename_i htaken
    exact absurd htaken hfree
  · exact ⟨_, rfl, rfl, rfl⟩

/-- Inserting a version whose key is taken violates the constraint. -/
theorem insertVersion_taken {s : PolicyStore} {draft v : PolicyVersion} (hv : v ∈ s.versions)
    (hid : v.policyId = draft.policyId) (hversion : v.version = draft.version) :
    s.insertVersion draft = .error .integrityError := by
  have htaken : draft.key ∈ s.versions.map PolicyVersion.key :=
    List.mem_map.mpr ⟨v, hv, by simp [PolicyVersion.key, hid, hversion]⟩
  unfold PolicyStore.insertVersion
  dsimp only
  split
  · rfl
  · rename_i hfree
    exact absurd htaken hfree

/-- The result of a write that stored `row`. -/
def PolicyVersion.result (row : PolicyVersion) : PolicyMutationResult :=
  ⟨row.id, row.action, row.effect, row.priority, row.state, row.conditions⟩

/-- The row a create appends: a fresh id, otherwise the change's own data. -/
def PolicyStore.newRow (s : PolicyStore) (tenantId policyId version : Int)
    (change : PolicyChange) : PolicyVersion :=
  { change.row tenantId policyId version with
    id := Lib.freshId (s.versions.map PolicyVersion.id) }

/-- Creating the first version of a key always succeeds. -/
theorem create_new {s : PolicyStore} {tenantId : Int} {change : PolicyChange}
    (h : s.findPolicy tenantId change.policyKey = none) :
    ∃ s', s.createPolicyVersion tenantId change =
        .ok ((s.newRow tenantId (Lib.freshId (s.policies.map Policy.id)) 1 change).result, s') ∧
      s'.policies = s.policies ++
        [⟨Lib.freshId (s.policies.map Policy.id), tenantId, change.policyKey, 1⟩] ∧
      s'.versions = s.versions ++
        [s.newRow tenantId (Lib.freshId (s.policies.map Policy.id)) 1 change] := by
  have hfree : (tenantId, change.policyKey) ∉ s.policies.map Policy.key := by
    intro hmem
    obtain ⟨p, hp, hpk⟩ := List.mem_map.mp hmem
    exact findPolicy_none h p hp hpk
  have hinsert : ∃ s₁, s.insertPolicy tenantId change.policyKey 1 =
      .ok (⟨Lib.freshId (s.policies.map Policy.id), tenantId, change.policyKey, 1⟩, s₁) ∧
      s₁.policies = s.policies ++
        [⟨Lib.freshId (s.policies.map Policy.id), tenantId, change.policyKey, 1⟩] ∧
      s₁.versions = s.versions := by
    unfold PolicyStore.insertPolicy
    dsimp only
    split
    · rename_i htaken
      exact absurd htaken hfree
    · exact ⟨_, rfl, rfl, rfl⟩
  obtain ⟨s₁, hs₁, hpolicies, hversions⟩ := hinsert
  have hkey : ∀ v ∈ s₁.versions, v.policyId = Lib.freshId (s.policies.map Policy.id) →
      v.version ≠ 1 := by
    intro v hv hid
    rw [hversions] at hv
    -- no stored version refers to the fresh policy id
    exact absurd (hid ▸ s.policyRefs v hv) (Lib.freshId_notMem _)
  have href : Lib.freshId (s.policies.map Policy.id) ∈ s₁.policies.map Policy.id := by
    rw [hpolicies]
    simp
  obtain ⟨s', hs', hpolicies', hversions'⟩ := insertVersion_ok
    (change.row tenantId (Lib.freshId (s.policies.map Policy.id)) 1) hkey href
  rw [hversions] at hs' hversions'
  refine ⟨s', ?_, hpolicies'.trans hpolicies, hversions'⟩
  unfold PolicyStore.createPolicyVersion
  rw [h]
  simp only [hs₁, Lib.ok_bind, hs']
  rfl

/-- Creating a further version succeeds when the number after the pointer is free. -/
theorem create_existing {s : PolicyStore} {tenantId : Int} {change : PolicyChange} {p : Policy}
    (h : s.findPolicy tenantId change.policyKey = some p)
    (hfree : ∀ v ∈ s.versions, v.policyId = p.id → v.version ≠ p.currentVersion + 1) :
    ∃ s', s.createPolicyVersion tenantId change =
        .ok ((s.newRow tenantId p.id (p.currentVersion + 1) change).result, s') ∧
      s'.policies = (s.setCurrentVersion p.id (p.currentVersion + 1)).policies ∧
      s'.versions = s.versions ++ [s.newRow tenantId p.id (p.currentVersion + 1) change] := by
  have href : p.id ∈ (s.setCurrentVersion p.id (p.currentVersion + 1)).policies.map Policy.id := by
    refine List.mem_map.mpr ⟨_, List.mem_map.mpr ⟨p, (findPolicy_some h).1, rfl⟩, ?_⟩
    split <;> rfl
  obtain ⟨s', hs', hpolicies, hversions⟩ := insertVersion_ok
    (s := s.setCurrentVersion p.id (p.currentVersion + 1))
    (change.row tenantId p.id (p.currentVersion + 1)) hfree href
  refine ⟨s', ?_, hpolicies, hversions⟩
  unfold PolicyStore.createPolicyVersion
  rw [h]
  simp only [Lib.ok_bind, hs']
  rfl

/-- It fails when that number is taken. -/
theorem create_taken {s : PolicyStore} {tenantId : Int} {change : PolicyChange} {p : Policy}
    {v : PolicyVersion} (h : s.findPolicy tenantId change.policyKey = some p)
    (hv : v ∈ s.versions) (hid : v.policyId = p.id) (hversion : v.version = p.currentVersion + 1) :
    s.createPolicyVersion tenantId change = .error .integrityError := by
  have htaken : (s.setCurrentVersion p.id (p.currentVersion + 1)).insertVersion
      (change.row tenantId p.id (p.currentVersion + 1)) = .error .integrityError :=
    insertVersion_taken (s := s.setCurrentVersion p.id (p.currentVersion + 1)) hv hid hversion
  unfold PolicyStore.createPolicyVersion
  rw [h]
  simp only [Lib.ok_bind, htaken, Lib.error_bind]

/-! ## Runs of the repository -/

/-- A call of the repository. -/
inductive PolicyOp where
  | create (tenantId : Int) (change : PolicyChange)
  | rollback (tenantId : Int) (policyKey : String) (version : Int)
  | delete (tenantId : Int) (policyKey : String)

/-- One call; a call that raises leaves the store as it was. -/
def PolicyStore.step (s : PolicyStore) : PolicyOp → PolicyStore
  | .create tenantId change =>
      match s.createPolicyVersion tenantId change with
      | .ok (_, s') => s'
      | .error _ => s
  | .rollback tenantId policyKey version =>
      match s.rollbackPolicy tenantId policyKey version with
      | .ok (_, s') => s'
      | .error _ => s
  | .delete tenantId policyKey => s.deletePolicy tenantId policyKey

/-- Version `w` of the policy with id `policyId` is stored. -/
def PolicyStore.Stored (s : PolicyStore) (policyId w : Int) : Prop :=
  ∃ v ∈ s.versions, v.policyId = policyId ∧ v.version = w

/-- A rollback that returns has moved the pointer to a stored version. -/
theorem rollback_ok {s : PolicyStore} {tenantId version : Int} {policyKey : String}
    {result : (String × Int) × PolicyStore}
    (h : s.rollbackPolicy tenantId policyKey version = .ok result) :
    ∃ p, s.findPolicy tenantId policyKey = some p ∧ s.Stored p.id version ∧
      result.2 = s.setCurrentVersion p.id version := by
  unfold PolicyStore.rollbackPolicy at h
  cases hfind : s.findPolicy tenantId policyKey with
  -- no policy of the key
  | none =>
      rw [hfind] at h
      cases h
  | some p =>
      rw [hfind] at h
      dsimp only at h
      cases hv : s.versions.find? fun v =>
          v.tenantId = tenantId ∧ v.policyId = p.id ∧ v.version = version with
      -- no such version of it
      | none =>
          simp only [hv, Option.isNone_none, if_true] at h
          cases h
      | some v =>
          simp only [hv, Option.isNone_some, Bool.false_eq_true, if_false, Except.ok.injEq] at h
          subst h
          have hfound := List.find?_some hv
          simp only [decide_eq_true_eq] at hfound
          exact ⟨p, rfl, ⟨v, List.mem_of_find?_eq_some hv, hfound.2.1, hfound.2.2⟩, rfl⟩

/-- The invariant of the repository: the stored versions of every policy are
`1 … n`, and its pointer is one of them. -/
def PolicyStore.Contiguous (s : PolicyStore) : Prop :=
  ∀ p ∈ s.policies, ∃ n, (∀ w, s.Stored p.id w ↔ 1 ≤ w ∧ w ≤ n) ∧
    1 ≤ p.currentVersion ∧ p.currentVersion ≤ n

theorem contiguous_empty : PolicyStore.empty.Contiguous := by
  intro p hp
  cases hp

theorem mem_setCurrentVersion {s : PolicyStore} {policyId version : Int} {p : Policy} :
    p ∈ (s.setCurrentVersion policyId version).policies ↔
      ∃ q ∈ s.policies, p = if q.id = policyId then { q with currentVersion := version } else q := by
  simp only [PolicyStore.setCurrentVersion, List.mem_map]
  constructor
  · rintro ⟨q, hq, rfl⟩
    exact ⟨q, hq, rfl⟩
  · rintro ⟨q, hq, rfl⟩
    exact ⟨q, hq, rfl⟩

/-- Moving the pointer of a policy to one of its stored versions keeps the invariant. -/
theorem contiguous_setCurrentVersion {s : PolicyStore} (h : s.Contiguous) {policyId w : Int}
    (hw : s.Stored policyId w) : (s.setCurrentVersion policyId w).Contiguous := by
  intro p hp
  obtain ⟨q, hq, rfl⟩ := mem_setCurrentVersion.mp hp
  obtain ⟨n, hn, hlow, hhigh⟩ := h q hq
  split
  · rename_i hid
    have hrange := (hn w).mp (hid ▸ hw)
    exact ⟨n, hn, hrange.1, hrange.2⟩
  · exact ⟨n, hn, hlow, hhigh⟩

/-- Appending the version the pointer is moved to, just above the others. -/
theorem contiguous_append {s s' : PolicyStore} (h : s.Contiguous) {p : Policy}
    (hp : p ∈ s.policies) {row : PolicyVersion} (hid : row.policyId = p.id)
    (hversion : row.version = p.currentVersion + 1)
    (hfree : ∀ v ∈ s.versions, v.policyId = p.id → v.version ≠ p.currentVersion + 1)
    (hpolicies : s'.policies = (s.setCurrentVersion p.id (p.currentVersion + 1)).policies)
    (hversions : s'.versions = s.versions ++ [row]) : s'.Contiguous := by
  have hstored : ∀ policyId w, s'.Stored policyId w ↔
      s.Stored policyId w ∨ (p.id = policyId ∧ p.currentVersion + 1 = w) := by
    intro policyId w
    simp only [PolicyStore.Stored, hversions, List.mem_append, List.mem_singleton, or_and_right,
      exists_or, exists_eq_left, hid, hversion]
  intro q' hq'
  rw [hpolicies] at hq'
  obtain ⟨q, hq, rfl⟩ := mem_setCurrentVersion.mp hq'
  obtain ⟨n, hn, hlow, hhigh⟩ := h q hq
  split
  · -- the policy that was written: its pointer stood at the newest version
    rename_i hqp
    have hqeq : q = p := policy_eq_of_id hq hp hqp
    subst hqeq
    have hnewest : n = q.currentVersion := by
      by_contra hne
      have hin : s.Stored q.id (q.currentVersion + 1) := (hn _).mpr ⟨by omega, by omega⟩
      obtain ⟨v, hv, hvid, hvw⟩ := hin
      exact hfree v hv hvid hvw
    refine ⟨n + 1, fun w => ?_, by show 1 ≤ q.currentVersion + 1; omega,
      by show q.currentVersion + 1 ≤ n + 1; omega⟩
    rw [hstored, hn]
    constructor
    · rintro (hw | ⟨-, hw⟩) <;> omega
    · intro hw
      by_cases hwn : w ≤ n
      · exact Or.inl ⟨hw.1, hwn⟩
      · exact Or.inr ⟨rfl, by omega⟩
  · -- another policy: none of its rows changed
    rename_i hqp
    refine ⟨n, fun w => ?_, hlow, hhigh⟩
    rw [hstored, hn]
    constructor
    · rintro (hw | ⟨hpq, -⟩)
      · exact hw
      · exact absurd hpq.symm hqp
    · exact Or.inl

/-- Creating the first version of a key keeps the invariant. -/
theorem contiguous_insert {s s' : PolicyStore} (h : s.Contiguous) {tenantId : Int}
    {policyKey : String} {row : PolicyVersion}
    (hid : row.policyId = Lib.freshId (s.policies.map Policy.id)) (hversion : row.version = 1)
    (hpolicies : s'.policies = s.policies ++
      [⟨Lib.freshId (s.policies.map Policy.id), tenantId, policyKey, 1⟩])
    (hversions : s'.versions = s.versions ++ [row]) : s'.Contiguous := by
  have hstored : ∀ policyId w, s'.Stored policyId w ↔
      s.Stored policyId w ∨ (Lib.freshId (s.policies.map Policy.id) = policyId ∧ 1 = w) := by
    intro policyId w
    simp only [PolicyStore.Stored, hversions, List.mem_append, List.mem_singleton, or_and_right,
      exists_or, exists_eq_left, hid, hversion]
  have hfresh : ∀ w, ¬ s.Stored (Lib.freshId (s.policies.map Policy.id)) w := by
    rintro w ⟨v, hv, hvid, -⟩
    exact absurd (hvid ▸ s.policyRefs v hv) (Lib.freshId_notMem _)
  intro p hp
  rw [hpolicies] at hp
  rcases List.mem_append.mp hp with hp | hp
  · -- an old policy does not have the fresh id
    obtain ⟨n, hn, hlow, hhigh⟩ := h p hp
    refine ⟨n, fun w => ?_, hlow, hhigh⟩
    rw [hstored, hn]
    constructor
    · rintro (hw | ⟨hpid, -⟩)
      · exact hw
      · have hmem : p.id ∈ s.policies.map Policy.id := List.mem_map.mpr ⟨p, hp, rfl⟩
        exact absurd (hpid ▸ hmem) (Lib.freshId_notMem _)
    · exact Or.inl
  · rw [List.mem_singleton.mp hp]
    refine ⟨1, fun w => ?_, le_refl _, le_refl _⟩
    rw [hstored]
    constructor
    · rintro (hw | ⟨-, hw⟩)
      · exact absurd hw (hfresh w)
      · omega
    · intro hw
      exact Or.inr ⟨rfl, by omega⟩

/-- Deleting a policy keeps the invariant for the others. -/
theorem contiguous_delete {s : PolicyStore} (h : s.Contiguous) (tenantId policyId : Int) :
    ((s.deleteVersions tenantId policyId).deletePolicyRow policyId).Contiguous := by
  intro p hp
  obtain ⟨hp, hne⟩ := List.mem_filter.mp hp
  have hne : p.id ≠ policyId := by simpa using hne
  obtain ⟨n, hn, hlow, hhigh⟩ := h p hp
  refine ⟨n, fun w => ?_, hlow, hhigh⟩
  rw [← hn]
  constructor
  · rintro ⟨v, hv, hvid, hvw⟩
    exact ⟨v, List.mem_of_mem_filter (List.mem_of_mem_filter hv), hvid, hvw⟩
  · rintro ⟨v, hv, hvid, hvw⟩
    refine ⟨v, List.mem_filter.mpr ⟨List.mem_filter.mpr ⟨hv, ?_⟩, ?_⟩, hvid, hvw⟩
    · simp [hvid, hne]
    · simp [hvid, hne]

/-- Every call keeps the invariant. -/
theorem contiguous_step (s : PolicyStore) (op : PolicyOp) (h : s.Contiguous) :
    (s.step op).Contiguous := by
  cases op with
  | create tenantId change =>
      unfold PolicyStore.step
      cases hfind : s.findPolicy tenantId change.policyKey with
      | none =>
          obtain ⟨s', hs', hpolicies, hversions⟩ := create_new hfind
          simp only [hs']
          exact contiguous_insert h rfl rfl hpolicies hversions
      | some p =>
          by_cases hfree : ∀ v ∈ s.versions, v.policyId = p.id → v.version ≠ p.currentVersion + 1
          · obtain ⟨s', hs', hpolicies, hversions⟩ := create_existing hfind hfree
            simp only [hs']
            exact contiguous_append h (findPolicy_some hfind).1 rfl rfl hfree hpolicies hversions
          · -- the number is taken: the session rolls back
            push Not at hfree
            obtain ⟨v, hv, hvid, hvw⟩ := hfree
            simp only [create_taken hfind hv hvid hvw]
            exact h
  | rollback tenantId policyKey version =>
      unfold PolicyStore.step
      cases hroll : s.rollbackPolicy tenantId policyKey version with
      | error e => simpa [hroll] using h
      | ok result =>
          obtain ⟨p, -, hstored, hs'⟩ := rollback_ok hroll
          simp only [hroll, hs']
          exact contiguous_setCurrentVersion h hstored
  | delete tenantId policyKey =>
      show (s.deletePolicy tenantId policyKey).Contiguous
      unfold PolicyStore.deletePolicy
      cases s.findPolicy tenantId policyKey with
      | none => exact h
      | some p => exact contiguous_delete h tenantId p.id

/-! ## When creating a version succeeds -/

/-- A create succeeds: it writes the change under a version number the policy did
not have, and the pointer then points to that row and no other. -/
def PolicyStore.CreateSucceeds (s : PolicyStore) : PolicyOp → Prop
  | .create tenantId change => ∃ row s',
      s.createPolicyVersion tenantId change = .ok (row.result, s') ∧
      (∀ v ∈ s.versions, v.policyId = row.policyId → v.version ≠ row.version) ∧
      ∃ p ∈ s'.policies, p.key = (tenantId, change.policyKey) ∧
        row = { change.row tenantId p.id p.currentVersion with id := row.id } ∧
        ∀ v ∈ s'.versions, v.policyId = p.id ∧ v.version = p.currentVersion ↔ v = row
  | _ => True

/-- A create is made while the key's pointer stands at its newest stored version. -/
def PolicyStore.AtNewest (s : PolicyStore) : PolicyOp → Prop
  | .create tenantId change => ∀ p ∈ s.policies, p.key = (tenantId, change.policyKey) →
      ∀ v ∈ s.versions, v.policyId = p.id → v.version ≤ p.currentVersion
  | _ => True

/-- The row of a key that is written last is the only one under its number. -/
theorem versions_unique {s s' : PolicyStore} {row : PolicyVersion}
    (hversions : s'.versions = s.versions ++ [row]) :
    ∀ v ∈ s'.versions, v.policyId = row.policyId ∧ v.version = row.version ↔ v = row := by
  intro v hv
  have hrow : row ∈ s'.versions := by
    rw [hversions]
    exact List.mem_append_right _ (List.mem_singleton.mpr rfl)
  constructor
  · rintro ⟨hid, hversion⟩
    refine Lib.eq_of_key_eq s'.versionKeys hv hrow ?_
    simp [PolicyVersion.key, hid, hversion]
  · rintro rfl
    exact ⟨rfl, rfl⟩

/-- In a store the repository can reach, a create succeeds exactly when the
pointer of its key stands at the newest stored version. -/
theorem createSucceeds_iff (s : PolicyStore) (op : PolicyOp) (h : s.Contiguous) :
    s.CreateSucceeds op ↔ s.AtNewest op := by
  cases op with
  | create tenantId change =>
      cases hfind : s.findPolicy tenantId change.policyKey with
      | none =>
          -- a new key: both sides hold
          constructor
          · intro _ p hp hkey
            exact absurd hkey (findPolicy_none hfind p hp)
          · intro _
            obtain ⟨s', hs', hpolicies, hversions⟩ := create_new hfind
            refine ⟨_, s', hs', ?_, ⟨_, tenantId, change.policyKey, 1⟩, ?_, rfl, rfl,
              versions_unique hversions⟩
            · intro v hv hid
              exact absurd (hid ▸ s.policyRefs v hv) (Lib.freshId_notMem _)
            · rw [hpolicies]
              exact List.mem_append_right _ (List.mem_singleton.mpr rfl)
      | some p =>
          obtain ⟨hp, htenant, hkey⟩ := findPolicy_some hfind
          obtain ⟨n, hn, hlow, hhigh⟩ := h p hp
          constructor
          · -- it succeeded, so the number after the pointer was free
            rintro ⟨row, s', hs', -⟩ q hq hqkey v hv hvid
            have hqp : q = p := Lib.eq_of_key_eq s.policyKeys hq hp (by
              rw [hqkey, Policy.key, htenant, hkey])
            subst hqp
            have hrange := (hn v.version).mp ⟨v, hv, hvid, rfl⟩
            by_contra hgt
            have hstored : s.Stored q.id (q.currentVersion + 1) :=
              (hn _).mpr ⟨by omega, by omega⟩
            obtain ⟨w, hw, hwid, hwversion⟩ := hstored
            rw [create_taken hfind hw hwid hwversion] at hs'
            cases hs'
          · -- the pointer is at the newest version, so the next number is free
            intro hnewest
            have hfree : ∀ v ∈ s.versions, v.policyId = p.id →
                v.version ≠ p.currentVersion + 1 := by
              intro v hv hvid hversion
              have hle := hnewest p hp (by rw [Policy.key, htenant, hkey]) v hv hvid
              omega
            obtain ⟨s', hs', hpolicies, hversions⟩ := create_existing hfind hfree
            refine ⟨_, s', hs', hfree, { p with currentVersion := p.currentVersion + 1 }, ?_, ?_,
              rfl, versions_unique hversions⟩
            · rw [hpolicies]
              exact mem_setCurrentVersion.mpr ⟨p, hp, by rw [if_pos rfl]⟩
            · show (p.tenantId, p.policyKey) = _
              rw [htenant, hkey]
  | rollback tenantId policyKey version => exact Iff.rfl
  | delete tenantId policyKey => exact Iff.rfl

/-- Over every run from the empty repository: all creates of the run succeed,
write a number the policy did not have and leave the pointer at exactly their
row, if and only if each is made while the pointer of its key stands at the
newest stored version. -/
theorem create_iff_at_newest (ops : List PolicyOp) :
    Lib.Along PolicyStore.step PolicyStore.CreateSucceeds PolicyStore.empty ops ↔
      Lib.Along PolicyStore.step PolicyStore.AtNewest PolicyStore.empty ops :=
  Lib.along_iff (fun s op h _ => contiguous_step s op h) createSucceeds_iff contiguous_empty

/-- A change of the policy `read`. -/
def readChange : PolicyChange where
  policyKey := "read"
  action := "read"
  effect := "allow"
  priority := 10
  conditions := []

/-- Two versions, and a rollback to the first. -/
def rolledBack : List PolicyOp :=
  [.create 1 readChange, .create 1 readChange, .rollback 1 "read" 1]

/-- After a rollback the number after the pointer is that of the second version,
so a third create is refused. -/
theorem create_after_rollback_fails :
    (Lib.run PolicyStore.step PolicyStore.empty rolledBack).createPolicyVersion 1 readChange =
        .error .integrityError ∧
      ¬ Lib.Along PolicyStore.step PolicyStore.CreateSucceeds PolicyStore.empty
        (rolledBack ++ [.create 1 readChange]) := by
  have hfails : (Lib.run PolicyStore.step PolicyStore.empty rolledBack).createPolicyVersion 1
      readChange = .error .integrityError := rfl
  refine ⟨hfails, ?_⟩
  intro hrun
  obtain ⟨row, s', hs', -⟩ := Lib.Along.at hrun
  rw [hfails] at hs'
  cases hs'

end KeyNetra
