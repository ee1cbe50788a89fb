import KeyNetra.Repo.Policies

/-!
# KeyNetra.Repo.CurrentRows — what a write does to the current rows

The listing joins the versions with the policies that point to them and keeps one
state. Deleting a key, and giving it a version of another state, both take the key's
row out of the listing, and leave the other rows as they were.

* `currentRows_delete` — after `delete_policy`;
* `currentRows_create` / `currentRows_create_listed` — after `create_policy_version` with a
  state that is not listed, and with the state that is;
* `list_unchanged_iff` — such a version leaves the list as it was exactly when it is
  refused, or the key has no row in the list.
-/

namespace KeyNetra

section CurrentRows

variable {s s' : PolicyStore} {tenantId : Int} {policyKey : String}

/-- The rows of one version. -/
def versionRows (policies : List Policy) (tenantId : Int) (state : String) (v : PolicyVersion) :
    List (PolicyVersion × Policy) :=
  (policies.filter fun p => IsCurrentRow tenantId state (v, p)).map (v, ·)

theorem filter_joined (s : PolicyStore) (tenantId : Int) (state : String) :
    (s.joined.filter fun row => IsCurrentRow tenantId state row) =
      s.versions.flatMap (versionRows s.policies tenantId state) := by
  unfold PolicyStore.joined versionRows
  rw [List.filter_flatMap]
  simp only [List.filter_map]
  rfl

/-- The rows of one version, without those of a key. -/
theorem versionRows_filter (policies : List Policy) (tenantId : Int) (state policyKey : String)
    (v : PolicyVersion) :
    (versionRows policies tenantId state v).filter (fun row => row.2.policyKey ≠ policyKey) =
      (policies.filter fun p => IsCurrentRow tenantId state (v, p) ∧
        p.policyKey ≠ policyKey).map (v, ·) := by
  unfold versionRows
  rw [List.filter_map, List.filter_filter]
  congr 1
  apply List.filter_congr
  intro p _
  simp [and_comm]

/-- Two listings agree, up to the rows of a key, when the rows of each version do. -/
theorem currentRows_of_versionRows {policySet : String}
    (h : s'.versions.flatMap (versionRows s'.policies tenantId (normalizedPolicySet policySet)) =
      s.versions.flatMap fun v => (versionRows s.policies tenantId
        (normalizedPolicySet policySet) v).filter fun row => row.2.policyKey ≠ policyKey) :
    s'.currentPolicyRows tenantId policySet =
      (s.currentPolicyRows tenantId policySet).filter fun row => row.2.policyKey ≠ policyKey := by
  unfold PolicyStore.currentPolicyRows
  rw [Lib.sortOn_filter, Lib.sortOn_filter, filter_joined, filter_joined, List.filter_flatMap, h]

/-! ## Deleting -/

/-- Among the policies of a tenant, the key tells the policy. -/
theorem id_ne_iff {p q : Policy} (hp : s.findPolicy tenantId policyKey = some p)
    (hq : q ∈ s.policies) (htenant : q.tenantId = tenantId) :
    q.id ≠ p.id ↔ q.policyKey ≠ policyKey := by
  rcases findPolicy_some hp with ⟨hmem, hptenant, hpkey⟩
  constructor
  · intro hid hkey
    apply hid
    have hsame : q = p := by
      apply Lib.eq_of_key_eq s.policyKeys hq hmem
      unfold Policy.key
      rw [htenant, hkey, hptenant, hpkey]
    rw [hsame]
  · intro hkey hid
    apply hkey
    rw [policy_eq_of_id hq hmem hid]
    exact hpkey

/-- A key the tenant does not have takes nothing out. -/
theorem filter_unknown (h : s.findPolicy tenantId policyKey = none) (state : String)
    (v : PolicyVersion) :
    (s.policies.filter fun p => IsCurrentRow tenantId state (v, p) ∧ p.policyKey ≠ policyKey) =
      s.policies.filter fun p => IsCurrentRow tenantId state (v, p) := by
  apply List.filter_congr
  intro p hp
  have hkey := findPolicy_none h p hp
  rw [decide_eq_decide]
  refine ⟨And.left, fun hcurrent => ⟨hcurrent, ?_⟩⟩
  intro hsame
  apply hkey
  unfold Policy.key
  rw [hcurrent.2.1, hsame]

/-- A version of a deleted policy has no rows. -/
theorem versionRows_deleted (policies : List Policy) (tenantId : Int) (state : String)
    {v : PolicyVersion} {policyId : Int} (hv : v.policyId = policyId) :
    versionRows (policies.filter fun p => p.id ≠ policyId) tenantId state v = [] := by
  unfold versionRows
  rw [List.map_eq_nil_iff, List.filter_eq_nil_iff]
  intro p hp hcurrent
  have hid : p.id ≠ policyId := by simpa using (List.mem_filter.mp hp).2
  have hcurrent : IsCurrentRow tenantId state (v, p) := by simpa using hcurrent
  exact hid (hcurrent.1.trans hv)

/-- Deleting a key takes its rows out of the listing. -/
theorem currentRows_delete (s : PolicyStore) (tenantId : Int) (policyKey policySet : String) :
    (s.deletePolicy tenantId policyKey).currentPolicyRows tenantId policySet =
      (s.currentPolicyRows tenantId policySet).filter fun row => row.2.policyKey ≠ policyKey := by
  apply currentRows_of_versionRows
  unfold PolicyStore.deletePolicy
  cases hfind : s.findPolicy tenantId policyKey with
  | none =>
      dsimp only
      apply List.flatMap_congr
      intro v _
      rw [versionRows_filter, filter_unknown hfind]
      rfl
  | some p =>
      have hnil : ∀ v : PolicyVersion, v.policyId = p.id →
          versionRows (s.policies.filter fun q => q.id ≠ p.id) tenantId
            (normalizedPolicySet policySet) v = [] :=
        fun v hv => versionRows_deleted s.policies tenantId _ hv
      show (((s.versions.filter _).filter _).flatMap
        (versionRows (s.policies.filter fun q => q.id ≠ p.id) tenantId _)) = _
      -- the versions of the deleted policy join with nothing on either side
      rw [Lib.flatMap_filter_of_nil, Lib.flatMap_filter_of_nil]
      · apply List.flatMap_congr
        intro v _
        rw [versionRows_filter]
        unfold versionRows
        rw [List.filter_filter]
        congr 1
        apply List.filter_congr
        intro q hq
        rw [← Bool.decide_and, decide_eq_decide]
        apply and_congr_right
        intro hcurrent
        exact id_ne_iff hfind hq hcurrent.2.1
      · intro v _ hv
        have hdropped : v.tenantId = tenantId ∧ v.policyId = p.id := by simpa using hv
        exact hnil v hdropped.2
      · intro v _ hv
        have hdropped : v.policyId = p.id := by simpa using hv
        exact hnil v hdropped

/-! ## Another state -/

/-- What a create leaves of the tables. -/
inductive Created (s s' : PolicyStore) (tenantId : Int) (change : PolicyChange) : Prop where
  /-- The key is new. -/
  | first
      (unknown : s.findPolicy tenantId change.policyKey = none)
      (policies : s'.policies = s.policies ++
        [⟨Lib.freshId (s.policies.map Policy.id), tenantId, change.policyKey, 1⟩])
      (versions : s'.versions = s.versions ++
        [s.newRow tenantId (Lib.freshId (s.policies.map Policy.id)) 1 change])
  /-- The pointer of the key moves to a number that was free. -/
  | next (p : Policy)
      (found : s.findPolicy tenantId change.policyKey = some p)
      (free : ∀ v ∈ s.versions, v.policyId = p.id → v.version ≠ p.currentVersion + 1)
      (policies : s'.policies = (s.setCurrentVersion p.id (p.currentVersion + 1)).policies)
      (versions : s'.versions =
        s.versions ++ [s.newRow tenantId p.id (p.currentVersion + 1) change])

theorem created_of_ok {change : PolicyChange} {result : PolicyMutationResult}
    (h : s.createPolicyVersion tenantId change = .ok (result, s')) :
    Created s s' tenantId change := by
  cases hfind : s.findPolicy tenantId change.policyKey with
  | none =>
      rcases create_new hfind with ⟨t, ht, hpolicies, hversions⟩
      rw [ht] at h
      cases h
      exact .first hfind hpolicies hversions
  | some p =>
      by_cases hfree : ∀ v ∈ s.versions, v.policyId = p.id → v.version ≠ p.currentVersion + 1
      · rcases create_existing hfind hfree with ⟨t, ht, hpolicies, hversions⟩
        rw [ht] at h
        cases h
        exact .next p hfind hfree hpolicies hversions
      · push Not at hfree
        rcases hfree with ⟨v, hv, hid, hversion⟩
        rw [create_taken hfind hv hid hversion] at h
        cases h

/-- A version of another state has no rows. -/
theorem versionRows_of_state (policies : List Policy) (tenantId : Int) {state : String}
    {v : PolicyVersion} (h : v.state ≠ state) : versionRows policies tenantId state v = [] := by
  unfold versionRows
  rw [List.map_eq_nil_iff, List.filter_eq_nil_iff]
  intro p _ hcurrent
  have hcurrent : IsCurrentRow tenantId state (v, p) := by simpa using hcurrent
  exact h hcurrent.2.2.2.2

/-- Moving the pointer of a policy to a free number takes its rows out. -/
theorem rows_moved {p : Policy} (hfound : s.findPolicy tenantId policyKey = some p)
    (hfree : ∀ v ∈ s.versions, v.policyId = p.id → v.version ≠ p.currentVersion + 1)
    {state : String} {v : PolicyVersion} (hv : v ∈ s.versions) :
    ((s.setCurrentVersion p.id (p.currentVersion + 1)).policies.filter fun q =>
        IsCurrentRow tenantId state (v, q)).map (v, ·) =
      (s.policies.filter fun q => IsCurrentRow tenantId state (v, q) ∧
        q.policyKey ≠ policyKey).map (v, ·) := by
  unfold PolicyStore.setCurrentVersion
  dsimp only
  rw [List.filter_map, List.map_map]
  have hkept : (s.policies.filter ((fun q => decide (IsCurrentRow tenantId state (v, q))) ∘
      fun q => if q.id = p.id then { q with currentVersion := p.currentVersion + 1 } else q)) =
      s.policies.filter fun q => IsCurrentRow tenantId state (v, q) ∧ q.policyKey ≠ policyKey := by
    apply List.filter_congr
    intro q hq
    rw [Function.comp_apply, decide_eq_decide]
    split
    · -- the policy itself: no version has the new number
      rename_i hid
      have hqp : q = p := policy_eq_of_id hq (findPolicy_some hfound).1 hid
      constructor
      · intro hcurrent
        exact absurd hcurrent.2.2.2.1 (hfree v hv (hcurrent.1.symm.trans hid))
      · rintro ⟨-, hkey⟩
        rw [hqp] at hkey
        exact absurd (findPolicy_some hfound).2.2 hkey
    · rename_i hid
      constructor
      · intro hcurrent
        exact ⟨hcurrent, (id_ne_iff hfound hq hcurrent.2.1).mp hid⟩
      · exact And.left
  rw [hkept]
  apply List.map_congr_left
  intro q hq
  have hkey : IsCurrentRow tenantId state (v, q) ∧ q.policyKey ≠ policyKey := by
    simpa using (List.mem_filter.mp hq).2
  have hid : q.id ≠ p.id :=
    (id_ne_iff hfound (List.mem_of_mem_filter hq) hkey.1.2.1).mpr hkey.2
  rw [Function.comp_apply, if_neg hid]

/-- The rows of one version and one policy. -/
theorem versionRows_singleton {policies : List Policy} (hids : (policies.map Policy.id).Nodup)
    {p : Policy} (hp : p ∈ policies) {state : String} {v : PolicyVersion}
    (hcurrent : IsCurrentRow tenantId state (v, p)) :
    versionRows policies tenantId state v = [(v, p)] := by
  have hsingle : (policies.filter fun q => IsCurrentRow tenantId state (v, q)) = [p] := by
    apply List.perm_singleton.mp
    rw [List.perm_ext_iff_of_nodup (hids.of_map.filter _) (List.nodup_singleton p)]
    intro q
    rw [List.mem_filter, List.mem_singleton, decide_eq_true_eq]
    constructor
    · rintro ⟨hq, hqcurrent⟩
      exact Lib.eq_of_key_eq hids hq hp (hqcurrent.1.trans hcurrent.1.symm)
    · intro hqp
      rw [hqp]
      exact ⟨hp, hcurrent⟩
  unfold versionRows
  rw [hsingle]
  rfl

/-- A create takes the rows of its key out of the listing, and lists its row when the state
is listed. -/
theorem rows_created {change : PolicyChange} (h : Created s s' tenantId change) (state : String) :
    ∃ v p, v.id = Lib.freshId (s.versions.map PolicyVersion.id) ∧
      v = { change.row tenantId p.id p.currentVersion with id := v.id } ∧
      p.policyKey = change.policyKey ∧
      s'.versions.flatMap (versionRows s'.policies tenantId state) =
        (s.versions.flatMap fun v => (versionRows s.policies tenantId state v).filter
          fun row => row.2.policyKey ≠ change.policyKey) ++
        if change.state = state then [(v, p)] else [] := by
  -- the rows of the version written, under its policy
  have hwritten : ∀ {v : PolicyVersion} {p : Policy}, p ∈ s'.policies → p.id = v.policyId →
      p.tenantId = tenantId → v.tenantId = tenantId → v.version = p.currentVersion →
      v.state = change.state →
      versionRows s'.policies tenantId state v =
        if change.state = state then [(v, p)] else [] := by
    intro v p hp hid hptenant hvtenant hversion hvstate
    by_cases hstate : change.state = state
    · rw [if_pos hstate]
      exact versionRows_singleton s'.policyIds hp
        ⟨hid, hptenant, hvtenant, hversion, hvstate.trans hstate⟩
    · rw [if_neg hstate]
      exact versionRows_of_state _ _ (hvstate ▸ hstate)
  cases h with
  | first hunknown hpolicies hversions =>
      refine ⟨s.newRow tenantId (Lib.freshId (s.policies.map Policy.id)) 1 change,
        ⟨Lib.freshId (s.policies.map Policy.id), tenantId, change.policyKey, 1⟩, rfl, rfl, rfl, ?_⟩
      have hp : (⟨Lib.freshId (s.policies.map Policy.id), tenantId, change.policyKey, 1⟩ : Policy) ∈
          s'.policies := by
        rw [hpolicies]
        exact List.mem_append_right _ (List.mem_singleton_self _)
      rw [hversions, List.flatMap_append, List.flatMap_singleton, hwritten hp rfl rfl rfl rfl rfl]
      congr 1
      apply List.flatMap_congr
      intro v hv
      rw [versionRows_filter, filter_unknown hunknown]
      unfold versionRows
      rw [hpolicies, List.filter_append]
      -- no stored version refers to the fresh policy id
      have hnew : [(⟨Lib.freshId (s.policies.map Policy.id), tenantId, change.policyKey, 1⟩ :
          Policy)].filter (fun p => IsCurrentRow tenantId state (v, p)) = [] := by
        rw [List.filter_eq_nil_iff]
        intro p hp hcurrent
        have hcurrent : IsCurrentRow tenantId state (v, p) := by simpa using hcurrent
        rw [List.mem_singleton.mp hp] at hcurrent
        exact Lib.freshId_notMem _ (hcurrent.1 ▸ s.policyRefs v hv)
      rw [hnew, List.append_nil]
  | next p hfound hfree hpolicies hversions =>
      rcases findPolicy_some hfound with ⟨hmem, htenant, hkey⟩
      refine ⟨s.newRow tenantId p.id (p.currentVersion + 1) change,
        { p with currentVersion := p.currentVersion + 1 }, rfl, rfl, hkey, ?_⟩
      have hp : { p with currentVersion := p.currentVersion + 1 } ∈ s'.policies := by
        rw [hpolicies]
        exact mem_setCurrentVersion.mpr ⟨p, hmem, by rw [if_pos rfl]⟩
      rw [hversions, List.flatMap_append, List.flatMap_singleton,
        hwritten hp rfl htenant rfl rfl rfl]
      congr 1
      apply List.flatMap_congr
      intro v hv
      rw [versionRows_filter]
      unfold versionRows
      rw [hpolicies]
      exact rows_moved hfound hfree hv

/-- A version of a state that is not listed takes the rows of its key out of the
listing. -/
theorem currentRows_create {change : PolicyChange} {result : PolicyMutationResult}
    {policySet : String} (h : s.createPolicyVersion tenantId change = .ok (result, s'))
    (hstate : change.state ≠ normalizedPolicySet policySet) :
    s'.currentPolicyRows tenantId policySet =
      (s.currentPolicyRows tenantId policySet).filter fun row =>
        row.2.policyKey ≠ change.policyKey := by
  apply currentRows_of_versionRows
  rcases rows_created (created_of_ok h) (normalizedPolicySet policySet) with
    ⟨v, p, -, -, -, hrows⟩
  rw [hrows, if_neg hstate, List.append_nil]

/-- A version of the state that is listed comes instead of the rows of its key, behind the
others of its priority. -/
theorem currentRows_create_listed {change : PolicyChange} {result : PolicyMutationResult}
    {policySet : String} (h : s.createPolicyVersion tenantId change = .ok (result, s'))
    (hstate : change.state = normalizedPolicySet policySet) :
    ∃ v p, v = { change.row tenantId p.id p.currentVersion with id := v.id } ∧
      p.policyKey = change.policyKey ∧
      s'.currentPolicyRows tenantId policySet =
        Lib.sortOn (fun row => row.1.priority)
          (((s.currentPolicyRows tenantId policySet).filter fun row =>
            row.2.policyKey ≠ change.policyKey) ++ [(v, p)]) := by
  rcases rows_created (created_of_ok h) (normalizedPolicySet policySet) with
    ⟨v, p, hid, hv, hkey, hrows⟩
  refine ⟨v, p, hv, hkey, ?_⟩
  rw [if_pos hstate] at hrows
  unfold PolicyStore.currentPolicyRows
  rw [filter_joined, filter_joined, hrows, Lib.sortOn_filter, Lib.sortOn_filter,
    List.filter_flatMap, Lib.sortOn_sortOn_append, Lib.sortOn_concat]
  -- the new row has the greatest id
  intro row hrow
  rcases List.mem_flatMap.mp hrow with ⟨w, hw, hmem⟩
  rcases List.mem_map.mp (List.mem_of_mem_filter hmem) with ⟨q, -, rfl⟩
  have hlt := Lib.lt_freshId (List.mem_map_of_mem hw : w.id ∈ s.versions.map PolicyVersion.id)
  show w.id ≤ v.id
  omega

/-! ## Lists left as they were -/

/-- The version number after the pointer of the key is stored already. -/
def PolicyStore.NextTaken (s : PolicyStore) (tenantId : Int) (policyKey : String) : Prop :=
  ∃ p, s.findPolicy tenantId policyKey = some p ∧
    ∃ v ∈ s.versions, v.policyId = p.id ∧ v.version = p.currentVersion + 1

/-- The store after `create_policy_version`, which rolls back when it raises. -/
def PolicyStore.afterCreate (s : PolicyStore) (tenantId : Int) (change : PolicyChange) :
    PolicyStore :=
  match s.createPolicyVersion tenantId change with
  | .ok (_, s') => s'
  | .error _ => s

/-- A create is refused exactly when the next number is taken. -/
theorem create_refused_iff {change : PolicyChange} :
    (∃ e, s.createPolicyVersion tenantId change = .error e) ↔
      s.NextTaken tenantId change.policyKey := by
  constructor
  · rintro ⟨e, he⟩
    cases hfind : s.findPolicy tenantId change.policyKey with
    | none =>
        rcases create_new hfind with ⟨t, ht, -⟩
        rw [ht] at he
        cases he
    | some p =>
        by_contra hfree
        have hnext : ∀ v ∈ s.versions, v.policyId = p.id → v.version ≠ p.currentVersion + 1 :=
          fun v hv hid hversion => hfree ⟨p, hfind, v, hv, hid, hversion⟩
        rcases create_existing hfind hnext with ⟨t, ht, -⟩
        rw [ht] at he
        cases he
  · rintro ⟨p, hfind, v, hv, hid, hversion⟩
    exact ⟨_, create_taken hfind hv hid hversion⟩

/-- A version of a state that is not listed leaves the list as it was exactly when it is
refused or the key is not in the list. -/
theorem list_unchanged_iff {change : PolicyChange} {policySet : String}
    (hstate : change.state ≠ normalizedPolicySet policySet) :
    (s.afterCreate tenantId change).listCurrentPolicies tenantId policySet =
        s.listCurrentPolicies tenantId policySet ↔
      s.NextTaken tenantId change.policyKey ∨
        ∀ row ∈ s.currentPolicyRows tenantId policySet, row.2.policyKey ≠ change.policyKey := by
  unfold PolicyStore.afterCreate
  cases hcreate : s.createPolicyVersion tenantId change with
  -- a refused create leaves the store
  | error e => exact iff_of_true rfl (.inl (create_refused_iff.mp ⟨e, hcreate⟩))
  | ok result =>
      rcases result with ⟨result, s'⟩
      have hfree : ¬ s.NextTaken tenantId change.policyKey := by
        intro htaken
        rcases create_refused_iff.mpr htaken with ⟨e, he⟩
        rw [hcreate] at he
        cases he
      unfold PolicyStore.listCurrentPolicies
      dsimp only
      rw [currentRows_create hcreate hstate, or_iff_right hfree]
      constructor
      · -- the rows of the key are listed no more, as their policy points to another state
        intro hsame row hrow
        have hlength := congrArg List.length hsame
        rw [List.length_map, List.length_map, List.length_filter_eq_length_iff] at hlength
        simpa using hlength row hrow
      · intro hkept
        rw [List.filter_eq_self.mpr]
        intro row hrow
        simpa using hkept row hrow

end CurrentRows

end KeyNetra
