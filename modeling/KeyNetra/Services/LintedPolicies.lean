import KeyNetra.Lib.Text
import KeyNetra.Services.PolicyLint

/-!
# KeyNetra.Services.LintedPolicies — leaving out what the lint warns of

A policy that the lint warns of repeats an earlier one. It can be left out of the engine's list when
the earlier policy is met wherever it is. But the listing overwrites a condition that is called
`version`, which no request meets; and the text of an `object_id` tells the order of its members,
which the lint does not compare.

* `currentRows_ids` — the current policies report different ids;
* `masked_of_repeat` — a policy that repeats a live one is never met first;
* `flagged_iff` — the lint warns of the policies that have an earlier one with their lint key;
* `lint_dead_iff` — which of the policies warned of can be left out.
-/

namespace KeyNetra

section Ids

variable (s : PolicyStore) (tenantId : Int) (policySet : String)

/-- No two current rows are of one policy. -/
theorem currentRows_keys : (s.currentPolicyRows tenantId policySet).Pairwise fun a b =>
    a.2.policyKey ≠ b.2.policyKey := by
  have hjoined : s.joined.Pairwise fun a b =>
      IsCurrentRow tenantId (normalizedPolicySet policySet) a →
        IsCurrentRow tenantId (normalizedPolicySet policySet) b →
          a.2.policyKey ≠ b.2.policyKey := by
    have hkeys : s.policies.Pairwise fun p q => p.key ≠ q.key :=
      List.pairwise_map.mp s.policyKeys
    have hversions : s.versions.Pairwise fun v w => v.key ≠ w.key :=
      List.pairwise_map.mp s.versionKeys
    refine List.pairwise_flatMap.mpr ⟨?_, hversions.imp_of_mem ?_⟩
    · intro v _
      refine List.pairwise_map.mpr (hkeys.imp ?_)
      intro p q hne hp hq hsame
      exact hne (Prod.ext (hp.2.1.trans hq.2.1.symm) hsame)
    · -- one key is one policy, and of that only the current version is listed
      intro v w _ _ hne a ha b hb hcurrent hcurrent' hsame
      obtain ⟨p, hp, rfl⟩ := List.mem_map.mp ha
      obtain ⟨q, hq, rfl⟩ := List.mem_map.mp hb
      have hpq : p = q := Lib.eq_of_key_eq s.policyKeys hp hq
        (Prod.ext (hcurrent.2.1.trans hcurrent'.2.1.symm) hsame)
      subst hpq
      have hids : v.policyId = w.policyId := hcurrent.1.symm.trans hcurrent'.1
      have hnumbers : v.version = w.version :=
        hcurrent.2.2.2.1.trans hcurrent'.2.2.2.1.symm
      exact hne (Prod.ext hids hnumbers)
  have hfiltered := List.pairwise_filter.mpr (hjoined.imp fun h ha hb =>
    h (of_decide_eq_true ha) (of_decide_eq_true hb))
  have hperm : (s.currentPolicyRows tenantId policySet).Perm
      (s.joined.filter fun row => IsCurrentRow tenantId (normalizedPolicySet policySet) row) :=
    (Lib.perm_sortOn _ _).trans (Lib.perm_sortOn _ _)
  exact (hperm.pairwise_iff fun hne => hne.symm).mpr hfiltered

variable {s tenantId policySet}

theorem policyId_inj {a b : PolicyVersion × Policy}
    (h : s!"{a.2.policyKey}:v{a.1.version}" = s!"{b.2.policyKey}:v{b.1.version}") :
    a.2.policyKey = b.2.policyKey := by
  have htext : ∀ row : PolicyVersion × Policy,
      (s!"{row.2.policyKey}:v{row.1.version}").toList =
        (row.2.policyKey.toList ++ [':']) ++ 'v' :: (toString row.1.version).toList := by
    intro row
    rw [String.toList_append, String.toList_append, List.append_assoc, List.append_assoc]
    rfl
  have hlists := congrArg String.toList h
  rw [htext, htext] at hlists
  have hfront := ((Lib.append_sep_inj_right (Lib.notMem_intRepr (by decide) (by decide) _)
    (Lib.notMem_intRepr (by decide) (by decide) _)).mp hlists).1
  exact String.toList_inj.mp (List.append_cancel_right hfront)

end Ids

/-! ## What is given to the engine -/

section Lists

variable [PyRuntime] {before later : List (PolicyVersion × Policy)} {row : PolicyVersion × Policy}

/-- The version has a condition that is called `version`. -/
def StoresVersion (v : PolicyVersion) : Prop := ∃ value, ("version", value) ∈ v.conditions

omit [PyRuntime] in
theorem rowDefinition_reportedId (row : PolicyVersion × Policy) :
    (rowDefinition row).reportedId = s!"{row.2.policyKey}:v{row.1.version}" := by
  have hne : s!"{row.2.policyKey}:v{row.1.version}" ≠ "" := by
    intro hempty
    have hcolon : toString ":v" = "" := (String.append_eq_empty_iff.mp
      (String.append_eq_empty_iff.mp hempty).1).2
    exact absurd hcolon (by decide)
  show orText (some s!"{row.2.policyKey}:v{row.1.version}") _ = _
  rw [orText, if_neg hne]

omit [PyRuntime] in
/-- The current policies report different ids. -/
theorem currentRows_ids {s : PolicyStore} {tenantId : Int} {policySet : String}
    (hrows : s.currentPolicyRows tenantId policySet = before ++ row :: later) :
    ∀ other ∈ (before ++ later).map rowDefinition,
      other.reportedId ≠ (rowDefinition row).reportedId := by
  have hkeys := currentRows_keys s tenantId policySet
  rw [hrows] at hkeys
  have ⟨_, hlater, hbefore⟩ := List.pairwise_append.mp hkeys
  intro other hother hsame
  obtain ⟨row', hrow', rfl⟩ := List.mem_map.mp hother
  rw [rowDefinition_reportedId, rowDefinition_reportedId] at hsame
  rcases List.mem_append.mp hrow' with hmem | hmem
  · exact hbefore row' hmem row List.mem_cons_self (policyId_inj hsame)
  · exact (List.pairwise_cons.mp hlater).1 row' hmem (policyId_inj hsame).symm

omit [PyRuntime] in
theorem rowDefinition_checked (row : PolicyVersion × Policy) :
    (rowDefinition row).checked = withoutKeys ["policy_key"] row.1.conditions := by
  unfold PolicyDefinition.checked withoutKeys
  apply List.filter_congr
  intro item _
  simp

/-- A policy is met iff all its conditions are. -/
theorem meets_iff {input : AuthorizationInput} :
    (rowDefinition row).meets input = true ↔
      row.1.action = input.action ∧
        AllMet (withoutKeys ["policy_key"] row.1.conditions) input := by
  rw [← rowDefinition_checked, ← evaluateConditions_met]
  unfold PolicyDefinition.meets PolicyDefinition.verdict
  rw [Bool.and_eq_true, decide_eq_true_eq]
  refine and_congr_right fun _ => ?_
  cases heval : evaluateConditions (rowDefinition row).checked input with
  | error e => simp
  | ok result =>
      obtain ⟨met, reason⟩ := result
      constructor
      · intro hmet
        have htrue : met = true := hmet
        exact ⟨reason, by rw [htrue]⟩
      · rintro ⟨reason', hmet⟩
        cases hmet
        rfl

omit [PyRuntime] in
theorem withoutKeys_version {v : PolicyVersion} (h : ¬ StoresVersion v) :
    withoutKeys ["policy_key", "version"] v.conditions = withoutKeys ["policy_key"] v.conditions := by
  unfold withoutKeys
  apply List.filter_congr
  intro item hitem
  have hne : item.1 ≠ "version" := by
    intro hversion
    exact h ⟨item.2, by rw [← hversion]; exact hitem⟩
  simp [hne]

/-- No request meets a condition that is called `version`. -/
theorem not_meets_of_stores (h : StoresVersion row.1) (input : AuthorizationInput) :
    (rowDefinition row).meets input ≠ true := by
  intro hmeets
  obtain ⟨value, hvalue⟩ := h
  have hmem : ("version", value) ∈ withoutKeys ["policy_key"] row.1.conditions :=
    List.mem_filter.mpr ⟨hvalue, rfl⟩
  obtain ⟨handler, _, hhandler, _⟩ := (meets_iff.mp hmeets).2 _ _ hmem
  cases hhandler

/-- A policy is masked by an earlier one that it repeats and that has no condition called
`version`. -/
theorem masked_of_repeat {earlier : PolicyVersion × Policy} (hearlier : earlier ∈ before)
    (hentry : SameEntry earlier.1 row.1) (hlive : ¬ StoresVersion earlier.1)
    (hids : SameObjectIds row.1.conditions earlier.1.conditions)
    (policies : List PolicyDefinition) :
    Masked (before.map rowDefinition) (rowDefinition row) policies := by
  intro input _ _ hmeets
  refine ⟨rowDefinition earlier, List.mem_map_of_mem hearlier, meets_iff.mpr ⟨?_, ?_⟩⟩
  · exact hentry.1.trans (meets_iff.mp hmeets).1
  · have hown : ¬ StoresVersion row.1 := fun hstores => not_meets_of_stores hstores input hmeets
    have hsame := hentry.2.2
    rw [withoutKeys_version hlive, withoutKeys_version hown] at hsame
    refine allMet_sameJson hsame.symm ?_ (meets_iff.mp hmeets).2
    intro v w hv hw
    exact hids v w (List.mem_of_mem_filter hv) (List.mem_of_mem_filter hw)

theorem masked_of_stores (h : StoresVersion row.1) (policies : List PolicyDefinition) :
    Masked (before.map rowDefinition) (rowDefinition row) policies := by
  intro input _ _ hmeets
  exact absurd hmeets (not_meets_of_stores h input)

/-- The lint warns of the policy that follows `before` in the listing. -/
def Flagged (rows before : List (PolicyVersion × Policy)) : Prop :=
  ∃ warning, (duplicateWarnings (rows.map policyView))[before.length]? = some (some warning)

/-- Each policy that the lint warns of can be left out of the engine's list. -/
def LintDead (rows : List (PolicyVersion × Policy)) : Prop :=
  ∀ before row later, rows = before ++ row :: later → Flagged rows before →
    RemovalNeutral (rows.map rowDefinition) ((before ++ later).map rowDefinition)

/-- The lint takes the row for a duplicate of the earlier policy: it has its action, its version
number, and its conditions besides one called `version`. -/
def DuplicateOf (earlier row : PolicyVersion × Policy) : Prop :=
  SameEntry earlier.1 row.1 ∧ earlier.1.effect ≠ ""

/-- The row is taken for a duplicate and has no condition called `version`, but whatever it
duplicates has one, or writes the `object_id` of its relation in another way. -/
structure Mistaken (before : List (PolicyVersion × Policy)) (row : PolicyVersion × Policy) :
    Prop where
  duplicates : ∃ earlier ∈ before, DuplicateOf earlier row
  live : ¬ StoresVersion row.1
  unlike : ∀ earlier ∈ before, DuplicateOf earlier row →
    StoresVersion earlier.1 ∨ ¬ SameObjectIds row.1.conditions earlier.1.conditions

/-- Wherever the row is met, and left to decide, an earlier policy is met as well which it is no
duplicate of, or which writes its `object_id` in another way. -/
def MaskedByOthers (before : List (PolicyVersion × Policy)) (row : PolicyVersion × Policy)
    (policies : List PolicyDefinition) : Prop :=
  ∀ input, verdict (dataStages input) = .abstain → NoHandlerRaises policies input →
    (rowDefinition row).meets input = true → ∃ earlier ∈ before,
      (DuplicateOf earlier row → ¬ SameObjectIds row.1.conditions earlier.1.conditions) ∧
        (rowDefinition earlier).meets input = true

/-- The lint warns of the policies that it takes for duplicates. -/
theorem flagged_iff {rows : List (PolicyVersion × Policy)}
    (hsorted : rows.Pairwise fun a b => a.1.priority ≤ b.1.priority)
    (hobjects : ∀ row ∈ rows, DistinctKeys row.1.conditions)
    (hrows : rows = before ++ row :: later) :
    Flagged rows before ↔ ∃ earlier ∈ before, DuplicateOf earlier row := by
  unfold Flagged
  rw [warning_row hsorted hobjects hrows]
  unfold firstEntry
  constructor
  · rintro ⟨warning, hwarning⟩
    obtain ⟨earlier, hfound, -⟩ := Option.map_eq_some_iff.mp (Option.some.inj hwarning)
    have hkept := List.find?_some hfound
    have hduplicate : SameEntry earlier.1 row.1 ∧ earlier.1.effect ≠ "" := of_decide_eq_true hkept
    exact ⟨earlier, List.mem_of_find?_eq_some hfound, hduplicate⟩
  · rintro ⟨earlier, hearlier, hduplicate⟩
    have hsome : (before.find? fun other => decide (SameEntry other.1 row.1 ∧
        other.1.effect ≠ "")).isSome := by
      rw [List.find?_isSome]
      exact ⟨earlier, hearlier, decide_eq_true hduplicate⟩
    obtain ⟨first, hfirst⟩ := Option.isSome_iff_exists.mp hsome
    rw [hfirst]
    exact ⟨_, rfl⟩

/-- A duplicate that is not mistaken is masked by what it duplicates. -/
theorem masked_of_not_mistaken (hduplicates : ∃ earlier ∈ before, DuplicateOf earlier row)
    (h : ¬ Mistaken before row) (policies : List PolicyDefinition) :
    Masked (before.map rowDefinition) (rowDefinition row) policies := by
  by_cases hstores : StoresVersion row.1
  · exact masked_of_stores hstores policies
  · have hlive : ∃ earlier ∈ before, DuplicateOf earlier row ∧ ¬ StoresVersion earlier.1 ∧
        SameObjectIds row.1.conditions earlier.1.conditions := by
      by_contra hnone
      refine h ⟨hduplicates, hstores, ?_⟩
      intro earlier hearlier hduplicate
      by_contra hboth
      obtain ⟨hlive, hids⟩ := not_or.mp hboth
      exact hnone ⟨earlier, hearlier, hduplicate, hlive, not_not.mp hids⟩
    obtain ⟨earlier, hearlier, hduplicate, hlive, hids⟩ := hlive
    exact masked_of_repeat hearlier hduplicate.1 hlive hids policies

/-- One that is mistaken has only other policies to mask it. -/
theorem masked_iff_of_mistaken (h : Mistaken before row) (policies : List PolicyDefinition) :
    Masked (before.map rowDefinition) (rowDefinition row) policies ↔
      MaskedByOthers before row policies := by
  constructor
  · intro hmasked input habstain hraise hmeets
    obtain ⟨definition, hdefinition, hmet⟩ := hmasked input habstain hraise hmeets
    obtain ⟨earlier, hearlier, rfl⟩ := List.mem_map.mp hdefinition
    refine ⟨earlier, hearlier, ?_, hmet⟩
    intro hduplicate
    -- what it duplicates is met by no request, or names its object in another way
    refine (h.unlike earlier hearlier hduplicate).resolve_left ?_
    intro hstores
    exact not_meets_of_stores hstores input hmet
  · intro hothers input habstain hraise hmeets
    obtain ⟨earlier, hearlier, -, hmet⟩ := hothers input habstain hraise hmeets
    exact ⟨rowDefinition earlier, List.mem_map_of_mem hearlier, hmet⟩

/-- What is before a row in the listing is tried before it, so leaving the row out changes nothing
iff the row is masked. -/
theorem removal_neutral_row (s : PolicyStore) (tenantId : Int)
    (hrows : s.currentPolicyRows tenantId "active" = before ++ row :: later) :
    RemovalNeutral ((s.currentPolicyRows tenantId "active").map rowDefinition)
        ((before ++ later).map rowDefinition) ↔
      Masked (before.map rowDefinition) (rowDefinition row)
        ((s.currentPolicyRows tenantId "active").map rowDefinition) := by
  have hsorted : ((s.currentPolicyRows tenantId "active").map rowDefinition).Pairwise
      fun p q => p.priority ≤ q.priority :=
    List.pairwise_map.mpr (Lib.pairwise_sortOn (fun row : PolicyVersion × Policy =>
      row.1.priority) _)
  have hids := currentRows_ids hrows
  rw [hrows, List.map_append, List.map_cons] at hsorted ⊢
  rw [List.map_append] at hids ⊢
  exact removal_neutral_iff hsorted hids

/-- The policies that the lint warns of are dead iff each policy that it mistakes for a duplicate
(one without a condition called `version`, which any earlier policy of the same action, version
number and other conditions has, or names another object text than) is met only where an earlier
policy is met that the warning is not about. -/
theorem lint_dead_iff (s : PolicyStore) (tenantId : Int)
    (hobjects : ∀ row ∈ s.currentPolicyRows tenantId "active", DistinctKeys row.1.conditions) :
    LintDead (s.currentPolicyRows tenantId "active") ↔
      ∀ before row later, s.currentPolicyRows tenantId "active" = before ++ row :: later →
        Mistaken before row →
          MaskedByOthers before row
            ((s.currentPolicyRows tenantId "active").map rowDefinition) := by
  have hsorted : (s.currentPolicyRows tenantId "active").Pairwise fun a b =>
      a.1.priority ≤ b.1.priority :=
    Lib.pairwise_sortOn (fun row : PolicyVersion × Policy => row.1.priority) _
  constructor
  · intro hdead before row later hrows hmistaken
    -- a mistaken policy is one that is warned of
    have hflag := (flagged_iff hsorted hobjects hrows).mpr hmistaken.duplicates
    have hmasked := (removal_neutral_row s tenantId hrows).mp (hdead before row later hrows hflag)
    exact (masked_iff_of_mistaken hmistaken _).mp hmasked
  · intro hall before row later hrows hflag
    refine (removal_neutral_row s tenantId hrows).mpr ?_
    by_cases hmistaken : Mistaken before row
    · exact (masked_iff_of_mistaken hmistaken _).mpr (hall before row later hrows hmistaken)
    · -- the warning is about an earlier policy, which masks this one
      have hduplicates := (flagged_iff hsorted hobjects hrows).mp hflag
      exact masked_of_not_mistaken hduplicates hmistaken _

end Lists

/-! ## A policy that repeats a dead one -/

section Concrete

attribute [local instance] plainRuntime

/-- A policy with a condition called `version`, and one that repeats it without. -/
def deadRow : PolicyVersion × Policy :=
  ({ id := 1, tenantId := 1, policyId := 1, version := 1, action := "read", effect := "allow"
     priority := 10, conditions := [("role", .str "admin"), ("version", .int 3)]
     createdBy := none, state := "active" },
   ⟨1, 1, "old", 1⟩)

def liveRow : PolicyVersion × Policy :=
  ({ id := 2, tenantId := 1, policyId := 2, version := 1, action := "read", effect := "allow"
     priority := 20, conditions := [("role", .str "admin")]
     createdBy := none, state := "active" },
   ⟨2, 1, "new", 1⟩)

def repeatedStore : PolicyStore where
  policies := [deadRow.2, liveRow.2]
  versions := [deadRow.1, liveRow.1]
  policyIds := by decide
  policyKeys := by decide
  versionIds := by decide
  versionKeys := by decide
  policyRefs := by decide

/-- A request that the second policy allows. -/
def adminRequest : AuthorizationInput where
  user := [("id", .str "u1"), ("role", .str "admin")]
  resource := []
  action := "read"

theorem repeatedStore_rows :
    repeatedStore.currentPolicyRows 1 "active" = [deadRow] ++ liveRow :: [] := rfl

/-- The theorem for the two policies. -/
theorem repeated_dead_iff :
    (∀ row ∈ repeatedStore.currentPolicyRows 1 "active", DistinctKeys row.1.conditions) ∧
      (LintDead (repeatedStore.currentPolicyRows 1 "active") ↔
        ∀ before row later, repeatedStore.currentPolicyRows 1 "active" = before ++ row :: later →
          Mistaken before row → MaskedByOthers before row
            ((repeatedStore.currentPolicyRows 1 "active").map rowDefinition)) := by
  have hobjects : ∀ row ∈ repeatedStore.currentPolicyRows 1 "active",
      DistinctKeys row.1.conditions := by
    unfold DistinctKeys
    rw [repeatedStore_rows]
    decide
  exact ⟨hobjects, lint_dead_iff repeatedStore 1 hobjects⟩

/-- The live policy is warned of as unreachable, and without it the request is denied. -/
theorem live_policy_flagged :
    (duplicateWarnings (repeatedStore.listCurrentPolicyViews 1))[1]? =
      some (some (.unreachable "new (priority 20)")) ∧
    ¬ LintDead (repeatedStore.currentPolicyRows 1 "active") := by
  have hwarning : (duplicateWarnings (repeatedStore.listCurrentPolicyViews 1))[1]? =
      some (some (.unreachable "new (priority 20)")) := by decide +kernel
  refine ⟨hwarning, ?_⟩
  intro hdead
  have hneutral := hdead [deadRow] liveRow [] repeatedStore_rows ⟨_, hwarning⟩
  -- the request is answered without a raise
  have hraise : NoHandlerRaises ((repeatedStore.currentPolicyRows 1 "active").map rowDefinition)
      adminRequest := by
    intro policy hpolicy _
    rw [repeatedStore_rows] at hpolicy
    rcases List.mem_cons.mp hpolicy with rfl | hpolicy
    · exact ⟨_, rfl⟩
    · rw [List.mem_singleton.mp hpolicy]
      exact ⟨_, rfl⟩
  obtain ⟨decision, decision', hdecide, hdecide', hallowed, _⟩ :=
    hneutral _ _ (new_definitions _) (new_definitions _) adminRequest hraise
  -- with the flagged policy it is allowed, without it denied
  have hgranted : decision.allowed = true := by
    cases hdecide
    rfl
  have hdenied : decision'.allowed = false := by
    cases hdecide'
    rfl
  rw [hgranted, hdenied] at hallowed
  cases hallowed

end Concrete

end KeyNetra
