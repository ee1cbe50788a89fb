import KeyNetra.Services.Coherence

/-!
# KeyNetra.Services.PolicyWrites — policy changes and the caches they invalidate

`PolicyService` commits the rows of a change, then bumps the tenant's policy
version, the policy namespace, the decision namespace and the revision, each in a
step of its own.

* `PolicyWrite.commit` — the rows;
* `PolicyWrite.afterCommit` — the steps behind the commit, in the order of the code;
* `PolicyWrite.stopped` — the world when the service stops after some of its steps;
* `PolicyWrite.run` — the completed change.

Compiling the graph of the new rows and publishing the event come after these steps
and change nothing a request reads here.
-/

namespace KeyNetra

section PolicyWrites

/-! ## The service -/

/-- A change of a tenant's policies. -/
inductive PolicyWrite where
  | create (change : PolicyChange)
  | rollback (policyKey : String) (version : Int)
  | delete (policyKey : String)

/-- The repository call of the change, which commits once. -/
def PolicyWrite.commit (s : PolicyStore) (tenantId : Int) : PolicyWrite → Except PyError PolicyStore
  | .create change => do
      let (_, s) ← s.createPolicyVersion tenantId change
      .ok s
  | .rollback policyKey version => do
      let (_, s) ← s.rollbackPolicy tenantId policyKey version
      .ok s
  | .delete policyKey => .ok (s.deletePolicy tenantId policyKey)

/-- The world with other policy rows. -/
def World.withPolicies (w : World) (policies : PolicyStore) : World :=
  { w with db := { w.db with policies := policies } }

/-- `self._tenants.bump_policy_version(tenant)`. -/
def World.bumpPolicyVersion (tenantKey : String) (w : World) : World :=
  { w with
    db := { w.db with tenants := w.db.tenants.bumpPolicyVersion (w.tenant tenantKey).id } }

/-- `self._policy_cache.invalidate(tenant_key)`. -/
def World.invalidatePolicies (tenantKey : String) (w : World) : World :=
  w.withBackend (policyCacheInvalidate w.backend tenantKey)

/-- `self._decision_cache.bump_namespace(tenant_key)`. -/
def World.bumpDecisions (tenantKey : String) (w : World) : World :=
  w.withBackend (decisionBumpNamespace w.backend tenantKey)

/-- What the service does once the rows are committed. -/
def afterCommit (tenantKey : String) : List (World → World) :=
  [World.bumpPolicyVersion tenantKey, World.invalidatePolicies tenantKey,
    World.bumpDecisions tenantKey, fun w => w.bumpRevision tenantKey]

/-- One step after another. -/
def World.through (w : World) (steps : List (World → World)) : World :=
  steps.foldl (fun w step => step w) w

/-- The world when the service stops: before the commit, or after the commit and some
of the steps behind it. A commit that raises changes nothing. -/
def PolicyWrite.stopped (tenantKey : String) (w : World) (write : PolicyWrite) : Nat → World
  | 0 => w.ensureTenant tenantKey
  | k + 1 =>
      let w := w.ensureTenant tenantKey
      match write.commit w.db.policies (w.tenant tenantKey).id with
      | .error _ => w
      | .ok policies => (w.withPolicies policies).through ((afterCommit tenantKey).take k)

/-- The completed change: `create_policy`, `rollback_policy` or `delete_policy`. -/
def PolicyWrite.run (tenantKey : String) (w : World) (write : PolicyWrite) : World :=
  write.stopped tenantKey w ((afterCommit tenantKey).length + 1)

/-! ## What the steps change -/

variable {tenantKey : String} {w : World}

/-- The tenant has a row. -/
def World.Registered (tenantKey : String) (w : World) : Prop :=
  w.db.tenants.find? tenantKey = some (w.tenant tenantKey)

theorem registered_ensureTenant (w : World) (tenantKey : String) :
    (w.ensureTenant tenantKey).Registered tenantKey := by
  unfold World.Registered
  rw [tenant_ensureTenant]
  exact TenantTable.find?_getOrCreate _ _

/-- Ensuring a registered tenant changes nothing. -/
theorem ensureTenant_of_registered (h : w.Registered tenantKey) : w.ensureTenant tenantKey = w := by
  unfold World.ensureTenant
  rw [TenantTable.getOrCreate_of_find? h]

/-- Updating a registered tenant's counters. -/
theorem tenant_update (h : w.Registered tenantKey) (f g : Int → Int) :
    let w' := { w with db := { w.db with
      tenants := w.db.tenants.update (w.tenant tenantKey).id f g } }
    w'.Registered tenantKey ∧ w'.tenant tenantKey =
      { w.tenant tenantKey with
        policyVersion := f (w.tenant tenantKey).policyVersion
        revision := g (w.tenant tenantKey).revision } := by
  intro w'
  have hfind : w'.db.tenants.find? tenantKey = some
      { w.tenant tenantKey with
        policyVersion := f (w.tenant tenantKey).policyVersion
        revision := g (w.tenant tenantKey).revision } := by
    show (w.db.tenants.update _ f g).find? tenantKey = _
    rw [TenantTable.find?_update, h]
    simp
  have htenant := congrArg Prod.fst (TenantTable.getOrCreate_of_find? hfind)
  exact ⟨hfind.trans (congrArg some htenant.symm), htenant⟩

/-- The version moves by one. -/
theorem tenant_bumpPolicyVersion (h : w.Registered tenantKey) :
    (w.bumpPolicyVersion tenantKey).Registered tenantKey ∧
      (w.bumpPolicyVersion tenantKey).tenant tenantKey =
        { w.tenant tenantKey with policyVersion := (w.tenant tenantKey).policyVersion + 1 } :=
  tenant_update h (· + 1) id

/-- Bumping the revision ensures the tenant. -/
theorem registered_bumpRevision (w : World) (tenantKey : String) :
    (w.bumpRevision tenantKey).Registered tenantKey := by
  have hensured := registered_ensureTenant w tenantKey
  have hupdated := tenant_update hensured id (· + 1)
  rw [tenant_ensureTenant] at hupdated
  exact hupdated.1

/-- The steps of a completed change whose commit succeeds. -/
theorem run_of_commit (h : w.Registered tenantKey) {write : PolicyWrite} {policies : PolicyStore}
    (hcommit : write.commit w.db.policies (w.tenant tenantKey).id = .ok policies) :
    write.run tenantKey w =
      ((((w.withPolicies policies).bumpPolicyVersion tenantKey).invalidatePolicies
        tenantKey).bumpDecisions tenantKey).bumpRevision tenantKey := by
  unfold PolicyWrite.run PolicyWrite.stopped
  rw [ensureTenant_of_registered h]
  dsimp only
  rw [hcommit]
  rfl

/-- It moves the tenant's version and its revision. -/
theorem tenant_run (h : w.Registered tenantKey) {write : PolicyWrite} {policies : PolicyStore}
    (hcommit : write.commit w.db.policies (w.tenant tenantKey).id = .ok policies) :
    (write.run tenantKey w).tenant tenantKey =
      { w.tenant tenantKey with
        policyVersion := (w.tenant tenantKey).policyVersion + 1
        revision := (w.tenant tenantKey).revision + 1 } := by
  have hcommitted : (w.withPolicies policies).Registered tenantKey := h
  have hversion : (((((w.withPolicies policies).bumpPolicyVersion tenantKey).invalidatePolicies
      tenantKey).bumpDecisions tenantKey)).tenant tenantKey =
      { w.tenant tenantKey with policyVersion := (w.tenant tenantKey).policyVersion + 1 } :=
    (tenant_bumpPolicyVersion hcommitted).2
  rw [run_of_commit h hcommit, tenant_bumpRevision, hversion]

end PolicyWrites

end KeyNetra
