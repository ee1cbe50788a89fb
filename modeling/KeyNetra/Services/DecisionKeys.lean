import KeyNetra.Cache.Keys
import KeyNetra.Py.CodedDigest
import KeyNetra.Services.StoppedWrites

/-!
# KeyNetra.Services.DecisionKeys — the writes of a tenant and the decision keys

A decision key holds the policy version, the counter of the name the decision is cached
under, and a digest of the input together with the revision, or the token the client sent
in its place. A policy write moves the version and a counter, an ACL or relationship write
a counter, a model or role write neither.

* `createAuthModel` — `POST /auth-model`, which bumps the revision only;
* `TenantWrite.run` — the completed writes of a tenant;
* `movedBy_of_write` — what each of them moves;
* `askingKey_of_write` — which of them move which decision keys;
* `askingKey_inj` — which requests share a key;
* `leftBehind_of_write` — a key that was moved is met by no later request.
-/

namespace KeyNetra

section DecisionKeys

variable [PyRuntime]

/-! ## The writes of a tenant -/

/-- `SqlAuthModelRepository.upsert_model`. -/
def upsertModel (models : List AuthModelRecord) (tenantId : Int) (schemaText : String) :
    List AuthModelRecord :=
  match getModel models tenantId with
  | none => models ++ [⟨tenantId, schemaText⟩]
  | some _ => models.map fun row =>
      if row.tenantId = tenantId then { row with schemaText := schemaText } else row

/-- `POST /auth-model`. -/
def createAuthModel (w : World) (tenantKey schemaText : String) : Except ApiError World :=
  let tenant := w.tenant tenantKey
  let w := w.ensureTenant tenantKey
  match compileSchemaText schemaText with
  | .error e => .error ⟨422, "VALIDATION_ERROR", e.message, []⟩
  | .ok compiled =>
      let graph : CompiledPermissionGraph := ⟨tenantKey, compiled⟩
      .ok ({ w with
        db := { w.db with authModels := upsertModel w.db.authModels tenant.id schemaText }
        modelGraphs := fun key => if key = tenantKey then some graph else w.modelGraphs key
        }.bumpRevision tenantKey)

/-- A write of the tenant. -/
inductive TenantWrite where
  | policy (change : PolicyWrite)
  | createAcl (draft : AclDraft)
  | deleteAcl (aclId : Int)
  | createRelationship (record : RelationshipRecord)
  | createModel (schemaText : String)
  | editRoles (users : List UserRow)

variable (tenantKey : String)

/-- The world a write leaves when it completes; a refused write has none. -/
def TenantWrite.run (w : World) : TenantWrite → Option World
  | .policy change =>
      match change.commit w.db.policies (w.tenant tenantKey).id with
      | .ok _ => some (change.run tenantKey w)
      | .error _ => none
  | .createAcl draft =>
      match createAclEntry w tenantKey draft with
      | (.ok _, w) => some w
      | (.error _, _) => none
  | .deleteAcl aclId => some (deleteAclEntry w tenantKey aclId)
  | .createRelationship record =>
      match KeyNetra.createRelationship w tenantKey record with
      | (.ok _, w) => some w
      | (.error _, _) => none
  | .createModel schemaText => (createAuthModel w tenantKey schemaText).toOption
  | .editRoles users => some (KeyNetra.editRoles w tenantKey users)

/-! ## What a request asks the decision cache for -/

/-- The name a decision is cached under, the token the client sent (without one, the
revision read), and the resolved input. -/
structure Asking where
  name : String
  token : Int
  input : AuthorizationInput

/-- The first asks again for the second; the inputs may differ in the order of members. -/
structure Asking.Repeats (p q : Asking) : Prop where
  name : p.name = q.name
  token : p.token = q.token
  input : SameInput p.input q.input

/-- What a resolved request asks for; one that bypasses the cache asks for nothing. -/
def AuthorizeRequest.asking? (request : AuthorizeRequest) (tenant : TenantRecord)
    (input : AuthorizationInput) : Option Asking :=
  if request.FullyConsistent then none
  else some ⟨cacheNamespace tenant (policySetKey request.policySet),
    request.revision.getD tenant.revision, input⟩

def World.asking? (w : World) (request : AuthorizeRequest) : Option Asking :=
  match (buildInput w request).1 with
  | .ok (input, tenant) => request.asking? tenant input
  | .error _ => none

/-- The decision key under the current version and counters. -/
def World.askingKey (w : World) (p : Asking) : String :=
  decisionCacheKey w.backend.counters p.name (w.tenant tenantKey).policyVersion p.token p.input

/-- The policies decide the request's input, and none of them raises. -/
def World.Evaluates (settings : Settings) (w : World) (request : AuthorizeRequest) : Prop :=
  ∃ input tenant decision, (buildInput w request).1 = .ok (input, tenant) ∧
    (do (← (buildEngine settings (buildInput w request).2 tenant
      (policySetKey request.policySet)).1).decide input) = .ok decision

/-- How far a completed write moves the policy version. -/
def TenantWrite.versionStep : TenantWrite → Nat
  | .policy _ => 1
  | _ => 0

/-- How far it moves the counter of the decisions of a name. -/
def TenantWrite.counterStep (name : String) : TenantWrite → Nat
  | .createModel _ | .editRoles _ => 0
  | _ => if name = tenantKey then 1 else 0

/-- The write moves the decision keys of a name: a policy write those of every policy set,
an ACL or relationship write those of the active set, which are cached under the tenant's
own key, a model or role write none. -/
def TenantWrite.Moves (name : String) : TenantWrite → Prop
  | .policy _ => True
  | .createAcl _ | .deleteAcl _ | .createRelationship _ => name = tenantKey
  | .createModel _ | .editRoles _ => False

variable {tenantKey} {w w' : World}

/-! ## What each write moves -/

omit [PyRuntime] in
theorem not_moves_iff {write : TenantWrite} {name : String} :
    ¬ write.Moves tenantKey name ↔
      write.versionStep = 0 ∧ write.counterStep tenantKey name = 0 := by
  cases write <;> simp [TenantWrite.Moves, TenantWrite.versionStep, TenantWrite.counterStep]

omit [PyRuntime] in
theorem decisionNamespace_incr {b : Backend} {kind key name : String} (hkey : HasKind kind key)
    (hkind : kind ∈ documentKinds ++ counterKinds ∧ "decns" ≠ kind) :
    decisionNamespace (b.incr key).counters name = decisionNamespace b.counters name := by
  have hne : decisionNamespaceKey name ≠ key :=
    (hasKind_decisionNamespaceKey name).ne hkey ⟨by decide, hkind⟩
  unfold decisionNamespace
  rw [Backend.counters_incr_ne _ hne]

omit [PyRuntime] in
theorem decisionNamespace_invalidateResource (b : Backend) (tenantId : Int)
    (resourceType resourceId name : String) :
    decisionNamespace (invalidateResource b tenantId resourceType resourceId).counters name =
      decisionNamespace b.counters name := by
  unfold invalidateResource indexCacheInvalidate aclCacheInvalidate
  rw [decisionNamespace_incr (hasKind_indexNamespaceKey _ _ _) (by decide),
    decisionNamespace_incr (hasKind_aclNamespaceKey _ _ _) (by decide)]

omit [PyRuntime] in
/-- A bump moves the counter of its own name only. -/
theorem decisionNamespace_bump (b : Backend) (tenantKey name : String) :
    decisionNamespace (decisionBumpNamespace b tenantKey).counters name =
      decisionNamespace b.counters name + if name = tenantKey then 1 else 0 := by
  unfold decisionNamespace decisionBumpNamespace
  split
  · rename_i hname
    rw [hname, Backend.counters_incr_self]
    rfl
  · rename_i hname
    have hne : decisionNamespaceKey name ≠ decisionNamespaceKey tenantKey := by
      intro hkeys
      have hnames := cacheKey_cons_left.mp hkeys
      rw [cacheKey_single, cacheKey_single] at hnames
      exact hname hnames
    rw [Backend.counters_incr_ne _ hne]
    rfl

/-- The revision has moved by one, the policy version and the decision counters by so much,
and the stored decisions are the same. -/
structure MovedBy (tenantKey : String) (version : Nat) (counter : String → Nat) (w w' : World) :
    Prop where
  registered : w'.Registered tenantKey
  revision : (w'.tenant tenantKey).revision = (w.tenant tenantKey).revision + 1
  version : (w'.tenant tenantKey).policyVersion = (w.tenant tenantKey).policyVersion + version
  counter : ∀ name, decisionNamespace w'.backend.counters name =
    decisionNamespace w.backend.counters name + counter name
  documents : ∀ key, HasKind "dec" key → w'.backend.get key = w.backend.get key

omit [PyRuntime] in
/-- Bumping the revision behind steps that leave the tenant alone. -/
theorem movedBy_of_bump {v : World} {counter : String → Nat}
    (htenant : v.tenant tenantKey = w.tenant tenantKey)
    (hcounter : ∀ name, decisionNamespace v.backend.counters name =
      decisionNamespace w.backend.counters name + counter name)
    (hdocuments : ∀ key, HasKind "dec" key → v.backend.get key = w.backend.get key) :
    MovedBy tenantKey 0 counter w (v.bumpRevision tenantKey) where
  registered := registered_bumpRevision v tenantKey
  revision := by
    rw [tenant_bumpRevision, htenant]
  version := by
    rw [tenant_bumpRevision, htenant]
    simp
  counter := hcounter
  documents := hdocuments

omit [PyRuntime] in
theorem movedBy_of_policy (hregistered : w.Registered tenantKey) (change : PolicyWrite)
    {policies : PolicyStore}
    (hcommit : change.commit w.db.policies (w.tenant tenantKey).id = .ok policies) :
    MovedBy tenantKey 1 (fun name => if name = tenantKey then 1 else 0) w
      (change.run tenantKey w) where
  registered := by
    rw [run_of_commit hregistered hcommit]
    exact registered_bumpRevision _ _
  revision := by
    rw [tenant_run hregistered hcommit]
  version := by
    rw [tenant_run hregistered hcommit]
    rfl
  counter name := by
    have hcounters : (change.run tenantKey w).backend.counters = (decisionBumpNamespace
        (policyCacheInvalidate w.backend tenantKey) tenantKey).counters := by
      rw [run_of_commit hregistered hcommit]
      rfl
    rw [hcounters, decisionNamespace_bump, policyCacheInvalidate,
      decisionNamespace_incr (hasKind_policyNamespaceKey _) (by decide)]
  documents key _ := by
    rw [run_of_commit hregistered hcommit]
    rfl

/-- A stored entry has its resource invalidated, and then the tenant's decisions. -/
theorem movedBy_of_createAcl {draft : AclDraft}
    (hrun : (TenantWrite.createAcl draft).run tenantKey w = some w') :
    MovedBy tenantKey 0 (fun name => if name = tenantKey then 1 else 0) w w' := by
  have hname : (w.tenant tenantKey).tenantKey = tenantKey := tenant_tenantKey _ _
  dsimp only [TenantWrite.run, KeyNetra.createAclEntry] at hrun
  by_cases heffect : draft.effect ∉ ["allow", "deny"]
  · -- the check of the effect raises before the bump
    rw [if_pos heffect] at hrun
    cases hrun
  · rw [if_neg heffect] at hrun
    cases hrun
    refine movedBy_of_bump (tenant_ensureTenant w tenantKey) (fun name => ?_) (fun _ _ => rfl)
    dsimp only
    rw [hname, decisionNamespace_bump, decisionNamespace_invalidateResource]
    rfl

theorem movedBy_of_deleteAcl {aclId : Int}
    (hrun : (TenantWrite.deleteAcl aclId).run tenantKey w = some w') :
    MovedBy tenantKey 0 (fun name => if name = tenantKey then 1 else 0) w w' := by
  have hname : (w.tenant tenantKey).tenantKey = tenantKey := tenant_tenantKey _ _
  cases hrun
  refine movedBy_of_bump (tenant_ensureTenant w tenantKey) (fun name => ?_) (fun key _ => ?_)
  · dsimp only
    rw [hname, decisionNamespace_bump]
    -- an entry that is found has its resource invalidated as well
    split
    · rw [decisionNamespace_invalidateResource]
      rfl
    · rfl
  · dsimp only
    split
    · rfl
    · rfl

/-- A stored relationship deletes a document of the relationship cache, and no decision. -/
theorem movedBy_of_createRelationship {record : RelationshipRecord}
    (hrun : (TenantWrite.createRelationship record).run tenantKey w = some w') :
    MovedBy tenantKey 0 (fun name => if name = tenantKey then 1 else 0) w w' := by
  have hname : (w.tenant tenantKey).tenantKey = tenantKey := tenant_tenantKey _ _
  dsimp only [TenantWrite.run, KeyNetra.createRelationship] at hrun
  cases hcreate : (w.ensureTenant tenantKey).db.relationships.create
      (w.tenant tenantKey).id record with
  | error e =>
      rw [hcreate] at hrun
      cases hrun
  | ok created =>
      rw [hcreate] at hrun
      cases hrun
      refine movedBy_of_bump (tenant_ensureTenant w tenantKey) (fun name => ?_)
        (fun key hkey => ?_)
      · dsimp only
        rw [hname, decisionNamespace_bump, indexCacheInvalidateTenant,
          decisionNamespace_incr (hasKind_indexTenantKey _) (by decide)]
        rfl
      · have hne := hkey.ne (hasKind_relationshipKey (w.tenant tenantKey).id
          record.subjectType record.subjectId) (by decide)
        exact Backend.get_delete_ne _ hne

/-- What each completed write moves. -/
theorem movedBy_of_write (hregistered : w.Registered tenantKey) {write : TenantWrite}
    (hrun : write.run tenantKey w = some w') :
    MovedBy tenantKey write.versionStep (fun name => write.counterStep tenantKey name) w w' := by
  -- what a write checks raises before the bump; what it does is followed by one
  cases write with
  | policy change =>
      dsimp only [TenantWrite.run] at hrun
      cases hcommit : change.commit w.db.policies (w.tenant tenantKey).id with
      | error e =>
          rw [hcommit] at hrun
          cases hrun
      | ok policies =>
          rw [hcommit] at hrun
          cases hrun
          exact movedBy_of_policy hregistered change hcommit
  | createAcl draft => exact movedBy_of_createAcl hrun
  | deleteAcl aclId => exact movedBy_of_deleteAcl hrun
  | createRelationship record => exact movedBy_of_createRelationship hrun
  | createModel schemaText =>
      dsimp only [TenantWrite.run, createAuthModel] at hrun
      cases hcompiled : compileSchemaText schemaText with
      | error e =>
          rw [hcompiled] at hrun
          cases hrun
      | ok compiled =>
          rw [hcompiled] at hrun
          cases hrun
          exact movedBy_of_bump (tenant_ensureTenant w tenantKey) (fun _ => rfl) (fun _ _ => rfl)
  | editRoles users =>
      cases hrun
      refine movedBy_of_bump rfl (fun name => ?_) (fun _ _ => rfl)
      exact decisionNamespace_incr hasKind_indexGlobalKey (by decide)

/-- A write moves the decision keys of the names it is said to move, and no others. -/
theorem askingKey_of_write (hregistered : w.Registered tenantKey)
    {write : TenantWrite} (hrun : write.run tenantKey w = some w') (p : Asking) :
    w'.askingKey tenantKey p = w.askingKey tenantKey p ↔ ¬ write.Moves tenantKey p.name := by
  have hmoved := movedBy_of_write hregistered hrun
  have hversion := hmoved.version
  have hcounter := hmoved.counter p.name
  rw [not_moves_iff]
  constructor
  · intro hkeys
    -- the key tells the counter and the version
    have hparts := decisionKeyAt_inj.mp hkeys
    omega
  · rintro ⟨hversionStep, hcounterStep⟩
    unfold World.askingKey decisionCacheKey
    rw [hcounter, hcounterStep, hversion, hversionStep]
    simp

/-! ## Decision keys -/

/-- The decision key of a request; a request that cannot be resolved, or that bypasses
the decision cache, has none. -/
def World.requestKey? (w : World) (request : AuthorizeRequest) : Option String :=
  match (buildInput w request).1 with
  | .ok (input, tenant) => request.decisionKey? w.backend.counters tenant input
  | .error _ => none

/-- The decision the cache holds for a request. -/
def World.served? (w : World) (request : AuthorizeRequest) : Option CachedDecision :=
  (w.requestKey? request).bind (safeDecisionGet w.backend)

/-- The key of a request is that of what it asks for. -/
theorem requestKey?_eq (w : World) (request : AuthorizeRequest) :
    w.requestKey? request = (w.asking? request).map (w.askingKey request.tenantKey) := by
  unfold World.requestKey? World.asking?
  cases hbuilt : (buildInput w request).1 with
  | error e => rfl
  | ok resolved =>
      obtain ⟨input, tenant⟩ := resolved
      have htenant := buildInput_tenant hbuilt
      subst htenant
      simp only [AuthorizeRequest.decisionKey?, AuthorizeRequest.asking?]
      by_cases hfull : request.FullyConsistent
      · rw [if_pos hfull, if_pos hfull, Option.map_none]
      · rw [if_neg hfull, if_neg hfull, Option.map_some, World.askingKey]

theorem hasKind_askingKey (w : World) (tenantKey : String) (p : Asking) :
    HasKind "dec" (w.askingKey tenantKey p) := hasKind_decisionCacheKey _ _ _ _ _

/-- Two askings have one key when one repeats the other, and only then. -/
theorem askingKey_inj (hdigest : CollisionFreeDigest) {p q : Asking} :
    w.askingKey tenantKey p = w.askingKey tenantKey q ↔ p.Repeats q := by
  unfold World.askingKey decisionCacheKey
  constructor
  · intro hkeys
    rcases decisionKeyAt_eq (hdigest.hexadecimal _) (hdigest.hexadecimal _) hkeys with
      ⟨hname, -, hdigests⟩
    rcases sameJson_payload.mp ((hdigest.canonical _ _).mp hdigests) with ⟨-, htoken, hinput⟩
    exact ⟨hname, htoken, hinput⟩
  · rintro ⟨hname, htoken, hinput⟩
    have hdigests := (hdigest.canonical _ _).mpr (sameJson_payload.mpr
      ⟨hname, htoken, hinput⟩ : SameJson
        (decisionPayload p.name (w.tenant tenantKey).policyVersion p.token p.input)
        (decisionPayload q.name (w.tenant tenantKey).policyVersion q.token q.input))
    rw [hdigests, hname]

/-- The key was one of a name before writes moved its version or its counter. -/
def World.LeftBehind (tenantKey : String) (w : World) (key : String) : Prop :=
  ∃ name ns v digest, key = decisionKeyAt name ns v digest ∧ ':' ∉ digest.toList ∧
    ns ≤ decisionNamespace w.backend.counters name ∧ v ≤ (w.tenant tenantKey).policyVersion ∧
    (ns < decisionNamespace w.backend.counters name ∨ v < (w.tenant tenantKey).policyVersion)

/-- No asking has a key that was left behind. -/
theorem not_leftBehind (hdigest : CollisionFreeDigest) (p : Asking) :
    ¬ w.LeftBehind tenantKey (w.askingKey tenantKey p) := by
  rintro ⟨name, ns, v, digest, hkey, hcolon, -, -, hstrict⟩
  have hparts : decisionKeyAt p.name (decisionNamespace w.backend.counters p.name)
      (w.tenant tenantKey).policyVersion
      (PyRuntime.digest (decisionPayload p.name (w.tenant tenantKey).policyVersion p.token
        p.input)) = decisionKeyAt name ns v digest := hkey
  have hname := (decisionKeyAt_eq (hdigest.hexadecimal _) hcolon hparts).1
  rw [hname] at hparts
  rcases decisionKeyAt_inj.mp hparts with ⟨hns, hversion, -⟩
  omega

omit [PyRuntime] in
/-- Keys stay left behind. -/
theorem World.LeftBehind.moved {version : Nat} {counter : String → Nat} {key : String}
    (h : w.LeftBehind tenantKey key) (hmoved : MovedBy tenantKey version counter w w') :
    w'.LeftBehind tenantKey key := by
  rcases h with ⟨name, ns, v, digest, hkey, hcolon, hns, hv, hstrict⟩
  have hversion := hmoved.version
  have hcounter := hmoved.counter name
  refine ⟨name, ns, v, digest, hkey, hcolon, ?_, ?_, ?_⟩
  · omega
  · omega
  · omega

/-- A write leaves behind the keys it moves. -/
theorem leftBehind_of_write (hdigest : CollisionFreeDigest) (hregistered : w.Registered tenantKey)
    {write : TenantWrite} (hrun : write.run tenantKey w = some w') {p : Asking}
    (hmoves : write.Moves tenantKey p.name) :
    w'.LeftBehind tenantKey (w.askingKey tenantKey p) := by
  have hmoved := movedBy_of_write hregistered hrun
  have hversion := hmoved.version
  have hcounter := hmoved.counter p.name
  have hstep : ¬ (write.versionStep = 0 ∧ write.counterStep tenantKey p.name = 0) :=
    fun h => not_moves_iff.mpr h hmoves
  refine ⟨p.name, _, _, _, rfl, hdigest.hexadecimal _, ?_, ?_, ?_⟩
  · omega
  · omega
  · omega

end DecisionKeys

end KeyNetra
