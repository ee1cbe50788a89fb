import KeyNetra.Engine.PolicyLists
import KeyNetra.Repo.Tables
import KeyNetra.Services.Authorization
import KeyNetra.Services.PolicyDsl

/-!
# KeyNetra.Services.ImpactAnalysis — who gains and who loses by a change

`ImpactAnalyzer.analyze_policy_change` decides the changed action for every user on every
resource the user is linked to, by the current policies and with the change appended.

* `ImpactRepositories` — the repository calls of the analyzer, each of which may raise;
* `analyzePolicyChange` — the analyzer, `Database.impact` its repositories over SQL, of which
  the read of all contexts raises as soon as there are users;
* `effect_monotone` — an allow change takes no access away, a deny change gives none.
-/

namespace KeyNetra

section Analyzer

variable [PyRuntime]

/-! ## The analyzer -/

/-- The repositories of one tenant. A method a repository lacks gives nothing. -/
structure ImpactRepositories where
  listCurrentPolicies : Except PyError (List PolicyRecord)
  listUserIds : Except PyError (List Int)
  getUserContexts : List Int → Except PyError (List (Int × Dict))
  getUserContext : Int → Except PyError (Option Dict)
  listForSubjects : List String → Except PyError (Assoc (List RelationshipRecord))
  listForSubject : String → Except PyError (List RelationshipRecord)

/-- `ImpactResult`. -/
structure ImpactResult where
  gainedAccess : List Int
  lostAccess : List Int
deriving DecidableEq, Repr

/-- The context of a user none is stored for. -/
def defaultContext (userId : Int) : Dict :=
  [("id", .int userId), ("roles", .list []), ("permissions", .list [])]

/-- A context that is missing or empty gives way to the next. -/
def contextOr (context : Option Dict) (next : Dict) : Dict :=
  match context with
  | some (item :: items) => item :: items
  | _ => next

/-- The context of a user: of the list, else by itself, else the default. -/
def ImpactRepositories.context (repos : ImpactRepositories) (userContexts : List (Int × Dict))
    (userId : Int) : Dict :=
  match userContexts.lookup userId with
  | some (item :: items) => item :: items
  | _ =>
      match repos.getUserContext userId with
      | .ok context => contextOr context (defaultContext userId)
      | .error _ => defaultContext userId

/-- `ImpactAnalyzer._enrich_user_with_relationships`. -/
def ImpactRepositories.enrichUserWithRelationships (repos : ImpactRepositories) (user : Dict)
    (prefetched : Option (List RelationshipRecord)) : Except PyError Dict :=
  let id := Dict.get user "id"
  match id.int?, prefetched with
  | none, _ => .ok user
  | some _, some records => .ok (withRelations user records)
  | some _, none => do
      let records ← repos.listForSubject id.text
      .ok (withRelations user records)

/-- A resource a user is asked about. -/
def candidateResource (resourceType resourceId : String) (userId : Int) : Dict :=
  [("resource_type", .str resourceType), ("resource_id", .str resourceId),
    ("owner_id", .int userId)]

/-- `ImpactAnalyzer._candidate_resources`. -/
def ImpactRepositories.candidateResources (repos : ImpactRepositories) (userId : Int) :
    Except PyError (List Dict) := do
  let relationships ← repos.listForSubject (toString userId)
  .ok (candidateResource "document" s!"user-{userId}" userId ::
    relationships.map fun relation =>
      candidateResource relation.objectType relation.objectId userId)

/-- The user and the resources of one round of the loop. -/
def ImpactRepositories.round (repos : ImpactRepositories) (userContexts : List (Int × Dict))
    (relationshipMap : Assoc (List RelationshipRecord)) (userId : Int) :
    Except PyError (Dict × List Dict) := do
  let user ← repos.enrichUserWithRelationships (repos.context userContexts userId)
    (relationshipMap.get? (toString userId))
  let resources ← repos.candidateResources userId
  .ok (user, resources)

/-- The sets `gained` and `lost`. -/
structure AccessSets where
  gained : List Int := []
  lost : List Int := []

/-- The request of one comparison. -/
def impactInput (action : String) (user resource : Dict) : AuthorizationInput where
  user := user
  resource := resource
  action := action

/-- One comparison of the two engines. -/
def compareDecisions (beforeEngine afterEngine : KeyNetraEngine) (userId : Int)
    (input : AuthorizationInput) (sets : AccessSets) : Except PyError AccessSets := do
  let before ← beforeEngine.decide input
  let after ← afterEngine.decide input
  .ok
    { gained := if !before.allowed && after.allowed then sets.gained ++ [userId] else sets.gained
      lost := if before.allowed && !after.allowed then sets.lost ++ [userId] else sets.lost }

/-- One round of the loop over the users; a user whose data cannot be read is skipped. -/
def compareUser (beforeEngine afterEngine : KeyNetraEngine) (action : String)
    (round : Int → Except PyError (Dict × List Dict)) (sets : AccessSets) (userId : Int) :
    Except PyError AccessSets :=
  match round userId with
  | .error _ => .ok sets
  | .ok (user, resources) =>
      resources.foldlM (fun sets resource =>
        compareDecisions beforeEngine afterEngine userId (impactInput action user resource) sets)
        sets

/-- `sorted(ids)` of a set. -/
def sortedIds (ids : List Int) : List Int := Lib.sortOn id ids.dedup

/-- `{}` where the call raises. -/
def orEmpty {α : Type} : Except PyError (List α) → List α
  | .ok items => items
  | .error _ => []

/-- What the loop reads for a user, with what was prefetched for all of them. -/
def ImpactRepositories.prefetched (repos : ImpactRepositories) (userIds : List Int) :
    Int → Except PyError (Dict × List Dict) :=
  repos.round (orEmpty (repos.getUserContexts userIds))
    (orEmpty (repos.listForSubjects (userIds.map toString)))

/-- `ImpactAnalyzer.analyze_policy_change`. -/
def analyzePolicyChange (yaml : YamlReader) (repos : ImpactRepositories) (policyChange : String) :
    Except PyError ImpactResult := do
  let currentPolicies ← repos.listCurrentPolicies
  let changedPolicy ← dslToPolicy yaml policyChange
  let current := currentPolicies.map fun policy => PolicySource.definition policy.definition
  let beforeEngine ← KeyNetraEngine.new current
  let afterEngine ← KeyNetraEngine.new (current ++ [.raw changedPolicy.raw])
  match repos.listUserIds with
  | .error _ => .ok ⟨[], []⟩
  | .ok userIds => do
      let sets ← userIds.foldlM
        (compareUser beforeEngine afterEngine changedPolicy.action (repos.prefetched userIds)) {}
      .ok ⟨sortedIds sets.gained, sortedIds sets.lost⟩

/-! ## The repositories over SQL -/

/-- The dictionary of `get_user_context`. -/
def UserContext.toDict (context : UserContext) : Dict :=
  [("id", .int context.id), ("role", .ofOption context.role),
    ("roles", .list (context.roles.map .str)),
    ("permissions", .list (context.permissions.map .str))]

/-- `SqlUserRepository.get_user_contexts`: the rows are joined with their roles and read
without `unique()`, which the session refuses as soon as there is one. -/
def getUserContexts (users : List UserRow) (userIds : List Int) :
    Except PyError (List (Int × Dict)) :=
  if users.any fun user => userIds.contains user.id then
    .error (.invalidRequestError "The unique() method must be invoked on this Result")
  else .ok []

/-- The analyzer's repositories over a database. -/
def Database.impact (db : Database) (tenantId : Int) : ImpactRepositories where
  listCurrentPolicies := .ok (db.policies.listCurrentPolicies tenantId)
  listUserIds := .ok (Lib.sortOn id (db.users.map UserRow.id))
  getUserContexts := KeyNetra.getUserContexts db.users
  getUserContext userId := .ok ((getUserContext db.users userId).map UserContext.toDict)
  listForSubjects subjectIds := .ok (subjectIds.map fun subjectId =>
    (subjectId, db.relationships.listForSubject tenantId "user" subjectId))
  listForSubject subjectId := .ok (db.relationships.listForSubject tenantId "user" subjectId)

/-! ## One-sided changes -/

variable {policies : List PolicyDefinition} {policy : PolicyDefinition} {userId : Int}
  {input : AuthorizationInput} {sets sets' : AccessSets}

/-- A change of this effect has noted nothing it cannot do. -/
def AccessSets.OneSided (effect : Effect) (sets : AccessSets) : Prop :=
  (effect = .allow → sets.lost = []) ∧ (effect = .deny → sets.gained = [])

/-- The same for the result. -/
def ImpactResult.OneSided (effect : Effect) (result : ImpactResult) : Prop :=
  (effect = .allow → result.lostAccess = []) ∧ (effect = .deny → result.gainedAccess = [])

/-- A comparison keeps the sets one-sided. -/
theorem compareDecisions_oneSided (hsets : sets.OneSided policy.effect)
    (h : compareDecisions (listEngine policies) (listEngine (policies ++ [policy])) userId input
      sets = .ok sets') : sets'.OneSided policy.effect := by
  rcases Lib.bind_eq_ok.mp h with ⟨before, hbefore, hrest⟩
  rcases Lib.bind_eq_ok.mp hrest with ⟨after, hafter, hsets'⟩
  have hadded := @allowed_added _ policy input policies [] before after
    (by rw [List.append_nil]; exact hbefore) hafter
  rw [← Except.ok.inj hsets']
  constructor
  · intro hallow
    have hkept := hadded.1 hallow
    -- an allow policy takes nothing away
    have hlost : (before.allowed && !after.allowed) = false := by
      rcases hb : before.allowed with _ | _
      · rfl
      · rw [hkept hb]
        rfl
    dsimp only
    rw [hlost, if_neg (by simp)]
    exact hsets.1 hallow
  · intro hdeny
    have hkept := hadded.2 hdeny
    -- a deny policy gives nothing
    have hgained : (!before.allowed && after.allowed) = false := by
      rcases ha : after.allowed with _ | _
      · rw [Bool.and_false]
      · rw [hkept ha]
        rfl
    dsimp only
    rw [hgained, if_neg (by simp)]
    exact hsets.2 hdeny

/-- A comparison in which no handler raises returns. -/
theorem compareDecisions_returns (hraise : NoHandlerRaises (policies ++ [policy]) input)
    (sets : AccessSets) : ∃ sets', compareDecisions (listEngine policies)
      (listEngine (policies ++ [policy])) userId input sets = .ok sets' := by
  have hbefore : NoHandlerRaises policies input := by
    intro other hother
    exact hraise other (List.mem_append_left _ hother)
  have ⟨before, hdecided⟩ := decide_returns hbefore
  have ⟨after, hdecided'⟩ := decide_returns hraise
  unfold compareDecisions
  rw [hdecided, Lib.ok_bind, hdecided', Lib.ok_bind]
  exact ⟨_, rfl⟩

variable {yaml : YamlReader} {repos : ImpactRepositories} {policyChange : String}
  {change : DslPolicy} {records : List PolicyRecord}

/-- The requests the analyzer compares. -/
def ImpactRepositories.Asks (repos : ImpactRepositories) (action : String)
    (input : AuthorizationInput) : Prop :=
  ∃ userIds userId user resources resource, repos.listUserIds = .ok userIds ∧ userId ∈ userIds ∧
    repos.prefetched userIds userId = .ok (user, resources) ∧ resource ∈ resources ∧
    input = impactInput action user resource

/-- The two engines of a change. -/
theorem impact_engines (records : List PolicyRecord) (change : DslPolicy) :
    KeyNetraEngine.new (records.map fun record => .definition record.definition) =
        .ok (listEngine (records.map PolicyRecord.definition)) ∧
      KeyNetraEngine.new ((records.map fun record => .definition record.definition) ++
          [.raw change.raw]) =
        .ok (listEngine (records.map PolicyRecord.definition ++ [change.definition])) := by
  have hcurrent : (records.map fun record => PolicySource.definition record.definition).mapM
      PolicySource.parse = .ok (records.map PolicyRecord.definition) := by
    rw [List.mapM_map]
    exact Lib.mapM_ok PolicyRecord.definition records
  constructor
  · exact new_eq hcurrent
  · apply new_eq
    rw [List.mapM_append, hcurrent, Lib.ok_bind, List.mapM_cons, parse_raw]
    rfl

/-- The analyzer over a change that parses, as its two loops. -/
theorem analyzePolicyChange_eq (hdsl : dslToPolicy yaml policyChange = .ok change)
    (hrecords : repos.listCurrentPolicies = .ok records) :
    analyzePolicyChange yaml repos policyChange =
      match repos.listUserIds with
      | .error _ => .ok ⟨[], []⟩
      | .ok userIds => (do
          let sets ← userIds.foldlM
            (compareUser (listEngine (records.map PolicyRecord.definition))
              (listEngine (records.map PolicyRecord.definition ++ [change.definition]))
              change.action (repos.prefetched userIds)) {}
          .ok ⟨sortedIds sets.gained, sortedIds sets.lost⟩) := by
  have hengines := impact_engines records change
  unfold analyzePolicyChange
  rw [hrecords, Lib.ok_bind, hdsl, Lib.ok_bind]
  dsimp only
  rw [hengines.1, Lib.ok_bind, hengines.2, Lib.ok_bind]

/-- A result is one-sided. -/
theorem analyze_oneSided (hdsl : dslToPolicy yaml policyChange = .ok change)
    (hrecords : repos.listCurrentPolicies = .ok records) {result : ImpactResult}
    (h : analyzePolicyChange yaml repos policyChange = .ok result) :
    result.OneSided change.effect := by
  rw [analyzePolicyChange_eq hdsl hrecords] at h
  rcases hids : repos.listUserIds with e | userIds
  · rw [hids] at h
    rw [← Except.ok.inj h]
    exact ⟨fun _ => rfl, fun _ => rfl⟩
  · rw [hids] at h
    rcases Lib.bind_eq_ok.mp h with ⟨sets, hloop, hresult⟩
    -- over the users, and for each over its resources
    have hsets : sets.OneSided change.effect := by
      refine Lib.foldlM_inv ?_ ⟨fun _ => rfl, fun _ => rfl⟩ hloop
      intro sets userId sets' _ hsets hround
      unfold compareUser at hround
      rcases hread : repos.prefetched userIds userId with e | ⟨user, resources⟩
      · rw [hread] at hround
        rw [← Except.ok.inj hround]
        exact hsets
      · rw [hread] at hround
        refine Lib.foldlM_inv ?_ hsets hround
        intro sets resource sets' _ hsets hcompare
        exact @compareDecisions_oneSided _ _ change.definition _ _ _ _ hsets hcompare
    rw [← Except.ok.inj hresult]
    constructor
    · intro hallow
      dsimp only
      rw [hsets.1 hallow]
      rfl
    · intro hdeny
      dsimp only
      rw [hsets.2 hdeny]
      rfl

/-- The analyzer returns when no handler raises on what it compares. -/
theorem analyze_returns (hdsl : dslToPolicy yaml policyChange = .ok change)
    (hrecords : repos.listCurrentPolicies = .ok records)
    (hraise : ∀ asked, repos.Asks change.action asked →
      NoHandlerRaises (records.map PolicyRecord.definition ++ [change.definition]) asked) :
    ∃ result, analyzePolicyChange yaml repos policyChange = .ok result := by
  rw [analyzePolicyChange_eq hdsl hrecords]
  rcases hids : repos.listUserIds with e | userIds
  · exact ⟨_, rfl⟩
  · have hloop := @Lib.foldlM_returns _ _ _ (compareUser
      (listEngine (records.map PolicyRecord.definition))
      (listEngine (records.map PolicyRecord.definition ++ [change.definition])) change.action
      (repos.prefetched userIds)) userIds ?_ {}
    · -- the loop over the users returns
      rcases hloop with ⟨sets, hsets⟩
      dsimp only
      rw [hsets, Lib.ok_bind]
      exact ⟨_, rfl⟩
    · -- for each of them the loop over the resources does
      intro sets userId huser
      unfold compareUser
      rcases hread : repos.prefetched userIds userId with e | ⟨user, resources⟩
      · exact ⟨_, rfl⟩
      · apply Lib.foldlM_returns
        intro sets resource hresource
        apply compareDecisions_returns
        exact hraise _ ⟨userIds, userId, user, resources, resource, hids, huser, hread, hresource,
          rfl⟩

/-- One more policy, placed anywhere, no handler of which raises: an allow takes no access
away and a deny gives none. So an allow change is analysed without lost access, a deny change
without gained access; and the analysis returns when no handler raises on the requests it
compares. -/
theorem effect_monotone {front back : List PolicySource} {added : PolicySource}
    {engine engine' : KeyNetraEngine} {override : Option DecisionGraph}
    (hadded : added.parse = .ok policy)
    (hwithout : KeyNetraEngine.new (front ++ back) = .ok engine)
    (hwith : KeyNetraEngine.new (front ++ added :: back) = .ok engine')
    (hraise : NoHandlerRaises [policy] input)
    (hdsl : dslToPolicy yaml policyChange = .ok change)
    (hrecords : repos.listCurrentPolicies = .ok records) :
    ((policy.effect = .allow → engine.Allows input override → engine'.Allows input override) ∧
        (policy.effect = .deny → engine'.Allows input override → engine.Allows input override)) ∧
      (∀ result, analyzePolicyChange yaml repos policyChange = .ok result →
        (change.effect = .allow → result.lostAccess = []) ∧
          (change.effect = .deny → result.gainedAccess = [])) ∧
      ((∀ asked, repos.Asks change.action asked →
          NoHandlerRaises (records.map PolicyRecord.definition ++ [change.definition]) asked) →
        ∃ result, analyzePolicyChange yaml repos policyChange = .ok result) := by
  refine ⟨?_, ?_, ?_⟩
  · rcases new_ok_iff.mp hwith with ⟨policies', hparse', rfl⟩
    rcases new_ok_iff.mp hwithout with ⟨policies, hparse, rfl⟩
    -- the two lists parse part by part
    rw [List.mapM_append] at hparse hparse'
    rcases Lib.bind_eq_ok.mp hparse with ⟨before, hbefore, hrest⟩
    rcases Lib.bind_eq_ok.mp hrest with ⟨after, hafter, hpolicies⟩
    rw [hbefore, Lib.ok_bind, List.mapM_cons, hadded, Lib.ok_bind, hafter] at hparse'
    have hlonger : before ++ policy :: after = policies' := Except.ok.inj hparse'
    have hshorter : before ++ after = policies := Except.ok.inj hpolicies
    rw [← hlonger, ← hshorter]
    exact allows_added hraise
  · intro result h
    exact analyze_oneSided hdsl hrecords h
  · intro hasked
    exact analyze_returns hdsl hrecords hasked

end Analyzer

/-! ## A concrete change -/

section Concrete

attribute [local instance] plainRuntime

/-- A database with one user, linked to one document, and no policy. -/
def oneUser : Database where
  tenants := ⟨[], by simp, by simp⟩
  acl := ⟨[], by simp⟩
  relationships := ⟨[⟨1, 1, ⟨"user", "7", "viewer", "document", "42"⟩⟩], by simp, by simp⟩
  users := [⟨7, []⟩]
  authModels := []
  policies := .empty

/-- A reader for which every text is `allow: {action: read}`. -/
def allowRead : YamlReader := fun _ => .ok (.dict [("allow", .dict [("action", .str "read")])])

/-- What the text says. -/
def allowReadPolicy : DslPolicy where
  action := "read"
  effect := .allow
  priority := 100
  conditions := [("policy_key", .str "read")]

/-- A deny for everyone behind the admin's allow, and an allow change for one user. -/
theorem effect_monotone_read :
    ((Effect.deny = .allow →
          (listEngine [readPolicies[0]]).Allows adminRead → (listEngine readPolicies).Allows adminRead) ∧
        (Effect.deny = .deny →
          (listEngine readPolicies).Allows adminRead →
            (listEngine [readPolicies[0]]).Allows adminRead)) ∧
      (∀ result, analyzePolicyChange allowRead (oneUser.impact 1) "" = .ok result →
        (Effect.allow = .allow → result.lostAccess = []) ∧
          (Effect.allow = .deny → result.gainedAccess = [])) ∧
      ((∀ asked, (oneUser.impact 1).Asks "read" asked →
          NoHandlerRaises [allowReadPolicy.definition] asked) →
        ∃ result, analyzePolicyChange allowRead (oneUser.impact 1) "" = .ok result) := by
  have hadded : readSources[1].parse = .ok readPolicies[1] := rfl
  have hwithout : KeyNetraEngine.new ([readSources[0]] ++ []) =
      .ok (listEngine [readPolicies[0]]) := new_eq rfl
  have hwith : KeyNetraEngine.new ([readSources[0]] ++ readSources[1] :: []) =
      .ok (listEngine readPolicies) := new_eq rfl
  have hraise : NoHandlerRaises [readPolicies[1]] adminRead := by
    intro policy hpolicy _
    rw [List.mem_singleton.mp hpolicy]
    exact ⟨_, rfl⟩
  have hdsl : dslToPolicy allowRead "" = .ok allowReadPolicy := rfl
  have hrecords : (oneUser.impact 1).listCurrentPolicies = .ok [] := rfl
  exact effect_monotone hadded hwithout hwith hraise hdsl hrecords

/-- The change gives the user access. -/
example : analyzePolicyChange allowRead (oneUser.impact 1) "" = .ok ⟨[7], []⟩ := by
  decide +kernel

end Concrete

end KeyNetra
