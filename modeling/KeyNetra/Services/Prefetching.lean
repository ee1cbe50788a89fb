import KeyNetra.Repo.Rbac
import KeyNetra.Services.ImpactAnalysis
import KeyNetra.Services.Relationships

/-!
# KeyNetra.Services.Prefetching — an impact analysis with and without its batched reads

Before its loop the analyzer reads the contexts and the relationships of all users at once. Where
such a read raises, or gives nothing for a user, the loop reads that user by itself.

* `RbacTables.getUserContexts` — the contexts built of many users, should their query come;
* `lookup_getUserContexts` — it gives each user that was asked for the context it has;
* `prefetch_irrelevant` — over one database the analyzer answers alike, whichever of the batched
  reads come.
-/

namespace KeyNetra

/-! ## Many users at once -/

/-- The contexts that `get_user_contexts` builds from the users it has read. -/
def RbacTables.getUserContexts (t : RbacTables) (userIds : List Int) : List (Int × UserContext) :=
  if userIds = [] then []
  else (t.userRows.filter fun user => userIds.contains user.id).map fun user =>
    let roles := sortedSet (user.roles.map RoleRow.name)
    (user.id,
      { id := user.id
        role := roles.head?
        roles := roles
        permissions := sortedSet (user.roles.flatMap RoleRow.permissions) })

/-- A user that was asked for has the context it has by itself, and no other user has one. -/
theorem lookup_getUserContexts (t : RbacTables) (userIds : List Int) (userId : Int) :
    (t.getUserContexts userIds).lookup userId =
      if userId ∈ userIds then getUserContext t.userRows userId else none := by
  unfold RbacTables.getUserContexts getUserContext
  split
  · -- no ids were asked for
    rename_i hempty
    rw [hempty, if_neg List.not_mem_nil]
    rfl
  · generalize t.userRows = users
    induction users with
    | nil => simp
    | cons user users ih =>
        rw [List.find?_cons, List.filter_cons]
        by_cases hasked : userIds.contains user.id = true
        · -- a row that was asked for is in the list, under its id
          rw [if_pos hasked, List.map_cons, List.lookup_cons]
          by_cases hid : user.id = userId
          · have hmem : userId ∈ userIds := hid ▸ List.contains_iff_mem.mp hasked
            simp [hid, hmem]
          · have hother : (userId == user.id) = false := beq_eq_false_iff_ne.mpr (Ne.symm hid)
            rw [hother]
            dsimp only
            rw [ih]
            simp [hid]
        · -- a row that was not is in neither
          rw [if_neg hasked, ih]
          by_cases hid : user.id = userId
          · have hmem : userId ∉ userIds := by
              rw [← hid]
              exact fun hmem => hasked (List.contains_iff_mem.mpr hmem)
            rw [if_neg hmem, if_neg hmem]
          · simp [hid]

/-! ## The analyzer -/

section Analyzer

variable [PyRuntime]

/-- What the loop reads for a user without a batched read. -/
def plainRound (db : Database) (tenantId userId : Int) : Except PyError (Dict × List Dict) :=
  (db.impact tenantId).round [] [] userId

/-- Repositories of one database and tenant, of which the batched reads may raise. -/
structure ImpactRepositories.Reads (repos : ImpactRepositories) (db : Database) (t : RbacTables)
    (tenantId : Int) : Prop where
  users : db.users = t.userRows
  listCurrentPolicies : repos.listCurrentPolicies = (db.impact tenantId).listCurrentPolicies
  listUserIds : repos.listUserIds = (db.impact tenantId).listUserIds
  getUserContext : repos.getUserContext = (db.impact tenantId).getUserContext
  listForSubject : repos.listForSubject = (db.impact tenantId).listForSubject
  getUserContexts : ∀ userIds contexts, repos.getUserContexts userIds = .ok contexts →
    ∀ userId, contexts.lookup userId =
      ((t.getUserContexts userIds).lookup userId).map UserContext.toDict
  listForSubjects : ∀ subjectIds lists, repos.listForSubjects subjectIds = .ok lists →
    ∀ subjectId, Assoc.get? lists subjectId =
      db.relationships.listForSubjects tenantId "user" subjectIds subjectId

variable {repos : ImpactRepositories} {db : Database} {t : RbacTables} {tenantId : Int}

omit [PyRuntime] in
/-- The context of a user, whether it was read with the others or not. -/
theorem context_of_reads (h : repos.Reads db t tenantId) (userIds : List Int) (userId : Int) :
    repos.context (orEmpty (repos.getUserContexts userIds)) userId =
      (db.impact tenantId).context [] userId := by
  have hplain : (db.impact tenantId).context [] userId =
      ((getUserContext t.userRows userId).map UserContext.toDict).getD (defaultContext userId) := by
    unfold ImpactRepositories.context Database.impact
    dsimp only
    rw [h.users]
    cases getUserContext t.userRows userId <;> rfl
  have hsingle : repos.context [] userId = (db.impact tenantId).context [] userId := by
    unfold ImpactRepositories.context
    rw [h.getUserContext]
  cases hbatch : repos.getUserContexts userIds with
  | error e => exact hsingle
  | ok contexts =>
      have hlookup := h.getUserContexts userIds contexts hbatch userId
      rw [lookup_getUserContexts] at hlookup
      show repos.context contexts userId = _
      -- a user that the batched read does not give is read alone
      have hmissed (h : ∀ item items, contexts.lookup userId ≠ some (item :: items)) :
          repos.context contexts userId = (db.impact tenantId).context [] userId := by
        rw [← hsingle]
        unfold ImpactRepositories.context
        split
        · rename_i item items hfound
          exact absurd hfound (h item items)
        · rfl
      cases hfound : contexts.lookup userId with
      | none => exact hmissed (by simp [hfound])
      | some context =>
          cases context with
          | nil => exact hmissed (by simp [hfound])
          | cons item items =>
              have hread : repos.context contexts userId = item :: items := by
                unfold ImpactRepositories.context
                rw [hfound]
              rw [hfound] at hlookup
              split at hlookup
              · rw [hread, hplain, ← hlookup]
                rfl
              · cases hlookup

omit [PyRuntime] in
/-- A user's context names the user. -/
theorem context_id (db : Database) (tenantId userId : Int) :
    Dict.get ((db.impact tenantId).context [] userId) "id" = .int userId := by
  unfold ImpactRepositories.context Database.impact
  dsimp only
  cases hcontext : getUserContext db.users userId with
  | none => rfl
  | some context =>
      obtain ⟨user, hfind, hmade⟩ := Option.map_eq_some_iff.mp hcontext
      have hid : user.id = userId := by simpa using List.find?_some hfind
      show Value.int context.id = .int userId
      rw [← hmade, ← hid]

/-- What the loop reads for a user it was asked about, with or without the batched reads. -/
theorem prefetched_of_reads (h : repos.Reads db t tenantId) {userIds : List Int} {userId : Int}
    (hmem : userId ∈ userIds) : repos.prefetched userIds userId = plainRound db tenantId userId := by
  have hcontext := context_of_reads h userIds userId
  have hresources : repos.candidateResources userId =
      (db.impact tenantId).candidateResources userId := by
    unfold ImpactRepositories.candidateResources
    rw [h.listForSubject]
  have hrelations : ∀ user, Dict.get user "id" = .int userId →
      repos.enrichUserWithRelationships user
          (Assoc.get? (orEmpty (repos.listForSubjects (userIds.map toString)))
            (toString userId)) =
        (db.impact tenantId).enrichUserWithRelationships user none := by
    intro user hid
    -- read alone, a user has the relationships listed for it
    have hplain : (db.impact tenantId).enrichUserWithRelationships user none =
        .ok (withRelations user
          (db.relationships.listForSubject tenantId "user" (toString userId))) := by
      unfold ImpactRepositories.enrichUserWithRelationships
      rw [hid]
      rfl
    have hsingle : repos.enrichUserWithRelationships user none =
        (db.impact tenantId).enrichUserWithRelationships user none := by
      unfold ImpactRepositories.enrichUserWithRelationships
      rw [h.listForSubject]
    -- if the batched read raised, it is read alone; else the list has it
    cases hbatch : repos.listForSubjects (userIds.map toString) with
    | error e => exact hsingle
    | ok lists =>
        have hlookup := h.listForSubjects _ lists hbatch (toString userId)
        rw [RelationshipTable.listForSubjects_apply,
          if_pos (List.mem_map_of_mem (f := toString) hmem)] at hlookup
        show repos.enrichUserWithRelationships user (Assoc.get? lists (toString userId)) = _
        rw [hlookup, hplain]
        unfold ImpactRepositories.enrichUserWithRelationships
        rw [hid]
        rfl
  unfold ImpactRepositories.prefetched plainRound ImpactRepositories.round
  rw [hcontext, hresources, hrelations _ (context_id db tenantId userId)]
  rfl

/-- The loop reads the round of each user it visits only. -/
theorem foldlM_compareUser {beforeEngine afterEngine : KeyNetraEngine} {action : String}
    {round round' : Int → Except PyError (Dict × List Dict)} {userIds : List Int}
    (hrounds : ∀ userId ∈ userIds, round userId = round' userId) (sets : AccessSets) :
    userIds.foldlM (compareUser beforeEngine afterEngine action round) sets =
      userIds.foldlM (compareUser beforeEngine afterEngine action round') sets := by
  induction userIds generalizing sets with
  | nil => rfl
  | cons userId userIds ih =>
      have hfirst : compareUser beforeEngine afterEngine action round sets userId =
          compareUser beforeEngine afterEngine action round' sets userId := by
        unfold compareUser
        rw [hrounds userId List.mem_cons_self]
      rw [List.foldlM_cons, List.foldlM_cons, hfirst]
      have hrest := ih fun other hmem => hrounds other (List.mem_cons_of_mem userId hmem)
      simp only [hrest]

/-- The analyzer with the reads of one database is one that reads each user by itself. -/
theorem analyze_plain (h : repos.Reads db t tenantId) (yaml : YamlReader) (policyChange : String) :
    analyzePolicyChange yaml repos policyChange = (do
      let changedPolicy ← dslToPolicy yaml policyChange
      let current := (db.policies.listCurrentPolicies tenantId).map fun policy =>
        PolicySource.definition policy.definition
      let beforeEngine ← KeyNetraEngine.new current
      let afterEngine ← KeyNetraEngine.new (current ++ [.raw changedPolicy.raw])
      let sets ← (Lib.sortOn id (db.users.map UserRow.id)).foldlM
        (compareUser beforeEngine afterEngine changedPolicy.action (plainRound db tenantId)) {}
      .ok ⟨sortedIds sets.gained, sortedIds sets.lost⟩) := by
  unfold analyzePolicyChange
  rw [h.listCurrentPolicies, h.listUserIds]
  simp only [Database.impact, Lib.ok_bind]
  simp only [foldlM_compareUser fun userId hmem => prefetched_of_reads h hmem]

omit [PyRuntime] in
/-- The repositories over SQL read their database. -/
theorem impact_reads (hdb : db.users = t.userRows) : (db.impact tenantId).Reads db t tenantId where
  users := hdb
  listCurrentPolicies := rfl
  listUserIds := rfl
  getUserContext := rfl
  listForSubject := rfl
  getUserContexts := by
    intro userIds contexts hcontexts userId
    have hread : KeyNetra.getUserContexts db.users userIds = .ok contexts := hcontexts
    unfold KeyNetra.getUserContexts at hread
    split at hread
    · cases hread
    · -- it comes only when none of the users is stored
      rename_i hnone
      cases hread
      rw [lookup_getUserContexts, ← hdb]
      split
      · rename_i hasked
        have hmissing : db.users.find? (·.id = userId) = none := by
          apply List.find?_eq_none.mpr
          intro user hmem hid
          have hany : (db.users.any fun user => userIds.contains user.id) = true := by
            refine List.any_eq_true.mpr ⟨user, hmem, ?_⟩
            rw [of_decide_eq_true hid]
            exact List.contains_iff_mem.mpr hasked
          exact hnone hany
        unfold getUserContext
        rw [hmissing]
        rfl
      · rfl
  listForSubjects := by
    intro subjectIds lists hlists subjectId
    cases hlists
    rw [RelationshipTable.listForSubjects_apply]
    induction subjectIds with
    | nil => rfl
    | cons first subjectIds ih =>
        rw [List.map_cons, Assoc.get?_cons, ih]
        by_cases hfirst : first = subjectId
        · subst hfirst
          simp
        · simp [hfirst, Ne.symm hfirst]

/-- Over one database the analyzer answers alike, whether its batched reads come, raise, or give
what the queries for many give. -/
theorem prefetch_irrelevant (h : repos.Reads db t tenantId) (yaml : YamlReader)
    (policyChange : String) :
    analyzePolicyChange yaml repos policyChange =
      analyzePolicyChange yaml (db.impact tenantId) policyChange := by
  rw [analyze_plain h, analyze_plain (impact_reads h.users)]

end Analyzer

section Concrete

attribute [local instance] plainRuntime

theorem oneUser_ids : ([7] : List Int).Nodup := List.nodup_singleton 7

theorem oneUser_noIds : ([] : List Int).Nodup := List.nodup_nil

theorem oneUser_noNames : ([] : List String).Nodup := List.nodup_nil

theorem oneUser_noLinks : ([] : List (Int × Int)).Nodup := List.nodup_nil

/-- The one user, in the tables of its roles. -/
def oneUserTables : RbacTables where
  users := [⟨7, none⟩]
  roles := ⟨[], oneUser_noIds, oneUser_noNames⟩
  permissions := ⟨[], oneUser_noIds, oneUser_noNames⟩
  userRoles := []
  rolePermissions := []
  userIds := oneUser_ids
  userRolesKey := oneUser_noLinks
  rolePermissionsKey := oneUser_noLinks

/-- Repositories whose batched reads raise. -/
def brokenBatches : ImpactRepositories :=
  { oneUser.impact 1 with
    getUserContexts := fun _ => .error (.valueError "too many SQL variables")
    listForSubjects := fun _ => .error (.valueError "too many SQL variables") }

theorem brokenBatches_reads : brokenBatches.Reads oneUser oneUserTables 1 where
  users := rfl
  listCurrentPolicies := rfl
  listUserIds := rfl
  getUserContext := rfl
  listForSubject := rfl
  getUserContexts _ _ h := by cases h
  listForSubjects _ _ h := by cases h

theorem broken_batches_same :
    analyzePolicyChange allowRead brokenBatches "" =
      analyzePolicyChange allowRead (oneUser.impact 1) "" :=
  prefetch_irrelevant brokenBatches_reads allowRead ""

end Concrete

end KeyNetra
