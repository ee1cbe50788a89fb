import KeyNetra.Lib.ReadThrough
import KeyNetra.Services.Authorization

/-!
# KeyNetra.Services.Freshness — authorization against the tables

What the tables alone decide, and when the service with its caches decides the
same.

* `World.storeInput` / `World.storeDecision` — the authorization of a request
  over the tables: no cache is read or written;
* `Fresh` — no document that a live lookup can hit contradicts the tables;
* `Warmed` — a world with more documents, still fresh, over the same tables;
* `authorize_spec` — a request that bypasses the decision cache is answered as
  the tables say, and every request leaves a warmed world.

Each part of the service gets one spec lemma: what it returns, over the tables,
and that it warms the world.
-/

namespace KeyNetra

section Freshness

variable [PyRuntime]

/-! ## What the tables say -/

/-- The hydrated user of the stored rows. -/
def World.storeUser (w : World) (tenantKey : String) (user : Dict) : Dict :=
  let user := withDirectPermissions user
  let id := Dict.get user "id"
  match id.int? with
  | none => user
  | some userId =>
      withRelations (withUserContext user (getUserContext w.db.users userId))
        (w.db.relationships.listForSubject (w.tenant tenantKey).id "user" id.text)

/-- The permission graph a request of the tenant is given. -/
def World.storeGraph (w : World) (tenantKey : String) :
    Except PyError (Option CompiledPermissionGraph) :=
  match w.modelGraphs tenantKey with
  | some graph => .ok (some graph)
  | none =>
      match getModel w.db.authModels (w.tenant tenantKey).id with
      | none => .ok none
      | some record => do
          let compiled ← compileSchemaText record.schemaText
          .ok (some ⟨tenantKey, compiled⟩)

/-- The index of the stored rows. -/
def World.storeEntries (w : World) (l : Lookup) : List AccessIndexEntry :=
  indexEntries l (w.db.acl.findMatchingAcl l) (relationshipRows w.db.relationships l)

/-- The lookup of a request. -/
def World.lookup (w : World) (request : AuthorizeRequest) : Lookup :=
  request.lookup (w.tenant request.tenantKey).id

/-- The index entries of a request's resource. -/
def World.storeIndex (w : World) (l : Lookup) : List AccessIndexEntry :=
  if l.Identified then w.storeEntries l else []

/-- The engine's input over the tables. -/
def World.storeInput (w : World) (request : AuthorizeRequest) :
    Except PyError AuthorizationInput := do
  request.validate
  let graph ← w.storeGraph request.tenantKey
  .ok (request.input (w.storeUser request.tenantKey request.user) graph
    (w.storeIndex (w.lookup request)))

/-- The policies of a request, over the tables. -/
def World.storePolicies (w : World) (tenantKey policySet : String) : List PolicyRecord :=
  w.db.policies.listCurrentPolicies (w.tenant tenantKey).id (policySetKey policySet)

/-- The engine's decision over the tables; a handler may raise. -/
def World.storeEvaluation (settings : Settings) (w : World) (request : AuthorizeRequest)
    (input : AuthorizationInput) : Except PyError AuthorizationDecision := do
  let engine ← currentEngine settings
    (w.storePolicies request.tenantKey (policySetKey request.policySet))
  engine.decide input

/-- The engine's decision on an input over the tables, or the fallback. -/
def World.decideStored (settings : Settings) (w : World) (request : AuthorizeRequest)
    (input : AuthorizationInput) : AuthorizationDecision :=
  match w.storeEvaluation settings request input with
  | .ok decision => decision
  | .error _ => fallbackDecision settings input "authorization backend unavailable"

/-- The decision of a request over the tables. -/
def World.storeDecision (settings : Settings) (w : World) (request : AuthorizeRequest) :
    AuthorizationDecision :=
  match w.storeInput request with
  | .ok input => w.decideStored settings request input
  | .error e => fallbackDecision settings request.fallbackInput
      s!"authorization input unavailable: {e.message}"

/-! ## Worlds over the same tables -/

/-- Two worlds whose tables say the same of a tenant. -/
structure SameTables (tenantKey : String) (w w' : World) : Prop where
  tenant : w'.tenant tenantKey = w.tenant tenantKey
  acl : w'.db.acl = w.db.acl
  relationships : w'.db.relationships = w.db.relationships
  users : w'.db.users = w.db.users
  policies : w'.db.policies = w.db.policies
  graph : w'.storeGraph tenantKey = w.storeGraph tenantKey

variable {tenantKey : String} {w w' w'' : World} {request : AuthorizeRequest}
  {settings : Settings}

theorem SameTables.refl (w : World) : SameTables tenantKey w w := ⟨rfl, rfl, rfl, rfl, rfl, rfl⟩

theorem SameTables.trans (h : SameTables tenantKey w w') (h' : SameTables tenantKey w' w'') :
    SameTables tenantKey w w'' where
  tenant := h'.tenant.trans h.tenant
  acl := h'.acl.trans h.acl
  relationships := h'.relationships.trans h.relationships
  users := h'.users.trans h.users
  policies := h'.policies.trans h.policies
  graph := h'.graph.trans h.graph

theorem SameTables.withBackend (w : World) (b : Backend) :
    SameTables tenantKey w (w.withBackend b) := ⟨rfl, rfl, rfl, rfl, rfl, rfl⟩

theorem SameTables.storeUser (h : SameTables tenantKey w w') (user : Dict) :
    w'.storeUser tenantKey user = w.storeUser tenantKey user := by
  unfold World.storeUser
  rw [h.tenant, h.relationships, h.users]

theorem SameTables.storeEntries (h : SameTables tenantKey w w') (l : Lookup) :
    w'.storeEntries l = w.storeEntries l := by
  unfold World.storeEntries
  rw [h.acl, h.relationships]

theorem SameTables.storeIndex (h : SameTables tenantKey w w') (l : Lookup) :
    w'.storeIndex l = w.storeIndex l := by
  unfold World.storeIndex
  rw [h.storeEntries]

theorem SameTables.lookup (h : SameTables request.tenantKey w w') :
    w'.lookup request = w.lookup request := by
  unfold World.lookup
  rw [h.tenant]

theorem SameTables.storeInput (h : SameTables request.tenantKey w w') :
    w'.storeInput request = w.storeInput request := by
  unfold World.storeInput
  rw [h.graph, h.storeUser, h.lookup, h.storeIndex]

theorem SameTables.storeEvaluation (h : SameTables request.tenantKey w w')
    (input : AuthorizationInput) :
    w'.storeEvaluation settings request input = w.storeEvaluation settings request input := by
  unfold World.storeEvaluation World.storePolicies
  rw [h.policies, h.tenant]

theorem SameTables.decideStored (h : SameTables request.tenantKey w w')
    (input : AuthorizationInput) :
    w'.decideStored settings request input = w.decideStored settings request input := by
  unfold World.decideStored
  rw [h.storeEvaluation]

theorem SameTables.storeDecision (h : SameTables request.tenantKey w w') :
    w'.storeDecision settings request = w.storeDecision settings request := by
  unfold World.storeDecision
  rw [h.storeInput]
  cases w.storeInput request with
  | ok input => exact h.decideStored input
  | error e => rfl

omit [PyRuntime] in
/-- The tenant of a key has that key. -/
theorem tenant_tenantKey (w : World) (tenantKey : String) :
    (w.tenant tenantKey).tenantKey = tenantKey := by
  unfold World.tenant
  rw [TenantTable.getOrCreate_eq]
  cases h : w.db.tenants.find? tenantKey with
  | none => rfl
  | some row => exact (TenantTable.find?_some h).2

omit [PyRuntime] in
/-- Storing the tenant does not change it. -/
theorem tenant_ensureTenant (w : World) (tenantKey : String) :
    (w.ensureTenant tenantKey).tenant tenantKey = w.tenant tenantKey := by
  have hfind := TenantTable.find?_getOrCreate w.db.tenants tenantKey
  exact congrArg Prod.fst (TenantTable.getOrCreate_of_find? hfind)

theorem SameTables.ensureTenant (w : World) (tenantKey : String) :
    SameTables tenantKey w (w.ensureTenant tenantKey) where
  tenant := tenant_ensureTenant w tenantKey
  acl := rfl
  relationships := rfl
  users := rfl
  policies := rfl
  graph := by
    unfold World.storeGraph
    rw [tenant_ensureTenant]
    rfl

/-! ## Fresh caches -/

/-- The lookups differ in what their keys tell. -/
def Distinct (live : Set Lookup) : Prop :=
  ∀ l ∈ live, ∀ r ∈ live, l.tenantId = r.tenantId → l.joined = r.joined → l = r

omit [PyRuntime] in
theorem distinct_singleton (l : Lookup) : Distinct {l} := by
  intro a ha b hb _ _
  rw [Set.mem_singleton_iff.mp ha, Set.mem_singleton_iff.mp hb]

/-- No document that a live lookup of the tenant can hit contradicts the tables. -/
structure Fresh (live : Set Lookup) (tenantKey : String) (w : World) : Prop where
  acl : Lib.Coherent live w.backend.get (aclKey w.backend.counters) fun l =>
    encodeAcl (w.db.acl.findMatchingAcl l)
  index : Lib.Coherent live w.backend.get (indexKey w.backend.counters) fun l =>
    encodeIndex (w.storeEntries l)
  relationships : Lib.Coherent Set.univ w.backend.get
    (relationshipKey (w.tenant tenantKey).id "user") fun subjectId =>
      encodeRelationships
        (w.db.relationships.listForSubject (w.tenant tenantKey).id "user" subjectId)
  policies : ∀ v, w.backend.get (policyCacheKey w.backend.counters tenantKey
      (w.tenant tenantKey).policyVersion) = some v →
    w.storePolicies tenantKey "active" ≠ [] ∧
      v = encodePolicies (w.storePolicies tenantKey "active")

variable {live : Set Lookup}

omit [PyRuntime] in
/-- Empty caches are fresh. -/
theorem fresh_of_empty (h : ∀ key, w.backend.get key = none) : Fresh live tenantKey w where
  acl := Lib.coherent_of_empty fun _ _ => h _
  index := Lib.coherent_of_empty fun _ _ => h _
  relationships := Lib.coherent_of_empty fun _ _ => h _
  policies v hv := by
    rw [h] at hv
    cases hv

omit [PyRuntime] in
/-- Writing one document keeps the caches fresh when the value is the truth for
every live lookup with its key. -/
theorem Fresh.set (h : Fresh live tenantKey w) {key : String} {value : Value}
    (hacl : ∀ l ∈ live, aclKey w.backend.counters l = key →
      value = encodeAcl (w.db.acl.findMatchingAcl l))
    (hindex : ∀ l ∈ live, indexKey w.backend.counters l = key →
      value = encodeIndex (w.storeEntries l))
    (hrelationships : ∀ subjectId, relationshipKey (w.tenant tenantKey).id "user" subjectId = key →
      value = encodeRelationships
        (w.db.relationships.listForSubject (w.tenant tenantKey).id "user" subjectId))
    (hpolicies : policyCacheKey w.backend.counters tenantKey (w.tenant tenantKey).policyVersion =
        key → w.storePolicies tenantKey "active" ≠ [] ∧
      value = encodePolicies (w.storePolicies tenantKey "active")) :
    Fresh live tenantKey (w.withBackend (w.backend.set key value)) := by
  have hself : (w.backend.set key value).get key = some value := Backend.get_set_self _ _ _
  have hother : ∀ k, k ≠ key → (w.backend.set key value).get k = w.backend.get k :=
    fun k hk => Backend.get_set_ne _ _ hk
  refine ⟨h.acl.fill hself hother hacl, h.index.fill hself hother hindex,
    h.relationships.fill hself hother fun s _ => hrelationships s, ?_⟩
  -- the policies, if it is their key that is written
  intro v hv
  by_cases hkey : policyCacheKey w.backend.counters tenantKey
      (w.tenant tenantKey).policyVersion = key
  · have hstored : (w.backend.set key value).get (policyCacheKey w.backend.counters tenantKey
        (w.tenant tenantKey).policyVersion) = some v := hv
    rw [hkey, hself] at hstored
    rw [← Option.some.inj hstored]
    exact hpolicies hkey
  · exact h.policies v ((hother _ hkey).symm.trans hv)

/-- The service has filled caches with what the tables say. -/
structure Warmed (live : Set Lookup) (tenantKey : String) (w w' : World) : Prop where
  tables : SameTables tenantKey w w'
  counters : w'.backend.counters = w.backend.counters
  fresh : Fresh live tenantKey w'

/-- It has done so without touching the decision cache. -/
structure Filled (live : Set Lookup) (tenantKey : String) (w w' : World) : Prop
    extends Warmed live tenantKey w w' where
  decisions : ∀ key, HasKind "dec" key → w'.backend.get key = w.backend.get key

theorem Fresh.filled (h : Fresh live tenantKey w) : Filled live tenantKey w w where
  tables := .refl w
  counters := rfl
  fresh := h
  decisions _ _ := rfl

theorem Filled.trans (h : Filled live tenantKey w w') (h' : Filled live tenantKey w' w'') :
    Filled live tenantKey w w'' where
  tables := h.tables.trans h'.tables
  counters := h'.counters.trans h.counters
  fresh := h'.fresh
  decisions key hkey := (h'.decisions key hkey).trans (h.decisions key hkey)

/-- Writing a truthful document of another kind fills the caches. -/
theorem Fresh.filled_set {kind key : String} {value : Value} (hkey : HasKind kind key)
    (hkind : kind ∈ documentKinds ∧ kind ≠ "dec")
    (h : Fresh live tenantKey (w.withBackend (w.backend.set key value))) :
    Filled live tenantKey w (w.withBackend (w.backend.set key value)) where
  tables := .withBackend w _
  counters := rfl
  fresh := h
  decisions k hk := by
    apply Backend.get_set_ne
    exact hk.ne hkey ⟨by decide, List.mem_append_left _ hkind.1, hkind.2.symm⟩

/-! ## The parts of the service -/

theorem Fresh.ensureTenant (h : Fresh live tenantKey w) :
    Filled live tenantKey w (w.ensureTenant tenantKey) where
  tables := .ensureTenant w tenantKey
  counters := rfl
  fresh := by
    have htenant := tenant_ensureTenant w tenantKey
    refine ⟨h.acl, h.index, ?_, ?_⟩
    · rw [htenant]
      exact h.relationships
    · unfold World.storePolicies
      rw [htenant]
      exact h.policies
  decisions _ _ := rfl

/-- The user's relationships are the stored ones. -/
theorem userRelationships_spec (h : Fresh live tenantKey w) (subjectId : String) :
    (userRelationships w (w.tenant tenantKey).id subjectId).1 =
        w.db.relationships.listForSubject (w.tenant tenantKey).id "user" subjectId ∧
      Filled live tenantKey w (userRelationships w (w.tenant tenantKey).id subjectId).2 := by
  unfold userRelationships
  cases hdoc : w.backend.get (relationshipKey (w.tenant tenantKey).id "user" subjectId) with
  | some v =>
      -- a stored list is the one of the rows
      have htruth := h.relationships subjectId (Set.mem_univ _) v hdoc
      rw [relationshipCacheGet_of_doc (hdoc.trans (congrArg some htruth))]
      exact ⟨rfl, h.filled⟩
  | none =>
      -- a missing one is read and stored, under a key of its own kind
      rw [relationshipCacheGet_of_none hdoc]
      refine ⟨rfl, ?_⟩
      have hkind := hasKind_relationshipKey (w.tenant tenantKey).id "user" subjectId
      apply Fresh.filled_set hkind (by decide)
      apply h.set
      · intro l _ hkey
        exact absurd hkey ((hasKind_aclKey _ l).ne hkind (by decide))
      · intro l _ hkey
        exact absurd hkey ((hasKind_indexKey _ l).ne hkind (by decide))
      · intro s hkey
        have hs : s = subjectId := (relationshipKey_user_inj.mp hkey).2
        rw [hs]
      · intro hkey
        exact absurd hkey ((hasKind_policyCacheKey _ _ _).ne hkind (by decide))

/-- The hydrated user is the stored one. -/
theorem hydrateUser_spec (h : Fresh live tenantKey w) (user : Dict) :
    (hydrateUser w (w.tenant tenantKey).id user).1 = w.storeUser tenantKey user ∧
      Filled live tenantKey w (hydrateUser w (w.tenant tenantKey).id user).2 := by
  unfold hydrateUser World.storeUser
  cases hid : (Dict.get (withDirectPermissions user) "id").int? with
  | none =>
      simp only [hid]
      exact ⟨trivial, h.filled⟩
  | some userId =>
      have hrecords := userRelationships_spec h (Dict.get (withDirectPermissions user) "id").text
      simp only [hid, hrecords.1]
      exact ⟨trivial, hrecords.2⟩

/-- Resolving the graph leaves the database and the backend as they are. -/
theorem permissionGraph_frame {tenantId : Int} {w' : World}
    {graph : Option CompiledPermissionGraph}
    (h : permissionGraph w tenantId tenantKey = .ok (graph, w')) :
    w'.db = w.db ∧ w'.backend = w.backend := by
  unfold permissionGraph at h
  split at h
  · cases h
    exact ⟨rfl, rfl⟩
  · split at h
    · cases h
      exact ⟨rfl, rfl⟩
    · rcases Lib.bind_eq_ok.mp h with ⟨compiled, -, hworld⟩
      cases hworld
      exact ⟨rfl, rfl⟩

/-- The permission graph is that of the tables. -/
theorem permissionGraph_spec (h : Fresh live tenantKey w) :
    (∃ e, permissionGraph w (w.tenant tenantKey).id tenantKey = .error e ∧
        w.storeGraph tenantKey = .error e) ∨
      ∃ graph w', permissionGraph w (w.tenant tenantKey).id tenantKey = .ok (graph, w') ∧
        w.storeGraph tenantKey = .ok graph ∧ Filled live tenantKey w w' := by
  unfold permissionGraph
  cases hgraph : w.modelGraphs tenantKey with
  | some graph =>
      have hstore : w.storeGraph tenantKey = .ok (some graph) := by
        unfold World.storeGraph
        rw [hgraph]
      exact Or.inr ⟨some graph, w, rfl, hstore, h.filled⟩
  | none =>
      cases hmodel : getModel w.db.authModels (w.tenant tenantKey).id with
      | none =>
          have hstore : w.storeGraph tenantKey = .ok none := by
            unfold World.storeGraph
            simp only [hgraph, hmodel]
          exact Or.inr ⟨none, w, rfl, hstore, h.filled⟩
      | some record =>
          cases hcompiled : compileSchemaText record.schemaText with
          | error e =>
              refine Or.inl ⟨e, ?_, ?_⟩
              · simp only [hcompiled, Lib.error_bind]
              · unfold World.storeGraph
                simp only [hgraph, hmodel, hcompiled, Lib.error_bind]
          | ok compiled =>
              have hstore : w.storeGraph tenantKey = .ok (some ⟨tenantKey, compiled⟩) := by
                unfold World.storeGraph
                simp only [hgraph, hmodel, hcompiled, Lib.ok_bind]
              simp only [hcompiled, Lib.ok_bind]
              refine Or.inr ⟨_, _, rfl, hstore, ?_⟩
              refine ⟨⟨⟨rfl, rfl, rfl, rfl, rfl, ?_⟩, rfl,
                ⟨h.acl, h.index, h.relationships, h.policies⟩⟩, fun _ _ => rfl⟩
              -- the graph stored is the one that is compiled
              rw [hstore]
              unfold World.storeGraph
              simp only [if_true]

/-- The index entries of a live lookup are those of the stored rows. -/
theorem requestIndex_spec (h : Fresh live tenantKey w) (hdistinct : Distinct live) {l : Lookup}
    (hl : l ∈ live) :
    (requestIndex w l).1 = .ok (w.storeIndex l) ∧
      Filled live tenantKey w (requestIndex w l).2 := by
  have hsame : ∀ {kind : String} {m n : Nat} {r : Lookup}, kind ∈ documentKinds → r ∈ live →
      r.key kind m = l.key kind n → r = l := by
    intro kind m n r hkind hr hkey
    have hinj := (Lookup.key_inj hkind).mp hkey
    exact hdistinct r hr l hl hinj.1 hinj.2.2
  -- storing the rows of `l` in the ACL cache
  have hacl : Filled live tenantKey w
      (w.withBackend (aclCacheSet w.backend l (w.db.acl.findMatchingAcl l))) := by
    have hkind := hasKind_aclKey w.backend.counters l
    apply Fresh.filled_set hkind (by decide)
    apply h.set
    · -- the rows of another live lookup are under another key
      intro r hr hkey
      rw [hsame (by decide) hr hkey]
    · intro r _ hkey
      exact absurd hkey ((hasKind_indexKey _ r).ne hkind (by decide))
    · intro s hkey
      exact absurd hkey ((hasKind_relationshipKey _ _ s).ne hkind (by decide))
    · intro hkey
      exact absurd hkey ((hasKind_policyCacheKey _ _ _).ne hkind (by decide))
  -- storing the index of `l` in the index cache
  have hindex : ∀ w', Fresh live tenantKey w' →
      Filled live tenantKey w' (w'.withBackend (indexCacheSet w'.backend l (w'.storeEntries l))) := by
    intro w' h'
    have hkind := hasKind_indexKey w'.backend.counters l
    apply Fresh.filled_set hkind (by decide)
    apply h'.set
    · intro r _ hkey
      exact absurd hkey ((hasKind_aclKey _ r).ne hkind (by decide))
    · -- so is its index
      intro r hr hkey
      rw [hsame (by decide) hr hkey]
    · intro s hkey
      exact absurd hkey ((hasKind_relationshipKey _ _ s).ne hkind (by decide))
    · intro hkey
      exact absurd hkey ((hasKind_policyCacheKey _ _ _).ne hkind (by decide))
  unfold requestIndex World.storeIndex
  by_cases hidentified : l.Identified
  · rw [if_pos hidentified, if_pos hidentified]
    -- hit, rebuilt from stored rows, or rebuilt from the table
    cases hdoc : w.backend.get (indexKey w.backend.counters l) with
    | some v =>
        have htruth := h.index l hl v hdoc
        rw [build_of_hit (hdoc.trans (congrArg some htruth))]
        exact ⟨rfl, h.filled⟩
    | none =>
        cases hrows : w.backend.get (aclKey w.backend.counters l) with
        | some v =>
            have htruth := h.acl l hl v hrows
            rw [build_of_rebuild hdoc rfl (rebuild_of_hit (hrows.trans (congrArg some htruth)))]
            exact ⟨rfl, hindex w h⟩
        | none =>
            rw [build_of_rebuild hdoc rfl (rebuild_of_miss hrows)]
            exact ⟨rfl, hacl.trans (hindex _ hacl.fresh)⟩
  · -- a resource without type or id has no index
    rw [if_neg hidentified, if_neg hidentified]
    exact ⟨rfl, h.filled⟩

/-- The input built from the resolved user is the stored one. -/
theorem buildAuthorizationInput_spec (h : Fresh live request.tenantKey w)
    (hdistinct : Distinct live) (hl : w.lookup request ∈ live) (user : Dict) :
    (buildAuthorizationInput w (w.tenant request.tenantKey).id user request).1 =
        (do
          let graph ← w.storeGraph request.tenantKey
          .ok (request.input user graph (w.storeIndex (w.lookup request)))) ∧
      Filled live request.tenantKey w
        (buildAuthorizationInput w (w.tenant request.tenantKey).id user request).2 := by
  unfold buildAuthorizationInput
  rcases permissionGraph_spec h with ⟨e, hgraph, hstore⟩ | ⟨graph, w', hgraph, hstore, hfilled⟩
  · simp only [hgraph, hstore, Lib.error_bind]
    exact ⟨trivial, h.filled⟩
  · have hlookup : request.lookup (w.tenant request.tenantKey).id ∈ live := hl
    have hindex := requestIndex_spec hfilled.fresh hdistinct hlookup
    rw [hfilled.tables.storeIndex] at hindex
    simp only [hgraph, hstore, Lib.ok_bind]
    rw [Lib.eq_mk_snd hindex.1]
    exact ⟨rfl, hfilled.trans hindex.2⟩

/-- The input of a request is the stored one. -/
theorem buildInput_spec (h : Fresh live request.tenantKey w) (hdistinct : Distinct live)
    (hl : w.lookup request ∈ live) :
    (buildInput w request).1 = (w.storeInput request).map (·, w.tenant request.tenantKey) ∧
      Filled live request.tenantKey w (buildInput w request).2 := by
  unfold buildInput World.storeInput
  cases hvalid : request.validate with
  | error e => exact ⟨rfl, h.filled⟩
  | ok u =>
      -- the tenant is stored first, then the user and the index are resolved
      have hensured := h.ensureTenant
      have htenant := tenant_ensureTenant w request.tenantKey
      have huser := hydrateUser_spec hensured.fresh request.user
      rw [htenant] at huser
      have huserStore := hensured.tables.storeUser request.user
      have hfilled := hensured.trans huser.2
      have hlookup : (hydrateUser (w.ensureTenant request.tenantKey)
          (w.tenant request.tenantKey).id request.user).2.lookup request ∈ live := by
        rw [hfilled.tables.lookup]
        exact hl
      have hinput := buildAuthorizationInput_spec hfilled.fresh hdistinct hlookup
        (w.storeUser request.tenantKey request.user)
      rw [hfilled.tables.tenant, hfilled.tables.graph, hfilled.tables.lookup,
        hfilled.tables.storeIndex] at hinput
      have hworld := hfilled.trans hinput.2
      simp only [Lib.ok_bind, huser.1, huserStore]
      cases hgraph : w.storeGraph request.tenantKey with
      | error e =>
          rw [hgraph, Lib.error_bind] at hinput
          rw [Lib.eq_mk_snd hinput.1]
          exact ⟨rfl, hworld⟩
      | ok graph =>
          rw [hgraph, Lib.ok_bind] at hinput
          rw [Lib.eq_mk_snd hinput.1]
          exact ⟨rfl, hworld⟩

omit [PyRuntime] in
theorem policySetKey_active : policySetKey "active" = "active" := by decide +kernel

/-- The engine is that of the stored policies. -/
theorem buildEngine_spec (settings : Settings) (h : Fresh live tenantKey w) (policySet : String) :
    (buildEngine settings w (w.tenant tenantKey) policySet).1 =
        currentEngine settings (w.storePolicies tenantKey policySet) ∧
      Filled live tenantKey w (buildEngine settings w (w.tenant tenantKey) policySet).2 := by
  have hkey := tenant_tenantKey w tenantKey
  unfold buildEngine cachedPolicies
  -- the policy cache serves the active set alone
  by_cases hactive : policySetKey policySet = "active"
  · have hpolicies : w.storePolicies tenantKey policySet = w.storePolicies tenantKey "active" := by
      unfold World.storePolicies
      rw [hactive, policySetKey_active]
    have hlist : w.db.policies.listCurrentPolicies (w.tenant tenantKey).id "active" =
        w.storePolicies tenantKey "active" := by
      unfold World.storePolicies
      rw [policySetKey_active]
    simp only [hactive, if_true, hkey, hpolicies, hlist, decide_true, Bool.and_true]
    cases hdoc : w.backend.get (policyCacheKey w.backend.counters tenantKey
        (w.tenant tenantKey).policyVersion) with
    | some v =>
        have htruth := h.policies v hdoc
        rw [policyCacheGet_of_doc (hdoc.trans (congrArg some htruth.2))]
        refine ⟨?_, h.filled⟩
        unfold currentEngine
        rw [if_neg (by simpa using htruth.1)]
    | none =>
        rw [policyCacheGet_of_none hdoc]
        refine ⟨rfl, ?_⟩
        dsimp only
        -- an empty list is not stored
        by_cases hempty : (w.storePolicies tenantKey "active").isEmpty = true
        · rw [hempty]
          exact h.filled
        · rw [Bool.eq_false_iff.mpr hempty]
          have hkind := hasKind_policyCacheKey w.backend.counters tenantKey
            (w.tenant tenantKey).policyVersion
          apply Fresh.filled_set hkind (by decide)
          apply h.set
          · intro l _ hkey
            exact absurd hkey ((hasKind_aclKey _ l).ne hkind (by decide))
          · intro l _ hkey
            exact absurd hkey ((hasKind_indexKey _ l).ne hkind (by decide))
          · intro s hkey
            exact absurd hkey ((hasKind_relationshipKey _ _ s).ne hkind (by decide))
          · intro _
            exact ⟨by simpa using hempty, rfl⟩
  · simp only [hactive, if_false, decide_false, Bool.and_false, Bool.false_eq_true]
    exact ⟨rfl, h.filled⟩

/-- Storing a decision keeps the rest of the caches as it was. -/
theorem Fresh.setDecision (h : Fresh live tenantKey w) {key : String} (hkind : HasKind "dec" key)
    (cached : CachedDecision) :
    Warmed live tenantKey w (w.withBackend (decisionCacheSet w.backend key cached)) where
  tables := .withBackend w _
  counters := rfl
  fresh := by
    apply h.set
    · intro l _ hkey
      exact absurd hkey ((hasKind_aclKey _ l).ne hkind (by decide))
    · intro l _ hkey
      exact absurd hkey ((hasKind_indexKey _ l).ne hkind (by decide))
    · intro s hkey
      exact absurd hkey ((hasKind_relationshipKey _ _ s).ne hkind (by decide))
    · intro hkey
      exact absurd hkey ((hasKind_policyCacheKey _ _ _).ne hkind (by decide))

theorem Warmed.trans (h : Warmed live tenantKey w w') (h' : Warmed live tenantKey w' w'') :
    Warmed live tenantKey w w'' :=
  ⟨h.tables.trans h'.tables, h'.counters.trans h.counters, h'.fresh⟩

/-- The decision on an input is that of the tables. -/
theorem decideInput_spec (settings : Settings) (h : Fresh live request.tenantKey w)
    (input : AuthorizationInput) (key : Option String) (hkey : ∀ k, key = some k → HasKind "dec" k) :
    (decideInput settings w request input (w.tenant request.tenantKey) key).1.decision =
        w.decideStored settings request input ∧
      Warmed live request.tenantKey w
        (decideInput settings w request input (w.tenant request.tenantKey) key).2 := by
  have hengine := buildEngine_spec settings h (policySetKey request.policySet)
  unfold decideInput World.decideStored World.storeEvaluation
  rw [Lib.eq_mk_snd hengine.1]
  dsimp only
  cases hdecide : (do
      let engine ← currentEngine settings
        (w.storePolicies request.tenantKey (policySetKey request.policySet))
      engine.decide input) with
  | error e =>
      -- an engine that raises stores nothing
      dsimp only
      exact ⟨rfl, hengine.2.toWarmed⟩
  | ok decision =>
      dsimp only
      refine ⟨rfl, ?_⟩
      -- a decision is stored only if there is a key
      cases key with
      | none => exact hengine.2.toWarmed
      | some k =>
          have hset := hengine.2.fresh.setDecision (hkey k rfl) (.fromDecision decision)
          exact hengine.2.toWarmed.trans hset

theorem hasKind_decisionKey? {counters : String → Option Nat} {tenant : TenantRecord}
    {input : AuthorizationInput} {key : String}
    (h : request.decisionKey? counters tenant input = some key) : HasKind "dec" key := by
  unfold AuthorizeRequest.decisionKey? at h
  split at h
  · cases h
  · rw [← Option.some.inj h]
    exact hasKind_decisionCacheKey _ _ _ _ _

/-- Every request leaves a warmed world. -/
theorem authorize_warmed (settings : Settings) (h : Fresh live request.tenantKey w)
    (hdistinct : Distinct live) (hl : w.lookup request ∈ live) :
    Warmed live request.tenantKey w (authorize settings w request).2 := by
  have hbuild := buildInput_spec h hdistinct hl
  unfold authorize
  cases hinput : w.storeInput request with
  | error e =>
      rw [hinput] at hbuild
      rw [Lib.eq_mk_snd hbuild.1]
      exact hbuild.2.toWarmed
  | ok input =>
      rw [hinput] at hbuild
      rw [Lib.eq_mk_snd hbuild.1]
      dsimp only [Except.map]
      split
      · exact hbuild.2.toWarmed
      · have hdecide := decideInput_spec settings hbuild.2.fresh input
          (request.decisionKey? (buildInput w request).2.backend.counters
            (w.tenant request.tenantKey) input) fun _ => hasKind_decisionKey?
        rw [hbuild.2.tables.tenant] at hdecide
        exact hbuild.2.toWarmed.trans hdecide.2

/-- The decision cache holds no other answer to the request than the tables give. -/
def DecisionCurrent (settings : Settings) (request : AuthorizeRequest) (w : World) : Prop :=
  ∀ input key, w.storeInput request = .ok input →
    request.decisionKey? w.backend.counters (w.tenant request.tenantKey) input = some key →
      ∀ cached, safeDecisionGet w.backend key = some cached →
        decisionFromCache cached = w.storeDecision settings request

/-- A request that bypasses the decision cache reads nothing from it. -/
theorem decisionCurrent_of_fullyConsistent (h : request.FullyConsistent) :
    DecisionCurrent settings request w := by
  intro input key _ hkey
  unfold AuthorizeRequest.decisionKey? at hkey
  rw [if_pos h] at hkey
  cases hkey

/-- The answer to a request is that of the tables. -/
theorem authorize_spec (h : Fresh live request.tenantKey w) (hdistinct : Distinct live)
    (hl : w.lookup request ∈ live) (hcurrent : DecisionCurrent settings request w) :
    (authorize settings w request).1.decision = w.storeDecision settings request := by
  have hbuild := buildInput_spec h hdistinct hl
  unfold authorize
  cases hinput : w.storeInput request with
  | error e =>
      rw [hinput] at hbuild
      rw [Lib.eq_mk_snd hbuild.1]
      unfold World.storeDecision
      rw [hinput]
      dsimp only [Except.map]
  | ok input =>
      rw [hinput] at hbuild
      rw [Lib.eq_mk_snd hbuild.1]
      dsimp only [Except.map]
      have hdecision : w.storeDecision settings request = w.decideStored settings request input := by
        unfold World.storeDecision
        rw [hinput]
      split
      · -- served from the decision cache
        rename_i cached hhit
        rcases Option.bind_eq_some_iff.mp hhit with ⟨key, hkey, hget⟩
        rw [hbuild.2.counters] at hkey
        have hsame : safeDecisionGet w.backend key = some cached := by
          unfold safeDecisionGet decisionCacheGet at hget ⊢
          rwa [hbuild.2.decisions key (hasKind_decisionKey? hkey)] at hget
        exact hcurrent input key hinput hkey cached hsame
      · have hdecide := decideInput_spec settings hbuild.2.fresh input
          (request.decisionKey? (buildInput w request).2.backend.counters
            (w.tenant request.tenantKey) input) fun _ => hasKind_decisionKey?
        rw [hbuild.2.tables.tenant, hbuild.2.tables.decideStored] at hdecide
        exact hdecide.1.trans hdecision.symm

end Freshness

end KeyNetra
