import KeyNetra.Services.ModelEnforcement

/-!
# KeyNetra.Services.ResourceIdentity — what the stages take a resource to be

The service, the engine and the permission graph each read the type and the id of a resource from
several keys. The first two fall back to `entity_type`, the graph does not.

* `NamesType` — one of the three keys that all of them read has a value;
* `evaluateAcl_withResource`, `evaluateRelationshipIndex_withResource`,
  `graphEvaluate_withResource` — what a stage makes of two resources of one identity;
* `same_decision_iff` — the requests on them are decided alike, whatever the rest, exactly when both
  name a type or neither does.
-/

namespace KeyNetra

section ResourceIdentity

variable [PyRuntime]

/-! ## Three readings of a resource -/

/-- `AuthorizationService._resource_identity`. -/
def AuthorizationService.resourceIdentity (resource : Dict) : String × String :=
  (((Dict.get resource "resource_type").pyOr ((Dict.get resource "type").pyOr
      ((Dict.get resource "kind").pyOr ((Dict.get resource "entity_type").pyOr
        (.str ""))))).text,
    ((Dict.get resource "resource_id").pyOr ((Dict.get resource "id").pyOr (.str ""))).text)

/-- The service looks up what the engine's stages compare with. -/
theorem lookup_identity (request : AuthorizeRequest) (tenantId : Int) :
    ((request.lookup tenantId).resourceType, (request.lookup tenantId).resourceId) =
      AuthorizationService.resourceIdentity request.resource := rfl

theorem service_identity (resource : Dict) :
    AuthorizationService.resourceIdentity resource =
      KeyNetraEngine.resourceIdentity resource := rfl

/-- One of the keys that every reading looks at has a value. -/
def NamesType (resource : Dict) : Prop :=
  (Dict.get resource "resource_type").truthy = true ∨ (Dict.get resource "type").truthy = true ∨
    (Dict.get resource "kind").truthy = true

instance (resource : Dict) : Decidable (NamesType resource) := by
  unfold NamesType
  infer_instance

theorem graph_type_of_named {resource : Dict} (h : NamesType resource) :
    (CompiledPermissionGraph.resourceIdentity resource).1 =
      (KeyNetraEngine.resourceIdentity resource).1 := by
  unfold NamesType at h
  simp only [CompiledPermissionGraph.resourceIdentity, KeyNetraEngine.resourceIdentity, Value.pyOr]
  split_ifs <;> simp_all

theorem graph_type_of_unnamed {resource : Dict} (h : ¬ NamesType resource) :
    (CompiledPermissionGraph.resourceIdentity resource).1 = "" := by
  unfold NamesType at h
  rw [not_or, not_or] at h
  simp only [CompiledPermissionGraph.resourceIdentity, Value.pyOr]
  rw [if_neg h.1, if_neg h.2.1, if_neg h.2.2]
  rfl

/-- The graph's reading is the engine's exactly where it can name the type. -/
theorem graph_identity_iff {resource : Dict}
    (htype : (KeyNetraEngine.resourceIdentity resource).1 ≠ "") :
    CompiledPermissionGraph.resourceIdentity resource = KeyNetraEngine.resourceIdentity resource ↔
      NamesType resource := by
  constructor
  · intro hsame
    by_contra hunnamed
    rw [← hsame] at htype
    exact htype (graph_type_of_unnamed hunnamed)
  · intro hnamed
    exact Prod.ext (graph_type_of_named hnamed) rfl

/-! ## One request on two resources -/

/-- The request, on another resource. -/
def AuthorizationInput.withResource (input : AuthorizationInput) (resource : Dict) :
    AuthorizationInput :=
  { input with resource := resource }

/-- The conditions of the policy have one result for all resources. -/
def PolicyDefinition.ResourceBlind (policy : PolicyDefinition) : Prop :=
  ∀ input resource, evaluateConditions policy.checked (input.withResource resource) =
    evaluateConditions policy.checked input

/-- The condition handler looks at the resource. -/
def readsResource : String × Value → Bool
  | (key, value) =>
      key ∈ ["max_amount", "owner_only", "geo_match"] ||
        key == "has_relation" &&
          match value with
          | .dict fields =>
              match Dict.get fields "object_id" with
              | .null => true
              | _ => false
          | _ => false

/-- The result of the request is the same on two resources, for every policy list that does not
read them. -/
def SameDecision (resource resource' : Dict) : Prop :=
  ∀ (sources : List PolicySource) (engine : KeyNetraEngine),
    KeyNetraEngine.new sources = .ok engine →
    (∀ policy ∈ engine.policies, policy.ResourceBlind) →
    ∀ input : AuthorizationInput,
      engine.decide (input.withResource resource) = engine.decide (input.withResource resource')

/-! ## Conditions that do not look at it -/

/-- A condition that does not look at the resource has one result for all resources. -/
theorem handler_withResource {key : String} {value : Value}
    (hreads : readsResource (key, value) = false)
    {handler : Value → AuthorizationInput → Except PyError ConditionResult}
    (hhandler : conditionHandler key = some handler) (input : AuthorizationInput)
    (resource : Dict) : handler value (input.withResource resource) = handler value input := by
  unfold readsResource at hreads
  unfold conditionHandler at hhandler
  split at hhandler
  · -- `role` reads the user
    cases hhandler
    rfl
  · simp at hreads
  · simp at hreads
  · -- `time_range` reads the context
    cases hhandler
    rfl
  · simp at hreads
  · -- `has_relation` reads the resource for an id of its own field only
    cases hhandler
    unfold handleHasRelation
    rcases value with - | b | n | x | text | items | fields
    case dict =>
      dsimp only
      cases hobject : Dict.get fields "object_id" with
      | null => simp [hobject] at hreads
      | _ => rfl
    all_goals rfl
  · cases hhandler

/-- Conditions of the other kinds are blind to the resource. -/
theorem blind_of_not_reads {policy : PolicyDefinition}
    (h : ∀ condition ∈ policy.checked, readsResource condition = false) :
    policy.ResourceBlind := by
  intro input resource
  generalize policy.checked = conditions at h ⊢
  induction conditions with
  | nil => rfl
  | cons condition conditions ih =>
      rcases condition with ⟨key, value⟩
      have hhead := h _ List.mem_cons_self
      have hrest := ih fun condition hmem => h condition (List.mem_cons_of_mem _ hmem)
      rw [evaluateConditions, evaluateConditions]
      rcases hhandler : conditionHandler key with _ | handler
      · rfl
      · dsimp only
        rw [handler_withResource hhead hhandler, hrest]

/-- The policies of an engine are blind, so its graph is. -/
theorem evaluateNodes_withResource {policies : List PolicyDefinition}
    (hblind : ∀ policy ∈ policies, policy.ResourceBlind) (input : AuthorizationInput)
    (resource : Dict) (firstReason : Option String) :
    evaluateNodes (input.withResource resource) (policies.map PolicyDefinition.node) firstReason =
      evaluateNodes input (policies.map PolicyDefinition.node) firstReason := by
  induction policies generalizing firstReason with
  | nil => cases firstReason <;> rfl
  | cons policy policies ih =>
      have hhead := hblind policy List.mem_cons_self
      have hrest := ih fun policy hmem => hblind policy (List.mem_cons_of_mem _ hmem)
      have hnode : policy.node.evaluate (input.withResource resource) =
          policy.node.evaluate input := by
        rw [node_evaluate, node_evaluate]
        exact hhead input resource
      rw [List.map_cons, evaluateNodes, evaluateNodes, hnode]
      simp only [hrest]
      rfl

/-- The policy stage of such an engine. -/
theorem evaluateCompiledPolicies_withResource {sources : List PolicySource}
    {engine : KeyNetraEngine} (hnew : KeyNetraEngine.new sources = .ok engine)
    (hblind : ∀ policy ∈ engine.policies, policy.ResourceBlind) (input : AuthorizationInput)
    (resource : Dict) :
    engine.evaluateCompiledPolicies (input.withResource resource) =
      engine.evaluateCompiledPolicies input := by
  rcases hparse : sources.mapM PolicySource.parse with e | policies
  · unfold KeyNetraEngine.new at hnew
    rw [hparse] at hnew
    cases hnew
  · rw [new_eq hparse] at hnew
    cases hnew
    unfold KeyNetraEngine.evaluateCompiledPolicies DecisionGraph.evaluate
    rw [Option.getD_none]
    dsimp only
    rw [evaluateNodes_withResource hblind]

/-! ## Stages that see the identity only -/

variable {resource resource' : Dict}

theorem evaluateAclEntries_withResource (input : AuthorizationInput) (resource : Dict)
    (resourceType resourceId : String) (userSubjects : List String) (entries : List Dict)
    (matched : Bool) :
    evaluateAclEntries (input.withResource resource) resourceType resourceId userSubjects entries
        matched =
      evaluateAclEntries input resourceType resourceId userSubjects entries matched := by
  induction entries generalizing matched with
  | nil => rfl
  | cons entry entries ih =>
      rw [evaluateAclEntries, evaluateAclEntries]
      simp only [ih]
      rfl

/-- The ACL stage. -/
theorem evaluateAcl_withResource
    (hsame : KeyNetraEngine.resourceIdentity resource = KeyNetraEngine.resourceIdentity resource')
    (input : AuthorizationInput) (userSubjects : List String) :
    evaluateAcl (input.withResource resource) userSubjects =
      evaluateAcl (input.withResource resource') userSubjects := by
  have hresource : (input.withResource resource).resource = resource := rfl
  have hresource' : (input.withResource resource').resource = resource' := rfl
  unfold evaluateAcl
  rw [hresource, hresource', hsame]
  simp only [evaluateAclEntries_withResource]
  rfl

/-- The relationship stage. -/
theorem evaluateRelationshipIndex_withResource
    (hsame : KeyNetraEngine.resourceIdentity resource = KeyNetraEngine.resourceIdentity resource')
    (input : AuthorizationInput) (userSubjects : List String) :
    evaluateRelationshipIndex (input.withResource resource) userSubjects =
      evaluateRelationshipIndex (input.withResource resource') userSubjects := by
  have hresource : (input.withResource resource).resource = resource := rfl
  have hresource' : (input.withResource resource').resource = resource' := rfl
  unfold evaluateRelationshipIndex
  rw [hresource, hresource', hsame]
  rfl

/-- A relation to the resource is a relation to its type and id. -/
theorem evaluateExpr_withResource
    (hid : (CompiledPermissionGraph.resourceIdentity resource).2 =
      (CompiledPermissionGraph.resourceIdentity resource').2)
    (input : AuthorizationInput) (resourceType : String) (expression : Expr) :
    evaluateExpr (input.withResource resource) resourceType expression =
      evaluateExpr (input.withResource resource') resourceType expression := by
  induction expression with
  | identifier name =>
      have hedge : ∀ r : Dict, ((Dict.get (input.withResource r).resource "resource_id").pyOr
          ((Dict.get (input.withResource r).resource "id").pyOr (.str ""))).text =
            (CompiledPermissionGraph.resourceIdentity r).2 := fun r => rfl
      unfold evaluateExpr hasRelation
      dsimp only
      rw [hedge, hedge, hid]
      rfl
  | not value ih => rw [evaluateExpr, evaluateExpr, ih]
  | and left right ihl ihr => rw [evaluateExpr, evaluateExpr, ihl, ihr]
  | or left right ihl ihr => rw [evaluateExpr, evaluateExpr, ihl, ihr]

/-- The permission graph, by its own reading. -/
theorem graphEvaluate_withResource
    (hsame : CompiledPermissionGraph.resourceIdentity resource =
      CompiledPermissionGraph.resourceIdentity resource')
    (graph : CompiledPermissionGraph) (input : AuthorizationInput) :
    graph.evaluate (input.withResource resource) =
      graph.evaluate (input.withResource resource') := by
  have hresource : (input.withResource resource).resource = resource := rfl
  have hresource' : (input.withResource resource').resource = resource' := rfl
  unfold CompiledPermissionGraph.evaluate
  rw [hresource, hresource', hsame]
  simp only [evaluateExpr_withResource (congrArg Prod.snd hsame)]
  rfl

/-- The graph stage. -/
theorem evaluatePermissionGraph_withResource
    (hsame : CompiledPermissionGraph.resourceIdentity resource =
      CompiledPermissionGraph.resourceIdentity resource')
    (input : AuthorizationInput) :
    evaluatePermissionGraph (input.withResource resource) =
      evaluatePermissionGraph (input.withResource resource') := by
  have hgraph : ∀ r : Dict, (input.withResource r).permissionGraph = input.permissionGraph :=
    fun r => rfl
  unfold evaluatePermissionGraph
  rw [hgraph, hgraph]
  rcases input.permissionGraph with _ | graph
  · rfl
  · dsimp only
    rw [graphEvaluate_withResource hsame]

/-- Two resources of one identity, for the engine and for the graph. -/
theorem dataStages_withResource
    (hengine : KeyNetraEngine.resourceIdentity resource = KeyNetraEngine.resourceIdentity resource')
    (hgraph : CompiledPermissionGraph.resourceIdentity resource =
      CompiledPermissionGraph.resourceIdentity resource')
    (input : AuthorizationInput) :
    dataStages (input.withResource resource) = dataStages (input.withResource resource') := by
  unfold dataStages
  dsimp only
  rw [evaluateAcl_withResource hengine, evaluateRelationshipIndex_withResource hengine,
    evaluatePermissionGraph_withResource hgraph]
  rfl

/-! ## Two names for one resource -/

/-- A user with one relation to the resource, and nothing else. -/
def relatedUser (resource : Dict) : Dict := userWithEdges resource ["viewer"]

/-- The model that grants `read` to viewers. -/
def viewersModel : CompiledAuthorizationModel where
  version := 1
  types := ["user"]
  relations := [("viewer", ["user"])]
  permissions := [("read", ⟨"read", .identifier "viewer"⟩)]
  raw := ""

/-- The user asks to read, under that model; the resource is still to be named. -/
def viewerRequest (resource : Dict) : AuthorizationInput where
  user := relatedUser resource
  resource := []
  action := "read"
  permissionGraph := some ⟨"default", viewersModel⟩

/-- With no other grant the graph decides, or no one does. -/
theorem viewerRequest_verdict (resource resource' : Dict) :
    verdict (dataStages ((viewerRequest resource).withResource resource')) =
      (evaluatePermissionGraph ((viewerRequest resource).withResource resource')).outcome := by
  -- nothing but the model says anything of a bare viewer
  have hdirect : (evaluateDirectPermissions
      ((viewerRequest resource).withResource resource')).outcome = .abstain := rfl
  have hacl : ∀ subjects, (evaluateAcl
      ((viewerRequest resource).withResource resource') subjects).outcome = .abstain := by
    intro subjects
    unfold evaluateAcl
    dsimp only
    split <;> rfl
  have hrole : (evaluateRolePermissions
      ((viewerRequest resource).withResource resource')).outcome = .abstain := rfl
  have hindex : ∀ subjects, (evaluateRelationshipIndex
      ((viewerRequest resource).withResource resource') subjects).outcome = .abstain := by
    intro subjects
    unfold evaluateRelationshipIndex
    dsimp only
    split
    · rfl
    · rfl
  unfold dataStages
  dsimp only
  rw [verdict_of_abstain _ hdirect, verdict_of_abstain _ (hacl _), verdict_of_abstain _ hrole,
    verdict_of_abstain _ (hindex _)]
  by_cases hgraph : (evaluatePermissionGraph
      ((viewerRequest resource).withResource resource')).outcome = .abstain
  · rw [verdict_of_abstain _ hgraph, hgraph]
    rfl
  · exact verdict_of_decisive _ hgraph

/-- Without a type the graph abstains. -/
theorem viewerRequest_abstains {resource resource' : Dict}
    (htype : (CompiledPermissionGraph.resourceIdentity resource').1 = "") :
    (evaluatePermissionGraph ((viewerRequest resource).withResource resource')).outcome =
      .abstain := by
  show (graphStage _ _ _ _ _).outcome = .abstain
  rw [graphStage_outcome]
  exact evaluate_untyped _ htype

/-- Of the resource that the relation is to, the graph allows the viewer. -/
theorem viewerRequest_allows {resource : Dict}
    (htype : (CompiledPermissionGraph.resourceIdentity resource).1 ≠ "") :
    (evaluatePermissionGraph ((viewerRequest resource).withResource resource)).outcome =
      .allow := by
  have hedge : hasRelation ((viewerRequest resource).withResource resource)
      (CompiledPermissionGraph.resourceIdentity resource).1 "viewer" = true := by
    have hedges := edges_userWithEdges resource ["viewer"] "viewer"
    rw [decide_eq_true List.mem_cons_self] at hedges
    rw [← hedges]
    exact hasRelation_eq_edges ((viewerRequest resource).withResource resource) "viewer"
  have hresource : ((viewerRequest resource).withResource resource).resource = resource := rfl
  have haction : ((viewerRequest resource).withResource resource).action = "read" := rfl
  have hread : ¬ ("read" : String) = "" := by decide
  have hpermission : viewersModel.permissions.get? "read" =
      some ⟨"read", .identifier "viewer"⟩ := rfl
  show (graphStage _ _ (CompiledPermissionGraph.evaluate ⟨"default", viewersModel⟩
    ((viewerRequest resource).withResource resource)).outcome _ _).outcome = .allow
  rw [graphStage_outcome]
  unfold CompiledPermissionGraph.evaluate
  simp only [hresource, haction, htype, hread, or_self, if_false, hpermission, evaluateExpr, hedge,
    if_true]

/-- The viewer is allowed on the resource under the name that the graph reads, and denied under the
other one. -/
theorem named_allowed_unnamed_denied {resource resource' : Dict}
    (htype : (KeyNetraEngine.resourceIdentity resource).1 ≠ "") (hnamed : NamesType resource)
    (hunnamed : ¬ NamesType resource') :
    (∃ decision, KeyNetraEngine.decide ⟨[], ⟨[]⟩⟩ ((viewerRequest resource).withResource resource) =
        .ok decision ∧ decision.allowed = true) ∧
      ∃ decision, KeyNetraEngine.decide ⟨[], ⟨[]⟩⟩
        ((viewerRequest resource).withResource resource') = .ok decision ∧
        decision.allowed = false := by
  constructor
  · -- the graph finds the type, and its permission allows
    have hgraph : (CompiledPermissionGraph.resourceIdentity resource).1 ≠ "" := by
      rw [graph_type_of_named hnamed]
      exact htype
    have hverdict := (viewerRequest_verdict resource resource).trans (viewerRequest_allows hgraph)
    have hdecisive : verdict (dataStages ((viewerRequest resource).withResource resource)) ≠
        .abstain := by
      rw [hverdict]
      decide
    have ⟨decision, hdecide, hallowed⟩ := decide_of_decisive hdecisive
    exact ⟨decision, hdecide _ none, hallowed.mpr hverdict⟩
  · -- it finds none, and abstains
    have hverdict := (viewerRequest_verdict resource resource').trans
      (viewerRequest_abstains (graph_type_of_unnamed hunnamed))
    have ⟨decision, hdecide, hallowed⟩ := decide_of_abstain hverdict ⟨[], ⟨[]⟩⟩
    refine ⟨decision, hdecide, ?_⟩
    rw [← Bool.not_eq_true, hallowed]
    decide

theorem SameDecision.symm (h : SameDecision resource resource') :
    SameDecision resource' resource := by
  intro sources engine hnew hblind input
  exact (h sources engine hnew hblind input).symm

/-- Where the requests are decided alike, the second resource names a type if the first does. -/
theorem SameDecision.names (h : SameDecision resource resource')
    (htype : (KeyNetraEngine.resourceIdentity resource).1 ≠ "") (hnamed : NamesType resource) :
    NamesType resource' := by
  by_contra hunnamed
  have hempty : KeyNetraEngine.new [] = .ok ⟨[], ⟨[]⟩⟩ := rfl
  have hblind : ∀ policy ∈ ([] : List PolicyDefinition), policy.ResourceBlind := by simp
  have hdecide := h [] ⟨[], ⟨[]⟩⟩ hempty hblind (viewerRequest resource)
  have ⟨⟨decision, hallow, hallowed⟩, ⟨decision', hdeny, hdenied⟩⟩ :=
    named_allowed_unnamed_denied htype hnamed hunnamed
  rw [hdecide, hdeny] at hallow
  cases hallow
  rw [hallowed] at hdenied
  cases hdenied

/-- What the graph makes of two resources of one identity. -/
theorem graph_identity_eq
    (hsame : KeyNetraEngine.resourceIdentity resource = KeyNetraEngine.resourceIdentity resource')
    (hnames : NamesType resource ↔ NamesType resource') :
    CompiledPermissionGraph.resourceIdentity resource =
      CompiledPermissionGraph.resourceIdentity resource' := by
  -- the id has the same keys in both readings
  have hid := congrArg Prod.snd hsame
  by_cases hnamed : NamesType resource
  · have htypes := congrArg Prod.fst hsame
    rw [← graph_type_of_named hnamed, ← graph_type_of_named (hnames.mp hnamed)] at htypes
    exact Prod.ext htypes hid
  · have hunnamed : ¬ NamesType resource' := fun hnamed' => hnamed (hnames.mpr hnamed')
    have htypes := (graph_type_of_unnamed hnamed).trans (graph_type_of_unnamed hunnamed).symm
    exact Prod.ext htypes hid

/-- Two resources of one identity are one resource for every request whose policies do not read it,
exactly when both name a type by a key that the graph reads, or neither does. -/
theorem same_decision_iff {resource resource' : Dict}
    (hsame : KeyNetraEngine.resourceIdentity resource = KeyNetraEngine.resourceIdentity resource')
    (htype : (KeyNetraEngine.resourceIdentity resource).1 ≠ "") :
    SameDecision resource resource' ↔ (NamesType resource ↔ NamesType resource') := by
  have htype' : (KeyNetraEngine.resourceIdentity resource').1 ≠ "" := by
    rw [← hsame]
    exact htype
  constructor
  · intro h
    exact ⟨h.names htype, h.symm.names htype'⟩
  · intro hnames sources engine hnew hblind input
    have hgraph := graph_identity_eq hsame hnames
    have hstart : startTrace (input.withResource resource) =
        startTrace (input.withResource resource') := rfl
    unfold KeyNetraEngine.decide
    rw [dataStages_withResource hsame hgraph, hstart,
      evaluateCompiledPolicies_withResource hnew hblind,
      evaluateCompiledPolicies_withResource hnew hblind]

end ResourceIdentity

/-! ## Three spellings of a document -/

section Concrete

attribute [local instance] plainRuntime

def typedDoc : Dict := [("type", .str "doc"), ("id", .str "1")]

def kindDoc : Dict := [("kind", .str "doc"), ("resource_id", .int 1)]

def entityDoc : Dict := [("entity_type", .str "doc"), ("id", .str "1")]

/-- `type` and `kind` are read by all. -/
theorem typed_kind_same : SameDecision typedDoc kindDoc := by
  have hsame : KeyNetraEngine.resourceIdentity typedDoc =
      KeyNetraEngine.resourceIdentity kindDoc := rfl
  have htype : (KeyNetraEngine.resourceIdentity typedDoc).1 ≠ "" := by decide
  have htyped : NamesType typedDoc := by decide
  have hkind : NamesType kindDoc := by decide
  exact (same_decision_iff hsame htype).mpr ⟨fun _ => hkind, fun _ => htyped⟩

/-- The document by its `entity_type` has the identity of the document by its `type`, and the viewer
of one is denied the other. -/
theorem entity_type_unread :
    KeyNetraEngine.resourceIdentity typedDoc = ("doc", "1") ∧
    KeyNetraEngine.resourceIdentity entityDoc = ("doc", "1") ∧
    ¬ SameDecision typedDoc entityDoc := by
  refine ⟨rfl, rfl, ?_⟩
  intro h
  have hnamed : NamesType entityDoc := h.names (by decide) (by decide)
  exact absurd hnamed (by decide)

end Concrete

end KeyNetra
