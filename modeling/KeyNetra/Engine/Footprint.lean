import KeyNetra.Lib.Footprint
import KeyNetra.Services.ResourceIdentity

/-!
# KeyNetra.Engine.Footprint — the attributes a decision is read from

A request carries three objects of attributes: the user, the resource and the context. The stages
before the policies read a few fixed ones, and each condition reads the ones it names.

* `conditionReads` — the attributes one condition reads;
* `PolicyDefinition.reads` / `KeyNetraEngine.reads` — those of a policy, and of the policies an
  engine tries for an action;
* `decide_within` — the whole decision, with its reason and its trace, is read from these.
-/

namespace KeyNetra

/-! ## Attributes -/

/-- An attribute of a request. -/
inductive Attribute where
  | user (key : String)
  | resource (key : String)
  | context (key : String)
deriving DecidableEq, Repr

/-- The three objects of a request. -/
structure RequestAttributes where
  user : Dict
  resource : Dict
  context : Dict

/-- The value of an attribute, if the request has it. -/
def RequestAttributes.read (attributes : RequestAttributes) : Attribute → Option Value
  | .user key => attributes.user.get? key
  | .resource key => attributes.resource.get? key
  | .context key => attributes.context.get? key

def AuthorizationInput.attributes (input : AuthorizationInput) : RequestAttributes :=
  ⟨input.user, input.resource, input.context⟩

/-- The request, with other attributes. -/
def AuthorizationInput.withAttributes (input : AuthorizationInput)
    (attributes : RequestAttributes) : AuthorizationInput :=
  { input with
    user := attributes.user
    resource := attributes.resource
    context := attributes.context }

/-- What reads within a footprint, of the attributes of a request. -/
abbrev ReadsWithin {β : Type} (footprint : Set Attribute) (f : RequestAttributes → β) : Prop :=
  Lib.Within RequestAttributes.read footprint f

section Agree

variable {footprint : Set Attribute} {attributes attributes' : RequestAttributes}
  (h : Lib.AgreeOn RequestAttributes.read footprint attributes attributes')
  (input : AuthorizationInput) (key : String)

include h

theorem user_get (hmem : Attribute.user key ∈ footprint) :
    Dict.get (input.withAttributes attributes).user key =
      Dict.get (input.withAttributes attributes').user key :=
  congrArg (Option.getD · Value.null) (h _ hmem)

theorem user_getD (hmem : Attribute.user key ∈ footprint) (default : Value) :
    Dict.getD (input.withAttributes attributes).user key default =
      Dict.getD (input.withAttributes attributes').user key default :=
  congrArg (Option.getD · default) (h _ hmem)

theorem resource_get (hmem : Attribute.resource key ∈ footprint) :
    Dict.get (input.withAttributes attributes).resource key =
      Dict.get (input.withAttributes attributes').resource key :=
  congrArg (Option.getD · Value.null) (h _ hmem)

theorem resource_getD (hmem : Attribute.resource key ∈ footprint) (default : Value) :
    Dict.getD (input.withAttributes attributes).resource key default =
      Dict.getD (input.withAttributes attributes').resource key default :=
  congrArg (Option.getD · default) (h _ hmem)

theorem context_get (hmem : Attribute.context key ∈ footprint) :
    Dict.get (input.withAttributes attributes).context key =
      Dict.get (input.withAttributes attributes').context key :=
  congrArg (Option.getD · Value.null) (h _ hmem)

end Agree

/-! ## What a condition reads -/

/-- The attribute under a key that need not be a text. -/
def keyOf (part : String → Attribute) : Value → List Attribute
  | .str key => [part key]
  | _ => []

/-- The attributes that the handler of a condition reads. -/
def conditionReads : String × Value → List Attribute
  | ("role", _) => [.user "role", .user "roles"]
  | ("max_amount", _) => [.resource "amount"]
  | ("owner_only", value) => if value.truthy then [.resource "owner_id", .user "id"] else []
  | ("time_range", _) => [.context "current_time"]
  | ("geo_match", .dict fields) =>
      keyOf .user (Dict.getD fields "user_field" (.str "country")) ++
        keyOf .resource (Dict.getD fields "resource_field" (.str "country"))
  | ("has_relation", .dict fields) =>
      .user "relations" :: keyOf .resource (Dict.get fields "object_id_from_resource")
  | _ => []

def PolicyDefinition.reads (policy : PolicyDefinition) : List Attribute :=
  policy.checked.flatMap conditionReads

/-- The attributes of the user that the stages before the policies read. -/
def userReads : List Attribute :=
  [.user "id", .user "roles", .user "permissions", .user "direct_permissions",
    .user "role_permissions", .user "relations"]

/-- The attributes that a resource is identified by. -/
def identityReads : List Attribute :=
  [.resource "resource_type", .resource "type", .resource "kind", .resource "entity_type",
    .resource "resource_id", .resource "id"]

/-- The attributes that the policies of an action read. -/
def KeyNetraEngine.policyReads (engine : KeyNetraEngine) (action : String) : List Attribute :=
  (engine.policies.filter fun policy => policy.action = action).flatMap PolicyDefinition.reads

/-- The attributes that the decisions of an action read. -/
def KeyNetraEngine.reads (engine : KeyNetraEngine) (action : String) : List Attribute :=
  userReads ++ identityReads ++ engine.policyReads action

section Reads

variable [PyRuntime] {footprint : Set Attribute}

omit [PyRuntime] in
/-- A value under a key that need not be a text is read where the key names it. -/
theorem getValue_user (input : AuthorizationInput) {attributes attributes' : RequestAttributes}
    {key : Value}
    (h : Lib.AgreeOn RequestAttributes.read footprint attributes attributes')
    (hkey : ∀ a ∈ keyOf .user key, a ∈ footprint) :
    Dict.getValue (input.withAttributes attributes).user key =
      Dict.getValue (input.withAttributes attributes').user key := by
  cases key with
  | str key => exact congrArg Except.ok (user_get h input _ (hkey _ List.mem_cons_self))
  | _ => rfl

omit [PyRuntime] in
theorem getValue_resource (input : AuthorizationInput)
    {attributes attributes' : RequestAttributes} {key : Value}
    (h : Lib.AgreeOn RequestAttributes.read footprint attributes attributes')
    (hkey : ∀ a ∈ keyOf .resource key, a ∈ footprint) :
    Dict.getValue (input.withAttributes attributes).resource key =
      Dict.getValue (input.withAttributes attributes').resource key := by
  cases key with
  | str key => exact congrArg Except.ok (resource_get h input _ (hkey _ List.mem_cons_self))
  | _ => rfl

omit [PyRuntime] in
theorem geoMatch_within {fields : Dict} (input : AuthorizationInput)
    (hreads : ∀ a ∈ conditionReads ("geo_match", .dict fields), a ∈ footprint) :
    ReadsWithin footprint fun attributes =>
      handleGeoMatch (.dict fields) (input.withAttributes attributes) := by
  intro attributes attributes' h
  have hthere := getValue_user input h fun a hmem =>
    hreads a (List.mem_append_left _ hmem)
  have hhere := getValue_resource input h fun a hmem =>
    hreads a (List.mem_append_right _ hmem)
  show handleGeoMatch (.dict fields) _ = handleGeoMatch (.dict fields) _
  unfold handleGeoMatch
  dsimp only
  rw [hthere, hhere]

theorem hasRelation_within {fields : Dict} (input : AuthorizationInput)
    (hreads : ∀ a ∈ conditionReads ("has_relation", .dict fields),
      a ∈ footprint) :
    ReadsWithin footprint fun attributes =>
      handleHasRelation (.dict fields) (input.withAttributes attributes) := by
  intro attributes attributes' h
  have hrelations := user_getD h input _ (hreads _ List.mem_cons_self) (.list [])
  have hfield : ∀ field, Dict.get fields "object_id_from_resource" = .str field →
      Dict.get (input.withAttributes attributes).resource field =
        Dict.get (input.withAttributes attributes').resource field := by
    intro field hnamed
    apply resource_get h input
    apply hreads
    apply List.mem_cons_of_mem
    rw [hnamed]
    exact List.mem_cons_self
  show handleHasRelation (.dict fields) _ = handleHasRelation (.dict fields) _
  unfold handleHasRelation
  dsimp only
  rw [hrelations]
  -- the object is named by the condition, or by a field of the resource
  cases hobject : Dict.get fields "object_id" with
  | null =>
      cases hnamed : Dict.get fields "object_id_from_resource" with
      | str field =>
          dsimp only
          rw [hfield field hnamed]
      | _ => rfl
  | _ => rfl

/-- A handler reads what its condition names. -/
theorem handler_within {key : String} {value : Value}
    {handler : Value → AuthorizationInput → Except PyError ConditionResult}
    (hhandler : conditionHandler key = some handler) (input : AuthorizationInput)
    (hreads : ∀ a ∈ conditionReads (key, value), a ∈ footprint) :
    ReadsWithin footprint fun attributes => handler value (input.withAttributes attributes) := by
  unfold conditionHandler at hhandler
  split at hhandler
  · cases hhandler
    intro attributes attributes' h
    -- role: the user's role and roles
    have hrole := user_get h input "role" (hreads _ (by simp [conditionReads]))
    have hroles := user_getD h input "roles" (hreads _ (by simp [conditionReads])) (.list [])
    show handleRole value _ = handleRole value _
    unfold handleRole
    rw [hrole, hroles]
  · cases hhandler
    intro attributes attributes' h
    -- max_amount: the amount of the resource
    have hamount := resource_getD h input "amount" (hreads _ (by simp [conditionReads]))
      (.int 0)
    simp only [handleMaxAmount, hamount]
  · cases hhandler
    intro attributes attributes' h
    show handleOwnerOnly value _ = handleOwnerOnly value _
    unfold handleOwnerOnly
    -- owner_only: reads nothing unless its value is true
    split
    · rfl
    · rename_i htruthy
      have htrue : value.truthy = true := by simpa using htruthy
      have howner := resource_get h input "owner_id"
        (hreads _ (by simp [conditionReads, htrue]))
      have hid := user_get h input "id" (hreads _ (by simp [conditionReads, htrue]))
      rw [howner, hid]
  · cases hhandler
    intro attributes attributes' h
    -- time_range: the time of the context
    have htime := context_get h input "current_time" (hreads _ (by simp [conditionReads]))
    simp only [handleTimeRange, htime]
  · cases hhandler
    -- geo_match: two fields that the value names
    cases value with
    | dict fields => exact geoMatch_within input hreads
    | _ => exact Lib.Within.const footprint _
  · cases hhandler
    cases value with
    | dict fields => exact hasRelation_within input hreads
    | _ => exact Lib.Within.const footprint _
  · cases hhandler

/-- Conditions read what each of them names. -/
theorem conditions_within (conditions : Dict) (input : AuthorizationInput)
    (hreads : ∀ a ∈ conditions.flatMap conditionReads, a ∈ footprint) :
    ReadsWithin footprint fun attributes =>
      evaluateConditions conditions (input.withAttributes attributes) := by
  induction conditions with
  | nil => exact Lib.Within.const footprint _
  | cons condition conditions ih =>
      obtain ⟨key, value⟩ := condition
      have hfirst : ∀ a ∈ conditionReads (key, value), a ∈ footprint :=
        fun a hmem => hreads a (List.mem_append_left _ hmem)
      have hrest := ih fun a hmem => hreads a (List.mem_append_right _ hmem)
      simp only [evaluateConditions]
      cases hhandler : conditionHandler key with
      | none => exact Lib.Within.const footprint _
      | some handler =>
          apply (handler_within hhandler input hfirst).exceptBind
          intro result
          obtain ⟨ok, reason⟩ := result
          cases ok with
          | true => exact hrest
          | false => exact Lib.Within.const footprint _

/-! ## What the stages read -/

/-- The subjects of the user. -/
theorem subjectDescriptors_within (input : AuthorizationInput)
    (hreads : ∀ a ∈ userReads, a ∈ footprint) :
    ReadsWithin footprint fun attributes =>
      subjectDescriptors (input.withAttributes attributes) := by
  intro attributes attributes' h
  have hid := user_get h input "id" (hreads _ (by simp [userReads]))
  have hroles := user_getD h input "roles" (hreads _ (by simp [userReads])) (.list [])
  have hpermissions := user_getD h input "permissions" (hreads _ (by simp [userReads]))
    (.list [])
  have hdirect := user_getD h input "direct_permissions" (hreads _ (by simp [userReads]))
    (.list [])
  have hrelations := user_getD h input "relations" (hreads _ (by simp [userReads])) (.list [])
  show subjectDescriptors _ = subjectDescriptors _
  unfold subjectDescriptors
  dsimp only
  rw [hid, hroles, hpermissions, hdirect, hrelations]

/-- The two readings of the resource. -/
theorem identities_within (input : AuthorizationInput)
    (hreads : ∀ a ∈ identityReads, a ∈ footprint) :
    ReadsWithin footprint fun attributes =>
      (KeyNetraEngine.resourceIdentity (input.withAttributes attributes).resource,
        CompiledPermissionGraph.resourceIdentity (input.withAttributes attributes).resource) := by
  intro attributes attributes' h
  have hget : ∀ key ∈ ["resource_type", "type", "kind", "entity_type", "resource_id", "id"],
      Dict.get (input.withAttributes attributes).resource key =
        Dict.get (input.withAttributes attributes').resource key := by
    intro key hkey
    apply resource_get h input
    apply hreads
    simp only [List.mem_cons, List.not_mem_nil, or_false] at hkey
    rcases hkey with rfl | rfl | rfl | rfl | rfl | rfl <;> simp [identityReads]
  unfold KeyNetraEngine.resourceIdentity CompiledPermissionGraph.resourceIdentity
  dsimp only
  rw [hget "resource_type" (by simp), hget "type" (by simp), hget "kind" (by simp),
    hget "entity_type" (by simp), hget "resource_id" (by simp), hget "id" (by simp)]

/-- The ACL loop reads the action of the request only. -/
theorem evaluateAclEntries_congr {input input' : AuthorizationInput}
    (haction : input.action = input'.action) (resourceType resourceId : String)
    (userSubjects : List String) (entries : List Dict) (matched : Bool) :
    evaluateAclEntries input resourceType resourceId userSubjects entries matched =
      evaluateAclEntries input' resourceType resourceId userSubjects entries matched := by
  induction entries generalizing matched with
  | nil => rfl
  | cons entry entries ih =>
      rw [evaluateAclEntries, evaluateAclEntries, haction]
      simp only [ih]

/-- The relations of two users are read alike. -/
theorem evaluateExpr_congr {input input' : AuthorizationInput}
    (hrelations : Dict.getD input.user "relations" (.list []) =
      Dict.getD input'.user "relations" (.list []))
    (hresource : input.resource = input'.resource) (resourceType : String) (expression : Expr) :
    evaluateExpr input resourceType expression = evaluateExpr input' resourceType expression := by
  induction expression with
  | identifier name =>
      unfold evaluateExpr hasRelation
      rw [hrelations, hresource]
  | not value ih => rw [evaluateExpr, evaluateExpr, ih]
  | and left right ihl ihr => rw [evaluateExpr, evaluateExpr, ihl, ihr]
  | or left right ihl ihr => rw [evaluateExpr, evaluateExpr, ihl, ihr]

/-- The stages before the policies, of two users. -/
theorem dataStages_user {attributes attributes' : RequestAttributes}
    (input : AuthorizationInput) (hreads : ∀ a ∈ userReads, a ∈ footprint)
    (h : Lib.AgreeOn RequestAttributes.read footprint attributes attributes')
    (hresource : (input.withAttributes attributes).resource =
      (input.withAttributes attributes').resource) :
    dataStages (input.withAttributes attributes) = dataStages (input.withAttributes attributes') := by
  -- each field of the user that a stage reads is one of the footprint
  have hsubjects := subjectDescriptors_within input hreads attributes attributes' h
  have hpermissions := user_getD h input "permissions" (hreads _ (by simp [userReads]))
    (.list [])
  have hdirect := user_getD h input "direct_permissions" (hreads _ (by simp [userReads]))
  have hrole := user_getD h input "role_permissions" (hreads _ (by simp [userReads]))
    (.list [])
  have hrelations := user_getD h input "relations" (hreads _ (by simp [userReads])) (.list [])
  have hexpr : ∀ resourceType expression,
      evaluateExpr (input.withAttributes attributes) resourceType expression =
        evaluateExpr (input.withAttributes attributes') resourceType expression :=
    evaluateExpr_congr hrelations hresource
  have hgraph : ∀ graph : CompiledPermissionGraph,
      graph.evaluate (input.withAttributes attributes) =
        graph.evaluate (input.withAttributes attributes') := by
    intro graph
    unfold CompiledPermissionGraph.evaluate
    simp only [hexpr]
    rw [hresource]
    rfl
  -- the subjects come first, for two stages go through them
  dsimp only at hsubjects
  unfold dataStages
  dsimp only
  rw [hsubjects]
  generalize subjectDescriptors (input.withAttributes attributes') = userSubjects
  -- then stage by stage
  have hpermission : evaluateDirectPermissions (input.withAttributes attributes) =
      evaluateDirectPermissions (input.withAttributes attributes') := by
    unfold evaluateDirectPermissions
    rw [hpermissions, hdirect]
    rfl
  have hentries : ∀ resourceType resourceId entries,
      evaluateAclEntries (input.withAttributes attributes) resourceType resourceId userSubjects
          entries false =
        evaluateAclEntries (input.withAttributes attributes') resourceType resourceId userSubjects
          entries false := by
    intro resourceType resourceId entries
    have haction : (input.withAttributes attributes).action =
        (input.withAttributes attributes').action := rfl
    exact evaluateAclEntries_congr haction resourceType resourceId userSubjects entries false
  have hacl : evaluateAcl (input.withAttributes attributes) userSubjects =
      evaluateAcl (input.withAttributes attributes') userSubjects := by
    unfold evaluateAcl
    simp only [hentries]
    rw [hresource]
    rfl
  have hroles : evaluateRolePermissions (input.withAttributes attributes) =
      evaluateRolePermissions (input.withAttributes attributes') := by
    unfold evaluateRolePermissions
    rw [hrole]
    rfl
  have hindex : evaluateRelationshipIndex (input.withAttributes attributes) userSubjects =
      evaluateRelationshipIndex (input.withAttributes attributes') userSubjects := by
    unfold evaluateRelationshipIndex
    rw [hresource]
    rfl
  have hmodel : evaluatePermissionGraph (input.withAttributes attributes) =
      evaluatePermissionGraph (input.withAttributes attributes') := by
    unfold evaluatePermissionGraph
    simp only [hgraph]
    rfl
  rw [hpermission, hacl, hroles, hindex, hmodel]

/-! ## What a decision reads -/

/-- The loop over the policies reads what those of the action name. -/
theorem nodes_within (policies : List PolicyDefinition) (input : AuthorizationInput)
    (hreads : ∀ policy ∈ policies, policy.action = input.action →
      ∀ a ∈ policy.reads, a ∈ footprint) (firstReason : Option String) :
    ReadsWithin footprint fun attributes =>
      evaluateNodes (input.withAttributes attributes) (policies.map PolicyDefinition.node)
        firstReason := by
  induction policies generalizing firstReason with
  | nil => cases firstReason <;> exact Lib.Within.const footprint _
  | cons policy policies ih =>
      have hrest := ih fun other hmem => hreads other (List.mem_cons_of_mem policy hmem)
      have haction : ∀ attributes, (input.withAttributes attributes).action = input.action :=
        fun _ => rfl
      simp only [List.map_cons, evaluateNodes, haction]
      -- a policy of the action reads its conditions, and the rest when they fail
      by_cases hsame : policy.node.action = input.action
      · simp only [hsame, ne_eq, not_true_eq_false, if_false, node_evaluate]
        have hchecked := conditions_within policy.checked input
          (hreads policy List.mem_cons_self hsame)
        apply hchecked.exceptBind
        intro result
        obtain ⟨matched, reason⟩ := result
        cases matched with
        | true => exact Lib.Within.const footprint _
        | false => exact hrest (firstReason.or reason)
      · -- one of another action reads nothing
        simp only [hsame, ne_eq, not_false_eq_true, if_true]
        exact hrest firstReason

/-- Requests whose users, and whose attributes that the policies read, agree, and whose resources
are identified alike, are decided alike. -/
theorem decide_alike {sources : List PolicySource} {engine : KeyNetraEngine}
    (hnew : KeyNetraEngine.new sources = .ok engine) (input : AuthorizationInput)
    {attributes attributes' : RequestAttributes}
    (hengine : KeyNetraEngine.resourceIdentity attributes.resource =
      KeyNetraEngine.resourceIdentity attributes'.resource)
    (hgraph : CompiledPermissionGraph.resourceIdentity attributes.resource =
      CompiledPermissionGraph.resourceIdentity attributes'.resource)
    (h : Lib.AgreeOn RequestAttributes.read {a | a ∈ userReads ++ engine.policyReads input.action}
      attributes attributes') :
    engine.decide (input.withAttributes attributes) =
      engine.decide (input.withAttributes attributes') := by
  have hstages : dataStages (input.withAttributes attributes) =
      dataStages (input.withAttributes attributes') := by
    -- first the user and the context, then the resource, of which only the identity is read
    have huser : dataStages (input.withAttributes attributes) =
        dataStages (input.withAttributes { attributes' with resource := attributes.resource }) := by
      have hagree : Lib.AgreeOn RequestAttributes.read {a | a ∈ userReads} attributes
          { attributes' with resource := attributes.resource } := by
        intro a hmem
        have hsame := h a (List.mem_append_left _ hmem)
        cases a with
        | resource key => rfl
        | _ => exact hsame
      exact dataStages_user input (fun a hmem => hmem) hagree rfl
    exact huser.trans (dataStages_withResource hengine hgraph
      (input.withAttributes { attributes' with resource := attributes.resource }))
  have hstart : startTrace (input.withAttributes attributes) =
      startTrace (input.withAttributes attributes') := rfl
  have hpolicies : engine.evaluateCompiledPolicies (input.withAttributes attributes) =
      engine.evaluateCompiledPolicies (input.withAttributes attributes') := by
    rcases hparse : sources.mapM PolicySource.parse with e | policies
    · unfold KeyNetraEngine.new at hnew
      rw [hparse] at hnew
      cases hnew
    · rw [new_eq hparse] at hnew
      cases hnew
      -- the policies that are read are those of the action
      have hreads : ∀ policy ∈ Lib.sortOn PolicyDefinition.priority policies,
          policy.action = input.action → ∀ a ∈ policy.reads,
            a ∈ {a | a ∈ userReads ++ KeyNetraEngine.policyReads
              ⟨Lib.sortOn PolicyDefinition.priority policies,
                ⟨(Lib.sortOn PolicyDefinition.priority policies).map PolicyDefinition.node⟩⟩
              input.action} := by
        intro policy hpolicy haction a hmem
        apply List.mem_append_right
        exact List.mem_flatMap.mpr
          ⟨policy, List.mem_filter.mpr ⟨hpolicy, decide_eq_true haction⟩, hmem⟩
      have hnodes := nodes_within _ input hreads none attributes attributes' h
      unfold KeyNetraEngine.evaluateCompiledPolicies DecisionGraph.evaluate
      rw [Option.getD_none]
      exact congrArg (· >>= _) hnodes
  unfold KeyNetraEngine.decide
  rw [hstages, hstart, hpolicies]

/-- The decision of an engine, with its reason and its trace, is read from a few attributes of the
user and the resource and from those that the policies of the action name. -/
theorem decide_within {sources : List PolicySource} {engine : KeyNetraEngine}
    (hnew : KeyNetraEngine.new sources = .ok engine) (input : AuthorizationInput) :
    ReadsWithin {a | a ∈ engine.reads input.action} fun attributes =>
      engine.decide (input.withAttributes attributes) := by
  intro attributes attributes' h
  have hagree : Lib.AgreeOn RequestAttributes.read {a | a ∈ identityReads} attributes attributes' :=
    h.mono fun a hmem => List.mem_append_left _ (List.mem_append_right _ hmem)
  have hidentities := identities_within input (fun a hmem => hmem) attributes attributes' hagree
  obtain ⟨hengine, hgraph⟩ := Prod.mk.inj hidentities
  apply decide_alike hnew input hengine hgraph
  intro a hmem
  rcases List.mem_append.mp hmem with hmem | hmem
  · exact h a (List.mem_append_left _ (List.mem_append_left _ hmem))
  · exact h a (List.mem_append_right _ hmem)

end Reads

section Concrete

attribute [local instance] plainRuntime

/-- The engine of the two policies on reading. -/
def readersEngine : KeyNetraEngine :=
  ⟨Lib.sortOn PolicyDefinition.priority readPolicies,
    ⟨(Lib.sortOn PolicyDefinition.priority readPolicies).map PolicyDefinition.node⟩⟩

/-- The country of the admin is not read. -/
theorem country_unread :
    readersEngine.decide
        (adminRead.withAttributes ⟨[("role", .str "admin"), ("country", .str "NL")], [], []⟩) =
      readersEngine.decide (adminRead.withAttributes ⟨[("role", .str "admin")], [], []⟩) := by
  have hparse : readSources.mapM PolicySource.parse = .ok readPolicies := rfl
  have hcountry : Attribute.user "country" ∉ readersEngine.reads "read" := by decide +kernel
  apply decide_within (new_eq hparse) adminRead
  intro a hmem
  cases a with
  | user key =>
      have hother : ¬ "country" = key := by
        rintro rfl
        exact hcountry hmem
      show Assoc.get? _ key = Assoc.get? _ key
      simp [hother]
  | _ => rfl

end Concrete

end KeyNetra
