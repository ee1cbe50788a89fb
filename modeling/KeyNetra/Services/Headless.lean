import KeyNetra.Engine.Footprint
import KeyNetra.Modeling.SchemaParser

/-!
# KeyNetra.Services.Headless — the embedded facade

Without a server, a subject and a resource are given as dictionaries, or as texts `kind:id`.

* `parseDescriptor` — the kind and the id of a text;
* `Headless.checkAccess` / `KeyNetraEngine.checkAccess` — the two entry points;
* `text_descriptors` — a text is decided as the dictionary of its parts, and the kind of the
  subject does not matter, unless a policy reads it.
-/

namespace KeyNetra

/-! ## Descriptors -/

/-- `str | dict[str, Any]`. -/
inductive Descriptor where
  | text (value : String)
  | fields (value : Dict)

/-- `text or "unknown"`. -/
def orUnknown (text : String) : String := if text = "" then "unknown" else text

/-- `_parse_descriptor`. -/
def parseDescriptor (value : String) : String × String :=
  let normalized := pyStrip value
  match splitOnce ':' normalized.toList with
  | none => (orUnknown normalized, normalized)
  | some (kind, identifier) =>
      (orUnknown (pyStrip (String.ofList kind)), pyStrip (String.ofList identifier))

/-- `_subject_to_user` and `_normalize_subject`. -/
def subjectToUser : Descriptor → Dict
  | .fields subject => subject
  | .text subject =>
      let (kind, identifier) := parseDescriptor subject
      if kind = "user" then [("id", .str identifier)]
      else [("id", .str identifier), ("subject_type", .str kind)]

/-- `_resource_to_payload` and `_normalize_resource`. -/
def resourceToPayload : Descriptor → Dict
  | .fields resource => resource
  | .text resource =>
      let (resourceType, resourceId) := parseDescriptor resource
      [("id", .str resourceId), ("resource_id", .str resourceId),
        ("resource_type", .str resourceType), ("type", .str resourceType)]

/-! ## The facade -/

/-- `KeyNetra`: an engine, and the model that was loaded. -/
structure Headless where
  engine : KeyNetraEngine
  permissionGraph : Option CompiledPermissionGraph := none

section Facade

variable [PyRuntime]

/-- `KeyNetra.load_policies`, of the policies that the file loader returned. -/
def Headless.loadPolicies (facade : Headless) (loaded : List Dict) : Except PyError Headless :=
  if loaded.isEmpty then .error (.valueError "no policies found in the provided path")
  else do
    let engine ← KeyNetraEngine.new (loaded.map .raw)
    .ok { facade with engine }

/-- `KeyNetra.load_model`, of the model that was compiled from the file. -/
def Headless.loadModel (facade : Headless) (model : CompiledAuthorizationModel) : Headless :=
  { facade with permissionGraph := some ⟨"default", model⟩ }

/-- `KeyNetra.check_access`. -/
def Headless.checkAccess (facade : Headless) (subject : Descriptor) (action : String)
    (resource : Descriptor) (context : Option Dict := none) :
    Except PyError AuthorizationDecision :=
  facade.engine.decide
    { user := subjectToUser subject
      action := action
      resource := resourceToPayload resource
      context := context.getD []
      permissionGraph := facade.permissionGraph }

/-- `KeyNetraEngine.check_access`. -/
def KeyNetraEngine.checkAccess (engine : KeyNetraEngine) (subject : Descriptor) (action : String)
    (resource : Descriptor) (context : Option Dict := none) :
    Except PyError AuthorizationDecision :=
  engine.decide
    { user := subjectToUser subject
      action := action
      resource := resourceToPayload resource
      context := context.getD [] }

/-- The engine's entry point is that of the facade before a model is loaded. -/
theorem checkAccess_engine (engine : KeyNetraEngine) (subject : Descriptor) (action : String)
    (resource : Descriptor) (context : Option Dict) :
    engine.checkAccess subject action resource context =
      Headless.checkAccess ⟨engine, none⟩ subject action resource context := rfl

/-! ## Texts -/

omit [PyRuntime] in
theorem parseDescriptor_kind (value : String) : (parseDescriptor value).1 ≠ "" := by
  have hknown : ∀ text, orUnknown text ≠ "" := by
    intro text
    unfold orUnknown
    split
    · decide
    · assumption
  unfold parseDescriptor
  dsimp only
  split
  · exact hknown _
  · exact hknown _

omit [PyRuntime] in
/-- Of the user that a text names, only the kind tells it from its id. -/
theorem subjectToUser_text (subject key : String) (hkey : key ≠ "subject_type") :
    (subjectToUser (.text subject)).get? key =
      Assoc.get? [("id", Value.str (parseDescriptor subject).2)] key := by
  have hother : "subject_type" ≠ key := hkey.symm
  unfold subjectToUser
  dsimp only
  split
  · rfl
  · simp [hother]

/-- The parts of a text. -/
def namedResource (resource : String) : Dict :=
  [("resource_type", .str (parseDescriptor resource).1),
    ("resource_id", .str (parseDescriptor resource).2)]

omit [PyRuntime] in
theorem resourceToPayload_text (resource key : String) (hid : key ≠ "id") (htype : key ≠ "type") :
    (resourceToPayload (.text resource)).get? key = (namedResource resource).get? key := by
  have hid' : "id" ≠ key := hid.symm
  have htype' : "type" ≠ key := htype.symm
  unfold resourceToPayload namedResource
  by_cases hresourceId : "resource_id" = key
  · subst hresourceId
    simp
  · by_cases hresourceType : "resource_type" = key
    · subst hresourceType
      simp
    · simp [hid', htype', hresourceId, hresourceType]

/-- A text and its parts identify one resource, for the engine and for the model. -/
theorem identity_text (resource : String) :
    KeyNetraEngine.resourceIdentity (resourceToPayload (.text resource)) =
        KeyNetraEngine.resourceIdentity (namedResource resource) ∧
      CompiledPermissionGraph.resourceIdentity (resourceToPayload (.text resource)) =
        CompiledPermissionGraph.resourceIdentity (namedResource resource) := by
  have hkind := parseDescriptor_kind resource
  unfold KeyNetraEngine.resourceIdentity CompiledPermissionGraph.resourceIdentity
    resourceToPayload namedResource
  by_cases hid : (parseDescriptor resource).2 = ""
  · simp [Dict.get, Value.pyOr, Value.truthy, hkind, hid]
  · simp [Dict.get, Value.pyOr, Value.truthy, hkind, hid]

/-- A text for the subject is decided as its id, and a text for the resource as its type and its
id, unless a policy of the action reads one of the three attributes that a text adds. -/
theorem text_descriptors {sources : List PolicySource} {facade : Headless}
    (hnew : KeyNetraEngine.new sources = .ok facade.engine) {action : String}
    (hunread : ∀ a ∈ [Attribute.user "subject_type", .resource "id", .resource "type"],
      a ∉ facade.engine.policyReads action)
    (subject resource : String) (context : Option Dict) :
    facade.checkAccess (.text subject) action (.text resource) context =
      facade.checkAccess (.fields [("id", .str (parseDescriptor subject).2)]) action
        (.fields (namedResource resource)) context := by
  obtain ⟨hengine, hgraph⟩ := identity_text resource
  have huser := subjectToUser_text subject
  have hresource := resourceToPayload_text resource
  unfold Headless.checkAccess
  -- only what the two users and the two resources have in common matters from here on
  generalize subjectToUser (.text subject) = user at huser ⊢
  generalize resourceToPayload (.text resource) = payload at hengine hgraph hresource ⊢
  suffices hagree : Lib.AgreeOn RequestAttributes.read
      {a | a ∈ userReads ++ facade.engine.policyReads action} ⟨user, payload, context.getD []⟩
      ⟨[("id", .str (parseDescriptor subject).2)], namedResource resource, context.getD []⟩ by
    exact decide_alike hnew
      { user := [], action := action, resource := [], permissionGraph := facade.permissionGraph }
      hengine hgraph hagree
  intro a hmem
  have hother : a ∉ [Attribute.user "subject_type", .resource "id", .resource "type"] := by
    intro hadded
    rcases List.mem_append.mp hmem with hmem | hmem
    · simp only [List.mem_cons, List.not_mem_nil, or_false] at hadded
      rcases hadded with rfl | rfl | rfl <;> simp [userReads] at hmem
    · exact hunread a hadded hmem
  cases a with
  | user key =>
      apply huser
      rintro rfl
      exact hother List.mem_cons_self
  | resource key =>
      apply hresource
      · rintro rfl
        exact hother (List.mem_cons_of_mem _ List.mem_cons_self)
      · rintro rfl
        exact hother (List.mem_cons_of_mem _ (List.mem_cons_of_mem _ List.mem_cons_self))
  | context key => rfl

end Facade

section Concrete

attribute [local instance] plainRuntime

/-- Documents are read by those who own them. -/
def ownersRead : PolicyDefinition where
  action := "read"
  effect := .allow
  conditions := [("owner_only", .bool true)]

def ownersFacade : Headless where
  engine :=
    ⟨Lib.sortOn PolicyDefinition.priority [ownersRead],
      ⟨(Lib.sortOn PolicyDefinition.priority [ownersRead]).map PolicyDefinition.node⟩⟩

theorem ownersFacade_new : KeyNetraEngine.new [.definition ownersRead] = .ok ownersFacade.engine :=
  new_eq rfl

/-- Team 7 is taken for user 7. -/
theorem team_decided_as_user :
    ownersFacade.checkAccess (.text "team:7") "read" (.text "doc:9") none =
      ownersFacade.checkAccess (.text "user:7") "read" (.text "doc:9") none := by
  have hunread : ∀ a ∈ [Attribute.user "subject_type", .resource "id", .resource "type"],
      a ∉ ownersFacade.engine.policyReads "read" := by
    decide +kernel
  have hid : (parseDescriptor "team:7").2 = (parseDescriptor "user:7").2 := by decide +kernel
  rw [text_descriptors ownersFacade_new hunread "team:7" "doc:9",
    text_descriptors ownersFacade_new hunread "user:7" "doc:9", hid]

end Concrete

end KeyNetra
