import KeyNetra.Engine.Conditions

/-!
# KeyNetra.Engine.PermissionGraph — evaluating a compiled authorization model

`CompiledPermissionGraph.evaluate` answers a request from the user's relation
edges: the permission's expression is evaluated with every identifier read as
"the user has an edge with this relation to this resource".

* `evaluateExpr_eq` — that value, as a Boolean expression over edges;
* `permission_reading_iff` — it is the schema's reading (an identifier that
  names a permission has the value of that permission) exactly when the
  expression depends on declared relations only;
* `permission_reference_unread` — a permission defined through another one is
  denied to a user who holds it.
-/

namespace KeyNetra

section Graph

/-! ## The reading of a permission -/

/-- What the schema says of a permission under a valuation of the relations. -/
noncomputable def AuthorizationSchema.reading (schema : AuthorizationSchema)
    (hac : schema.Acyclic) (v : String → Bool) (permission : String) : Bool :=
  schema.definitions.reading hac.wellFounded v permission

variable {schema : AuthorizationSchema} {model : CompiledAuthorizationModel}

theorem definitions_body {p : String} {e : Expr} (hp : schema.permissions.get? p = some e) :
    schema.definitions.body p = some e.toBoolExpr := by
  simp [AuthorizationSchema.definitions, hp]

/-- Valuations that agree on the declared relations give the same reading. -/
theorem reading_congr {hac : schema.Acyclic} {v w : String → Bool}
    (h : ∀ name ∈ schema.declared, v name = w name) (p : String) :
    schema.reading hac v p = schema.reading hac w p :=
  schema.definitions.reading_congr h p

/-- An expression over declared relations has its plain value in the reading. -/
theorem reading_of_dependsOnly {hac : schema.Acyclic} {p : String} {e : Expr}
    (hp : schema.permissions.get? p = some e)
    (hdep : e.toBoolExpr.DependsOnlyOn schema.declared) (v : String → Bool) :
    schema.reading hac v p = e.toBoolExpr.eval v := by
  unfold AuthorizationSchema.reading
  rw [Lib.Definitions.reading_eq (definitions_body hp)]
  apply hdep
  intro name hname
  exact Lib.Definitions.identifier_base hname

variable [PyRuntime]

/-! ## The evaluator -/

/-- The answer of a permission graph. -/
structure AuthorizationGraphDecision where
  outcome : Outcome
  reason : Option String
  policyId : Option String
deriving DecidableEq, Repr

/-- `CompiledPermissionGraph._resource_identity`. -/
def CompiledPermissionGraph.resourceIdentity (resource : Dict) : String × String :=
  (((Dict.get resource "resource_type").pyOr ((Dict.get resource "type").pyOr
      ((Dict.get resource "kind").pyOr (.str "")))).text,
    ((Dict.get resource "resource_id").pyOr ((Dict.get resource "id").pyOr (.str ""))).text)

/-- `_PermissionEvaluator._has_relation`. -/
def hasRelation (input : AuthorizationInput) (resourceType name : String) : Bool :=
  match Dict.getD input.user "relations" (.list []) with
  | .list relations =>
      let resourceId := ((Dict.get input.resource "resource_id").pyOr
        ((Dict.get input.resource "id").pyOr (.str ""))).text
      relations.any fun
        | .dict edge =>
            (Dict.get edge "relation").text == name &&
              (Dict.get edge "object_type").text == resourceType &&
              (Dict.get edge "object_id").text == resourceId
        | _ => false
  | _ => false

/-- `_PermissionEvaluator.evaluate`. -/
def evaluateExpr (input : AuthorizationInput) (resourceType : String) : Expr → Bool
  | .identifier name => hasRelation input resourceType name
  | .not value => !evaluateExpr input resourceType value
  | .and left right =>
      evaluateExpr input resourceType left && evaluateExpr input resourceType right
  | .or left right =>
      evaluateExpr input resourceType left || evaluateExpr input resourceType right

/-- `CompiledPermissionGraph.evaluate`. -/
def CompiledPermissionGraph.evaluate (graph : CompiledPermissionGraph)
    (input : AuthorizationInput) : AuthorizationGraphDecision :=
  let resourceType := (resourceIdentity input.resource).1
  if resourceType = "" ∨ input.action = "" then ⟨.abstain, none, none⟩
  else
    match graph.model.permissions.get? input.action with
    | none => ⟨.abstain, none, none⟩
    | some permission =>
        if evaluateExpr input resourceType permission.expression then
          ⟨.allow, some s!"matched authorization model permission {input.action}",
            some s!"auth-model:{input.action}"⟩
        else
          ⟨.deny, some s!"authorization model denied {input.action}",
            some s!"auth-model:{input.action}"⟩

/-! ## Edges -/

/-- The user has an edge with relation `name` to the resource. -/
def HasEdge (user resource : Dict) (name : String) : Prop :=
  ∃ relations edge, Dict.getD user "relations" (.list []) = .list relations ∧
    Value.dict edge ∈ relations ∧
    (Dict.get edge "relation").text = name ∧
    (Dict.get edge "object_type").text = (CompiledPermissionGraph.resourceIdentity resource).1 ∧
    (Dict.get edge "object_id").text = (CompiledPermissionGraph.resourceIdentity resource).2

open Classical in
/-- The valuation of relation names a user's edges to a resource give. -/
noncomputable def edges (user resource : Dict) (name : String) : Bool :=
  decide (HasEdge user resource name)

theorem edges_iff {user resource : Dict} {name : String} :
    edges user resource name = true ↔ HasEdge user resource name := by
  simp [edges]

/-- The evaluator's loop looks for an edge. -/
theorem hasRelation_eq_edges (input : AuthorizationInput) (name : String) :
    hasRelation input (CompiledPermissionGraph.resourceIdentity input.resource).1 name =
      edges input.user input.resource name := by
  rw [Bool.eq_iff_iff, edges_iff]
  unfold hasRelation HasEdge
  cases Dict.getD input.user "relations" (.list []) with
  | list relations =>
      simp only [List.any_eq_true]
      constructor
      · rintro ⟨edge, hmem, hedge⟩
        cases edge with
        | dict items =>
            simp only [Bool.and_eq_true, beq_iff_eq] at hedge
            exact ⟨relations, items, rfl, hmem, hedge.1.1, hedge.1.2, hedge.2⟩
        | _ => cases hedge
      · rintro ⟨_, items, hrel, hmem, hname, htype, hid⟩
        cases hrel
        refine ⟨.dict items, hmem, ?_⟩
        simp only [Bool.and_eq_true, beq_iff_eq]
        exact ⟨⟨hname, htype⟩, hid⟩
  | _ => simp

/-- The evaluator computes the expression's value under the user's edges. -/
theorem evaluateExpr_eq (input : AuthorizationInput) (e : Expr) :
    evaluateExpr input (CompiledPermissionGraph.resourceIdentity input.resource).1 e =
      e.toBoolExpr.eval (edges input.user input.resource) := by
  induction e with
  | identifier name => exact hasRelation_eq_edges input name
  | not value ih => simp only [evaluateExpr, Expr.toBoolExpr, Lib.BoolExpr.eval, ih]
  | and left right ihl ihr =>
      simp only [evaluateExpr, Expr.toBoolExpr, Lib.BoolExpr.eval, ihl, ihr]
  | or left right ihl ihr =>
      simp only [evaluateExpr, Expr.toBoolExpr, Lib.BoolExpr.eval, ihl, ihr]

/-- The relation edge to a resource, as hydration writes it. -/
def edgeTo (resource : Dict) (name : String) : Value :=
  .dict [("relation", .str name),
    ("object_type", .str (CompiledPermissionGraph.resourceIdentity resource).1),
    ("object_id", .str (CompiledPermissionGraph.resourceIdentity resource).2)]

/-- A user whose edges to the resource are exactly the given relations. -/
def userWithEdges (resource : Dict) (names : List String) : Dict :=
  [("relations", .list (names.map (edgeTo resource)))]

theorem edges_userWithEdges (resource : Dict) (names : List String) (name : String) :
    edges (userWithEdges resource names) resource name = decide (name ∈ names) := by
  rw [Bool.eq_iff_iff, edges_iff, decide_eq_true_iff]
  constructor
  · rintro ⟨relations, edge, hrel, hmem, hname, -, -⟩
    have hlist : relations = names.map (edgeTo resource) := by
      simpa [userWithEdges, Dict.getD, eq_comm] using hrel
    rw [hlist] at hmem
    obtain ⟨n, hn, hedge⟩ := List.mem_map.mp hmem
    cases hedge
    rwa [← hname]
  · intro hmem
    exact ⟨_, _, rfl, List.mem_map.mpr ⟨name, hmem, rfl⟩, rfl, rfl, rfl⟩

/-- The graph decides every request for `p` on a resource with a type. -/
theorem evaluate_outcome (tenantKey : String)
    (hmodel : compileAuthorizationSchema schema = .ok model) {p : String} {e : Expr}
    (hp : schema.permissions.get? p = some e) {input : AuthorizationInput}
    (haction : input.action = p)
    (htype : (CompiledPermissionGraph.resourceIdentity input.resource).1 ≠ "") :
    (CompiledPermissionGraph.evaluate ⟨tenantKey, model⟩ input).outcome =
      if e.toBoolExpr.eval (edges input.user input.resource) then .allow else .deny := by
  have hvalid : schema.Valid := (compile_ok_iff.mp hmodel).1
  have hne : input.action ≠ "" := haction ▸ (hvalid.names _ (Assoc.mem_of_get? hp)).1
  have hget : model.permissions.get? input.action = some ⟨p, e⟩ := by
    rw [haction, compile_permissions hmodel, hp]
    rfl
  unfold CompiledPermissionGraph.evaluate
  simp only [htype, hne, or_self, if_false, hget, evaluateExpr_eq]
  cases e.toBoolExpr.eval (edges input.user input.resource) <;> rfl

/-- Whether the graph allows a request for `p`, when the resource has a type. -/
theorem evaluate_allow_iff (tenantKey : String)
    (hmodel : compileAuthorizationSchema schema = .ok model) {p : String} {e : Expr}
    (hp : schema.permissions.get? p = some e) {input : AuthorizationInput}
    (haction : input.action = p)
    (htype : (CompiledPermissionGraph.resourceIdentity input.resource).1 ≠ "") :
    (CompiledPermissionGraph.evaluate ⟨tenantKey, model⟩ input).outcome = .allow ↔
      e.toBoolExpr.eval (edges input.user input.resource) = true := by
  rw [evaluate_outcome tenantKey hmodel hp haction htype]
  cases e.toBoolExpr.eval (edges input.user input.resource) <;> simp

/-- Without a resource type the graph abstains. -/
theorem evaluate_untyped (graph : CompiledPermissionGraph) {input : AuthorizationInput}
    (htype : (CompiledPermissionGraph.resourceIdentity input.resource).1 = "") :
    (graph.evaluate input).outcome = .abstain := by
  simp [CompiledPermissionGraph.evaluate, htype]

/-- A user whose edges agree with `v` on the given names, and has no others. -/
theorem exists_user_edges (resource : Dict) (names : List String) (v : String → Bool) :
    ∃ user, ∀ name, edges user resource name = (decide (name ∈ names) && v name) := by
  refine ⟨userWithEdges resource (names.filter v), fun name => ?_⟩
  rw [edges_userWithEdges]
  by_cases hn : name ∈ names
  · cases hv : v name <;> simp [hn, hv]
  · simp [hn]

/-- The value of an expression under the user's edges is its reading for every
user, exactly when the expression depends on declared relations only. -/
theorem eval_edges_reading_iff {hac : schema.Acyclic} {p : String} {e : Expr}
    (hp : schema.permissions.get? p = some e) (resource : Dict) :
    (∀ user, e.toBoolExpr.eval (edges user resource) =
        schema.reading hac (edges user resource) p) ↔
      e.toBoolExpr.DependsOnlyOn schema.declared := by
  constructor
  · intro h v w hvw
    -- realise both valuations on the names of the expression
    obtain ⟨user, huser⟩ := exists_user_edges resource e.names v
    obtain ⟨user', huser'⟩ := exists_user_edges resource e.names w
    have hv : e.toBoolExpr.eval v = e.toBoolExpr.eval (edges user resource) := by
      refine Lib.BoolExpr.eval_congr fun name hname => ?_
      rw [huser, decide_eq_true (Expr.mem_vars_toBoolExpr.mp hname), Bool.true_and]
    have hw : e.toBoolExpr.eval w = e.toBoolExpr.eval (edges user' resource) := by
      refine Lib.BoolExpr.eval_congr fun name hname => ?_
      rw [huser', decide_eq_true (Expr.mem_vars_toBoolExpr.mp hname), Bool.true_and]
    rw [hv, hw, h user, h user']
    -- the two readings see the same declared relations
    refine reading_congr (fun name hname => ?_) p
    rw [huser, huser', hvw name hname]
  · intro hdep user
    exact (reading_of_dependsOnly hp hdep _).symm

/-- A reading that is false for every user of a resource is false under every
valuation of the relations. -/
theorem reading_false_iff {hac : schema.Acyclic} (resource : Dict) (p : String) :
    (∀ user, schema.reading hac (edges user resource) p = false) ↔
      ∀ v, schema.reading hac v p = false := by
  constructor
  · intro h v
    obtain ⟨user, huser⟩ := exists_user_edges resource (schema.relations.map Prod.fst) v
    rw [← h user]
    refine reading_congr (fun name hname => ?_) p
    obtain ⟨subjects, hget⟩ := Option.isSome_iff_exists.mp hname
    have hmem : name ∈ schema.relations.map Prod.fst :=
      List.mem_map.mpr ⟨_, Assoc.mem_of_get? hget, rfl⟩
    rw [huser, decide_eq_true hmem, Bool.true_and]
  · intro h user
    exact h _

/-- For a permission of an accepted schema with acyclic references and a
resource: the graph allows it exactly when its reading is true, for every
request, if and only if the resource names a type and the permission's
expression depends on declared relations only, or the resource names no type
and the reading is false whatever the edges. -/
theorem permission_reading_iff (tenantKey : String)
    (hmodel : compileAuthorizationSchema schema = .ok model) (hac : schema.Acyclic)
    {p : String} {e : Expr} (hp : schema.permissions.get? p = some e) (resource : Dict) :
    (∀ input : AuthorizationInput, input.resource = resource → input.action = p →
        ((CompiledPermissionGraph.evaluate ⟨tenantKey, model⟩ input).outcome = .allow ↔
          schema.reading hac (edges input.user input.resource) p = true)) ↔
      ((CompiledPermissionGraph.resourceIdentity resource).1 ≠ "" ∧
          e.toBoolExpr.DependsOnlyOn schema.declared) ∨
        ((CompiledPermissionGraph.resourceIdentity resource).1 = "" ∧
          ∀ v, schema.reading hac v p = false) := by
  -- without a type of its own the resource is under no permission
  by_cases htype : (CompiledPermissionGraph.resourceIdentity resource).1 = ""
  · have hfalse : (∀ input : AuthorizationInput, input.resource = resource → input.action = p →
        ((CompiledPermissionGraph.evaluate ⟨tenantKey, model⟩ input).outcome = .allow ↔
          schema.reading hac (edges input.user input.resource) p = true)) ↔
        ∀ user, schema.reading hac (edges user resource) p = false := by
      constructor
      · intro h user
        have hiff := h { user := user, resource := resource, action := p } rfl rfl
        rw [evaluate_untyped _ htype] at hiff
        simpa using hiff
      · rintro h input rfl -
        rw [evaluate_untyped _ htype, h input.user]
        simp
    rw [hfalse, reading_false_iff]
    simp [htype]
  · -- the graph evaluates the expression with references read as relations
    have hvalue : (∀ input : AuthorizationInput, input.resource = resource → input.action = p →
        ((CompiledPermissionGraph.evaluate ⟨tenantKey, model⟩ input).outcome = .allow ↔
          schema.reading hac (edges input.user input.resource) p = true)) ↔
        ∀ user, e.toBoolExpr.eval (edges user resource) =
          schema.reading hac (edges user resource) p := by
      constructor
      · intro h user
        have hiff := h { user := user, resource := resource, action := p } rfl rfl
        rw [evaluate_allow_iff tenantKey hmodel hp rfl htype] at hiff
        exact Bool.eq_iff_iff.mpr hiff
      · rintro h input rfl haction
        rw [evaluate_allow_iff tenantKey hmodel hp haction htype, h input.user]
    rw [hvalue, eval_edges_reading_iff hp]
    simp [htype]

end Graph

/-! ## Concrete schemas -/

section Concrete

attribute [local instance] plainRuntime

/-- One relation, one permission over it. -/
def viewSchema : AuthorizationSchema where
  version := 1
  types := ["user", "document"]
  relations := [("viewer", ["user"])]
  permissions := [("view", .identifier "viewer")]

theorem viewSchema_acyclic : viewSchema.Acyclic := by
  refine viewSchema.definitions.acyclic_of_rank (fun _ => 0) ?_
  rintro x y ⟨e, he, hy, hbase, hdef⟩
  exfalso
  obtain ⟨expr, hexpr, rfl⟩ := Option.map_eq_some_iff.mp he
  have hview : expr = .identifier "viewer" := by
    simp only [viewSchema, Assoc.get?_cons, Assoc.get?_nil] at hexpr
    split at hexpr <;> simp_all
  subst hview
  have hviewer : y = "viewer" := hy
  subst hviewer
  exact hbase (show viewSchema.relations.contains "viewer" = true from rfl)

/-- The model `viewSchema` compiles to. -/
def viewModel : CompiledAuthorizationModel where
  version := 1
  types := ["user", "document"]
  relations := [("viewer", ["user"])]
  permissions := [("view", ⟨"view", .identifier "viewer"⟩)]
  raw := ""

/-- A document of the tenant. -/
def documentOne : Dict := [("type", .str "document"), ("id", .str "1")]

/-- The permission of `viewSchema` is over a declared relation, so the graph
follows its reading. -/
theorem view_follows_reading :
    compileAuthorizationSchema viewSchema = .ok viewModel ∧
      ∀ input : AuthorizationInput, input.resource = documentOne → input.action = "view" →
        ((CompiledPermissionGraph.evaluate ⟨"default", viewModel⟩ input).outcome = .allow ↔
          viewSchema.reading viewSchema_acyclic (edges input.user input.resource) "view" =
            true) := by
  refine ⟨rfl, ?_⟩
  refine (permission_reading_iff "default" rfl viewSchema_acyclic rfl documentOne).mpr ?_
  refine Or.inl ⟨by decide, Lib.BoolExpr.dependsOnlyOn_of_vars_subset ?_⟩
  rintro name rfl
  exact (rfl : viewSchema.relations.contains "viewer" = true)

/-- A permission defined through another one. -/
def editSchema : AuthorizationSchema where
  version := 1
  types := ["user", "document"]
  relations := [("viewer", ["user"])]
  permissions := [("view", .identifier "viewer"), ("edit", .identifier "view")]

/-- The model `editSchema` compiles to. -/
def editModel : CompiledAuthorizationModel where
  version := 1
  types := ["user", "document"]
  relations := [("viewer", ["user"])]
  permissions :=
    [("view", ⟨"view", .identifier "viewer"⟩), ("edit", ⟨"edit", .identifier "view"⟩)]
  raw := ""

theorem editSchema_acyclic : editSchema.Acyclic := by
  refine editSchema.definitions.acyclic_of_rank (fun x => if x = "edit" then 1 else 0) ?_
  rintro x y ⟨e, he, hy, hbase, -⟩
  obtain ⟨expr, hexpr, rfl⟩ := Option.map_eq_some_iff.mp he
  simp only [editSchema, Assoc.get?_cons, Assoc.get?_nil] at hexpr
  split_ifs at hexpr with hview hedit
  · -- the body of `view` names a relation
    cases hexpr
    have hviewer : y = "viewer" := hy
    exact absurd (show editSchema.relations.contains y = true by rw [hviewer]; rfl) hbase
  · -- the body of `edit` names `view`
    cases hexpr
    have hyview : y = "view" := hy
    rw [← hedit, hyview]
    decide

/-- A user who is a viewer of `documentOne`. -/
def viewerUser : Dict := userWithEdges documentOne ["viewer"]

/-- `edit` is `view` is `viewer`, and the user is a viewer, yet the graph denies
`edit`: the evaluator looks for an edge named `view`. -/
theorem permission_reference_unread :
    compileAuthorizationSchema editSchema = .ok editModel ∧
      (CompiledPermissionGraph.evaluate ⟨"default", editModel⟩
        { user := viewerUser, resource := documentOne, action := "edit" }).outcome = .deny ∧
      editSchema.reading editSchema_acyclic (edges viewerUser documentOne) "edit" = true := by
  refine ⟨rfl, by decide, ?_⟩
  have hedit : editSchema.definitions.body "edit" = some (.var "view") := rfl
  have hview : editSchema.definitions.body "view" = some (.var "viewer") := rfl
  have hnot : "view" ∉ editSchema.definitions.base :=
    show ¬ editSchema.relations.contains "view" = true by decide
  have hbase : "viewer" ∈ editSchema.definitions.base :=
    show editSchema.relations.contains "viewer" = true by decide
  unfold AuthorizationSchema.reading
  rw [Lib.Definitions.reading_eq hedit, Lib.BoolExpr.eval,
    Lib.Definitions.identifier_defined hnot (by rw [hview]; rfl),
    Lib.Definitions.reading_eq hview, Lib.BoolExpr.eval, Lib.Definitions.identifier_base hbase,
    viewerUser, edges_userWithEdges]
  decide

end Concrete

end KeyNetra
