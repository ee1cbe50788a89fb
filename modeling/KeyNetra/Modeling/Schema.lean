import KeyNetra.Py.Value
import KeyNetra.Lib.BoolExpr
import KeyNetra.Lib.Fallible

/-!
# KeyNetra.Modeling.Schema — authorization schemas

The syntax tree of a schema-first authorization model, its validator and its
compiler.

* `Expr` / `AuthorizationSchema` — what the schema parser produces;
* `validateAuthorizationSchema` — the checks, in the order the code makes them;
* `compileAuthorizationSchema` — validation, then a model with the same tables;
* `validate_ok_iff` — what an accepted schema satisfies.

`Expr.toBoolExpr` and `AuthorizationSchema.definitions` give a schema its
abstract reading: relations are base names, permissions are defined names.
-/

namespace KeyNetra

/-! ## Syntax -/

/-- A permission expression. -/
inductive Expr where
  | identifier (name : String)
  | not (value : Expr)
  | and (left right : Expr)
  | or (left right : Expr)
deriving DecidableEq, Repr

/-- A parsed schema. -/
structure AuthorizationSchema where
  version : Int
  types : List String := []
  relations : Assoc (List String) := []
  permissions : Assoc Expr := []
  raw : String := ""
deriving DecidableEq, Repr

/-- The identifiers of an expression, left to right. -/
def Expr.names : Expr → List String
  | .identifier name => [name]
  | .not value => value.names
  | .and left right | .or left right => left.names ++ right.names

/-! ## Validation -/

/-- `_validate_expr`: every identifier is a relation or a permission. -/
def validateExpr (schema : AuthorizationSchema) : Expr → Except PyError Unit
  | .identifier name =>
      if !schema.relations.contains name && !schema.permissions.contains name then
        .error (.valueError s!"unknown relation or permission {name}")
      else .ok ()
  | .not value => validateExpr schema value
  | .and left right | .or left right => do
      validateExpr schema left
      validateExpr schema right

/-- The check of one declared relation. -/
def validateRelation (schema : AuthorizationSchema) :
    String × List String → Except PyError Unit
  | (relation, subjects) =>
      if relation = "" then .error (.valueError "relation names must be non-empty")
      else subjects.forM fun subject =>
        if subject ∉ schema.types then
          .error (.valueError s!"relation {relation} references unknown type {subject}")
        else .ok ()

/-- The check of one permission. -/
def validatePermission (schema : AuthorizationSchema) : String × Expr → Except PyError Unit
  | (permission, expr) =>
      if permission = "" then .error (.valueError "permission names must be non-empty")
      else validateExpr schema expr

/-- `validate_authorization_schema`. -/
def validateAuthorizationSchema (schema : AuthorizationSchema) : Except PyError Unit :=
  if schema.version < 1 then .error (.valueError "schema version must be >= 1")
  else if schema.types = [] then .error (.valueError "schema must define at least one type")
  else if "user" ∉ schema.types then .error (.valueError "schema must define type user")
  else if schema.permissions.isEmpty then .error (.valueError "schema must define permissions")
  else do
    schema.relations.forM (validateRelation schema)
    schema.permissions.forM (validatePermission schema)

/-! ## Compilation -/

/-- A permission of a compiled model. -/
structure CompiledPermission where
  name : String
  expression : Expr
deriving DecidableEq, Repr

/-- The compiled form of a schema. -/
structure CompiledAuthorizationModel where
  version : Int
  types : List String
  relations : Assoc (List String)
  permissions : Assoc CompiledPermission
  raw : String
deriving DecidableEq, Repr

/-- `compile_authorization_schema` on a parsed schema. -/
def compileAuthorizationSchema (schema : AuthorizationSchema) :
    Except PyError CompiledAuthorizationModel := do
  validateAuthorizationSchema schema
  .ok
    { version := schema.version
      types := schema.types
      relations := schema.relations
      permissions := schema.permissions.map fun (name, expr) => (name, ⟨name, expr⟩)
      raw := schema.raw }

/-! ## The abstract reading -/

/-- A permission expression as a Boolean expression over names. -/
def Expr.toBoolExpr : Expr → Lib.BoolExpr String
  | .identifier name => .var name
  | .not value => .not value.toBoolExpr
  | .and left right => .and left.toBoolExpr right.toBoolExpr
  | .or left right => .or left.toBoolExpr right.toBoolExpr

theorem Expr.mem_vars_toBoolExpr {e : Expr} {name : String} :
    name ∈ e.toBoolExpr.vars ↔ name ∈ e.names := by
  induction e with
  | identifier n => simp [toBoolExpr, Lib.BoolExpr.vars, names]
  | not value ih => simpa [toBoolExpr, Lib.BoolExpr.vars, names] using ih
  | and left right ihl ihr => simp [toBoolExpr, Lib.BoolExpr.vars, names, ihl, ihr]
  | or left right ihl ihr => simp [toBoolExpr, Lib.BoolExpr.vars, names, ihl, ihr]

/-- The relations a schema declares. -/
def AuthorizationSchema.declared (schema : AuthorizationSchema) : Set String :=
  {name | schema.relations.contains name = true}

/-- A schema as definitions: the declared relations are base names, the
permissions are defined by their expressions. -/
def AuthorizationSchema.definitions (schema : AuthorizationSchema) : Lib.Definitions String where
  base := schema.declared
  body name := (schema.permissions.get? name).map Expr.toBoolExpr

theorem AuthorizationSchema.finite_defined (schema : AuthorizationSchema) :
    {name | (schema.definitions.body name).isSome}.Finite := by
  refine Set.Finite.subset (schema.permissions.map Prod.fst).toFinset.finite_toSet ?_
  intro name hname
  obtain ⟨e, he⟩ := Option.isSome_iff_exists.mp hname
  obtain ⟨expr, hexpr, -⟩ := Option.map_eq_some_iff.mp he
  rw [List.coe_toFinset]
  exact List.mem_map.mpr ⟨(name, expr), Assoc.mem_of_get? hexpr, rfl⟩

/-- The permission references of the schema form no cycle. -/
def AuthorizationSchema.Acyclic (schema : AuthorizationSchema) : Prop :=
  schema.definitions.Acyclic

theorem AuthorizationSchema.Acyclic.wellFounded {schema : AuthorizationSchema}
    (h : schema.Acyclic) : WellFounded fun y x => schema.definitions.Refers x y :=
  schema.definitions.wellFounded_refers schema.finite_defined h

/-! ## What an accepted schema satisfies -/

theorem validateExpr_ok_iff {schema : AuthorizationSchema} {e : Expr} :
    validateExpr schema e = .ok () ↔
      ∀ name ∈ e.names, schema.relations.contains name ∨ schema.permissions.contains name := by
  induction e with
  | identifier name =>
      simp only [validateExpr, Expr.names, List.mem_singleton, forall_eq]
      split
      · rename_i h
        simp_all
      · rename_i h
        rw [Bool.and_eq_true, Bool.not_eq_true', Bool.not_eq_true', not_and] at h
        cases hr : schema.relations.contains name with
        | true => simp
        | false => simpa using h hr
  | not value ih => exact ih
  | and left right ihl ihr | or left right ihl ihr =>
      simp only [validateExpr, Expr.names, List.mem_append, or_imp, forall_and, ← ihl, ← ihr]
      exact Lib.seq_eq_ok

/-- What the validator accepts. -/
structure AuthorizationSchema.Valid (schema : AuthorizationSchema) : Prop where
  version : 1 ≤ schema.version
  user : "user" ∈ schema.types
  permissions : schema.permissions ≠ []
  relations : ∀ item ∈ schema.relations, item.1 ≠ "" ∧ ∀ subject ∈ item.2, subject ∈ schema.types
  names : ∀ item ∈ schema.permissions, item.1 ≠ "" ∧
    ∀ name ∈ item.2.names, schema.relations.contains name ∨ schema.permissions.contains name

theorem validateRelation_ok_iff {schema : AuthorizationSchema} {item : String × List String} :
    validateRelation schema item = .ok () ↔
      item.1 ≠ "" ∧ ∀ subject ∈ item.2, subject ∈ schema.types := by
  obtain ⟨relation, subjects⟩ := item
  simp only [validateRelation]
  split
  · rename_i h
    simp [h]
  · rename_i h
    rw [Lib.forM_eq_ok_iff]
    simp [h]

theorem validatePermission_ok_iff {schema : AuthorizationSchema} {item : String × Expr} :
    validatePermission schema item = .ok () ↔
      item.1 ≠ "" ∧ ∀ name ∈ item.2.names,
        schema.relations.contains name ∨ schema.permissions.contains name := by
  obtain ⟨permission, expr⟩ := item
  simp only [validatePermission]
  split
  · rename_i h
    simp [h]
  · rename_i h
    rw [validateExpr_ok_iff]
    simp [h]

/-- The validator accepts exactly the valid schemas. -/
theorem validate_ok_iff {schema : AuthorizationSchema} :
    validateAuthorizationSchema schema = .ok () ↔ schema.Valid := by
  have hloop : (do
      schema.relations.forM (validateRelation schema)
      schema.permissions.forM (validatePermission schema)) = .ok () ↔
      (∀ item ∈ schema.relations, item.1 ≠ "" ∧ ∀ subject ∈ item.2, subject ∈ schema.types) ∧
      (∀ item ∈ schema.permissions, item.1 ≠ "" ∧ ∀ name ∈ item.2.names,
        schema.relations.contains name ∨ schema.permissions.contains name) := by
    simp only [← validateRelation_ok_iff, ← validatePermission_ok_iff, ← Lib.forM_eq_ok_iff]
    exact Lib.seq_eq_ok
  unfold validateAuthorizationSchema
  constructor
  · intro h
    split_ifs at h with h1 h2 h3 h4
    have ⟨hr, hp⟩ := hloop.mp h
    exact ⟨Int.not_lt.mp h1, h3, by simpa using h4, hr, hp⟩
  · intro h
    have htypes : schema.types ≠ [] := List.ne_nil_of_mem h.user
    rw [if_neg (Int.not_lt.mpr h.version), if_neg htypes, if_neg (not_not.mpr h.user),
      if_neg (by simpa using h.permissions)]
    exact hloop.mpr ⟨h.relations, h.names⟩

/-- A compiled model exists exactly for valid schemas. -/
theorem compile_ok_iff {schema : AuthorizationSchema} {model : CompiledAuthorizationModel} :
    compileAuthorizationSchema schema = .ok model ↔
      schema.Valid ∧ model = ⟨schema.version, schema.types, schema.relations,
        schema.permissions.map fun (name, expr) => (name, ⟨name, expr⟩), schema.raw⟩ := by
  rw [← validate_ok_iff]
  unfold compileAuthorizationSchema
  rw [Lib.seq_eq_ok, Except.ok.injEq, eq_comm (a := model)]

/-- A compiled model looks a permission up as the schema does. -/
theorem compile_permissions {schema : AuthorizationSchema} {model : CompiledAuthorizationModel}
    (h : compileAuthorizationSchema schema = .ok model) (name : String) :
    model.permissions.get? name =
      (schema.permissions.get? name).map fun expr => ⟨name, expr⟩ := by
  obtain ⟨-, rfl⟩ := compile_ok_iff.mp h
  induction schema.permissions with
  | nil => rfl
  | cons item rest ih =>
      obtain ⟨k, e⟩ := item
      by_cases hk : k = name
      · simp [hk]
      · simpa [hk] using ih

end KeyNetra
