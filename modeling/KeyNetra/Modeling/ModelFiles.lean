import KeyNetra.Modeling.PermissionText
import KeyNetra.Repo.Tables
import Mathlib.Data.List.TakeWhile

/-!
# KeyNetra.Modeling.ModelFiles — models given as a mapping

A model file may hold a mapping with a type, relations and permissions. The loader writes it
out as schema text, which the schema parser then reads.

* `modelMappingToSchema` — the loader's emitter;
* `ModelMapping` / `WrittenAs` — what a mapping says, and in which form;
* `survives_iff` — the parser reads the emitted text back as the mapping, exactly when no
  permission is called `type`: the line of such a permission is taken for the line of a type.
-/

namespace KeyNetra

/-! ## The emitter -/

section Emitter

variable [PyRuntime]

/-- The subjects of a relation, `invalid relation subjects` for other values. -/
def relationSubjects (name : String) : Value → Except PyError (List String)
  | .str subject => .ok [subject]
  | .list subjects => .ok ((subjects.filter Value.truthy).map Value.text)
  | _ => .error (.valueError s!"invalid relation subjects for {name}")

/-- The types that a relation's subjects add. -/
def relationTypes : Value → List String
  | .str subject => [subject]
  | .list subjects => (subjects.filter Value.truthy).map Value.text
  | _ => []

/-- `f"{name}: [{', '.join(subject_list)}]"` -/
def relationLine (name : String) (subjects : List String) : String :=
  let subjectList := ", ".intercalate subjects
  s!"{name}: [{subjectList}]"

/-- `f"{name} = {expr}"` -/
def permissionLine (name expr : String) : String := s!"{name} = {expr}"

/-- `f"type {type_name}"` -/
def typeLine (name : String) : String := s!"type {name}"

/-- `_model_mapping_to_schema`. -/
def modelMappingToSchema (payload : Dict) : Except PyError String := do
  match Dict.getD payload "model" (.dict payload) with
  | .dict model =>
      let version ← (Dict.getD model "schema_version" (Dict.getD model "version" (.int 1))).toInt
      let stripped := pyStrip (Dict.getD model "type" (.str "resource")).text
      let objectType := if stripped = "" then "resource" else stripped
      match (Dict.get model "relations").pyOr (.dict []),
          (Dict.get model "permissions").pyOr (.dict []) with
      | .dict relations, .dict permissions => do
          let types := sortedSet
            ("user" :: objectType :: relations.flatMap fun (_, subjects) => relationTypes subjects)
          let relationLines ← relations.mapM fun (name, subjects) =>
            (relationSubjects name subjects).map (relationLine name)
          .ok ("\n".intercalate (s!"model schema {version}" :: (types.map typeLine ++
            "relations" :: (relationLines ++
              "permissions" :: permissions.map fun (name, expr) => permissionLine name expr.text))))
      | _, _ => .error (.valueError "relations and permissions must be objects")
  | _ => .error (.valueError "model must be an object")

end Emitter

/-! ## What a mapping says -/

/-- A model, as its file says it. -/
structure ModelMapping where
  version : Int
  type : String
  relations : Assoc (List String)
  permissions : Assoc String

/-- A word without spaces and without the characters of the schema language: every word over
letters, digits, `_` and `-` is one. -/
structure IsModelName (name : String) : Prop where
  nonempty : name.toList ≠ []
  plain : ∀ c ∈ name.toList, isPySpace c = false ∧ c ∉ ['#', ':', '=', '[', ']', ',']

/-- A text on one line that `_parse_permission` accepts behind a name and `=`. -/
structure IsPermissionText (text : String) : Prop where
  single_line : ∀ c ∈ text.toList, isLineBreak c = false
  accepted : ∃ e, parsePermission ("p = ".toList ++ text.toList) = .ok ("p", e)

/-- What is asked of a mapping. -/
structure ModelMapping.WellFormed (m : ModelMapping) : Prop where
  version : 0 < m.version
  type : IsModelName m.type
  relations : ∀ relation ∈ m.relations,
    IsModelName relation.1 ∧ relation.2 ≠ [] ∧ ∀ subject ∈ relation.2, IsModelName subject
  relation_keys : (m.relations.map Prod.fst).Nodup
  permissions : ∀ permission ∈ m.permissions,
    IsModelName permission.1 ∧ IsPermissionText permission.2
  permission_keys : (m.permissions.map Prod.fst).Nodup

/-- The payload is the mapping, or holds it under `model`; the version is under either of its
names; the subjects of a relation are a text or a list. -/
structure WrittenAs [PyRuntime] (m : ModelMapping) (payload model relations permissions : Dict) :
    Prop where
  model_eq : Dict.getD payload "model" (.dict payload) = .dict model
  version_eq :
    Dict.getD model "schema_version" (Dict.getD model "version" (.int 1)) = .int m.version
  type_eq : Dict.getD model "type" (.str "resource") = .str m.type
  relations_eq : (Dict.get model "relations").pyOr (.dict []) = .dict relations
  permissions_eq : (Dict.get model "permissions").pyOr (.dict []) = .dict permissions
  subjects_eq : (relations.map fun (name, subjects) => (name, relationSubjects name subjects)) =
    m.relations.map fun (name, subjects) => (name, .ok subjects)
  texts_eq : permissions = m.permissions.map fun (name, text) => (name, .str text)

/-- What a text is read as behind `p =`. -/
def parsedTexts (permissions : Assoc String) : Assoc (Except PyError (String × Expr)) :=
  permissions.map fun (name, text) => (name, parsePermission ("p = ".toList ++ text.toList))

/-- The permissions of a schema, as `parsedTexts` has them. -/
def parsedPermissions (permissions : Assoc Expr) : Assoc (Except PyError (String × Expr)) :=
  permissions.map fun (name, e) => (name, .ok ("p", e))

/-- The schema says what the mapping says. -/
structure ModelMapping.Survives (m : ModelMapping) (schema : AuthorizationSchema) : Prop where
  version : schema.version = m.version
  relations : schema.relations = m.relations
  permissions : parsedPermissions schema.permissions = parsedTexts m.permissions
  types : ∀ name, name ∈ schema.types ↔
    name = "user" ∨ name = m.type ∨ ∃ relation ∈ m.relations, name ∈ relation.2

/-! ## Permission texts -/

/-- The text, stripped, is read as the expression. -/
def Accepts (text : List Char) (e : Expr) : Prop :=
  text ≠ [] ∧ ∃ tokens, tokenize text = .ok tokens ∧ readExpr tokens = .ok (e, [])

theorem splitOnce_append {c : Char} {before : List Char} (h : c ∉ before) (after : List Char) :
    splitOnce c (before ++ c :: after) = some (before, after) := by
  have hbefore : ∀ d ∈ before, decide (d ≠ c) = true := by
    intro d hd
    rw [decide_eq_true_eq]
    rintro rfl
    exact h hd
  have htake : ((c :: after).takeWhile fun d => decide (d ≠ c)) = [] := by simp
  have hdrop : ((c :: after).dropWhile fun d => decide (d ≠ c)) = c :: after := by simp
  unfold splitOnce
  rw [List.span_eq_takeWhile_dropWhile, List.takeWhile_append_of_pos hbefore,
    List.dropWhile_append_of_pos hbefore, htake, hdrop, List.append_nil]

/-- What `_parse_permission` makes of a name, `=` and a text. -/
theorem parsePermission_ok_iff {name rhs : List Char} (hname : '=' ∉ name) {parsed : String}
    {e : Expr} : parsePermission (name ++ '=' :: rhs) = .ok (parsed, e) ↔
      stripChars name ≠ [] ∧ parsed = String.ofList (stripChars name) ∧
        Accepts (stripChars rhs) e := by
  unfold parsePermission Accepts
  rw [splitOnce_append hname]
  dsimp only
  by_cases hempty : stripChars name = [] ∨ stripChars rhs = []
  · rw [if_pos hempty]
    constructor
    · intro h
      cases h
    · intro ⟨hname, _, hrhs, _⟩
      exact absurd hempty (not_or.mpr ⟨hname, hrhs⟩)
  · rw [if_neg hempty]
    rw [not_or] at hempty
    -- the text has to be scanned, read, and read to its end
    rcases tokenize (stripChars rhs) with error | tokens
    · constructor
      · intro h
        cases h
      · rintro ⟨_, _, _, tokens, htokens, _⟩
        cases htokens
    · rw [Lib.ok_bind]
      change (readExpr tokens >>= _) = _ ↔ _
      rcases hread : readExpr tokens with error | ⟨e', rest⟩
      · constructor
        · intro h
          cases h
        · rintro ⟨_, _, _, tokens', htokens, hread'⟩
          rcases htokens with ⟨⟩
          rw [hread] at hread'
          cases hread'
      · rw [Lib.ok_bind]
        dsimp only
        split
        · -- tokens are left behind the expression
          rename_i hrest
          constructor
          · intro h
            cases h
          · rintro ⟨_, _, _, tokens', htokens, hread'⟩
            rcases htokens with ⟨⟩
            rw [hread] at hread'
            rcases hread' with ⟨⟩
            exact absurd rfl hrest
        · rename_i hrest
          rw [not_not] at hrest
          constructor
          · rintro ⟨⟩
            exact ⟨hempty.1, rfl, hempty.2, tokens, rfl, by rw [hread, hrest]⟩
          · rintro ⟨_, rfl, _, tokens', htokens, hread'⟩
            rcases htokens with ⟨⟩
            rw [hread] at hread'
            rcases hread' with ⟨⟩
            rfl

/-- An accepted text holds token characters and plain spaces only. -/
theorem Accepts.chars {text : List Char} {e : Expr} (h : Accepts text e) :
    ∀ c ∈ text, c = ' ' ∨ isTokenChar c = true := by
  rcases h with ⟨_, tokens, htokens, _⟩
  intro c hc
  by_cases hspace : c = ' '
  · exact .inl hspace
  · unfold tokenize at htokens
    dsimp only at htokens
    split at htokens
    · cases htokens
    · rename_i hsame
      rw [not_not] at hsame
      have hkept : c ∈ text.filter fun c => c ≠ ' ' :=
        List.mem_filter.mpr ⟨hc, decide_eq_true hspace⟩
      rw [← hsame] at hkept
      exact .inr (scanTokens_chars _ _ c (List.mem_filter.mp hkept).1)

theorem IsModelName.head {name : String} (h : IsModelName name) :
    ∀ c ∈ name.toList.head?, isPySpace c = false :=
  fun c hc => (h.plain c (List.mem_of_mem_head? hc)).1

theorem IsModelName.last {name : String} (h : IsModelName name) :
    ∀ c ∈ name.toList.getLast?, isPySpace c = false :=
  fun c hc => (h.plain c (List.mem_of_mem_getLast? hc)).1

/-- A name is stripped of the spaces around it. -/
theorem IsModelName.strip {name : String} (h : IsModelName name) {before after : List Char}
    (hbefore : ∀ c ∈ before, isPySpace c = true) (hafter : ∀ c ∈ after, isPySpace c = true) :
    stripChars (before ++ (name.toList ++ after)) = name.toList :=
  stripChars_pad hbefore hafter h.head h.last h.nonempty

theorem IsModelName.notMem {name : String} (h : IsModelName name) {c : Char}
    (hc : c ∈ ['#', ':', '=', '[', ']', ',']) : c ∉ name.toList :=
  fun hmem => (h.plain c hmem).2 hc

theorem stripChars_idem (cs : List Char) (hne : stripChars cs ≠ []) {before : List Char}
    (hbefore : ∀ c ∈ before, isPySpace c = true) :
    stripChars (before ++ stripChars cs) = stripChars cs := by
  have hnil : ∀ c ∈ ([] : List Char), isPySpace c = true := by decide
  have hpad := stripChars_pad hbefore hnil (stripChars_head cs) (stripChars_last cs) hne
  rw [List.append_nil] at hpad
  exact hpad

/-- The expression of an accepted text. -/
theorem accepts_of_parse {text : List Char} {e : Expr}
    (h : parsePermission ("p = ".toList ++ text) = .ok ("p", e)) : Accepts (stripChars text) e := by
  have hline : parsePermission (['p', ' '] ++ '=' :: ' ' :: text) = .ok ("p", e) := h
  have hname : '=' ∉ ['p', ' '] := by decide
  have haccepts : Accepts (stripChars (' ' :: text)) e :=
    ((parsePermission_ok_iff hname).mp hline).2.2
  exact haccepts

/-! ## Lines of the schema -/

/-- What the parser makes of a line: no comment, no spaces around it. -/
def cleanLine (line : List Char) : List Char := stripChars (line.takeWhile fun c => c ≠ '#')

theorem cleanLine_of_noComment {line : List Char} (h : '#' ∉ line) :
    cleanLine line = stripChars line := by
  have hall : ∀ c ∈ line, decide (c ≠ '#') = true := by
    intro c hc
    rw [decide_eq_true_eq]
    rintro rfl
    exact h hc
  unfold cleanLine
  rw [List.takeWhile_eq_self_iff.mpr hall]

/-- A line that is not blank at its ends and has no comment stays. -/
theorem cleanLine_eq {line : List Char} (hcomment : '#' ∉ line) (hne : line ≠ [])
    (hhead : ∀ c ∈ line.head?, isPySpace c = false)
    (hlast : ∀ c ∈ line.getLast?, isPySpace c = false) : cleanLine line = line := by
  have hnil : ∀ c ∈ ([] : List Char), isPySpace c = true := by decide
  have hpad := stripChars_pad hnil hnil hhead hlast hne
  rw [List.append_nil, List.nil_append] at hpad
  rw [cleanLine_of_noComment hcomment, hpad]

/-- The lines of a text that was joined from lines. -/
theorem schemaLines_join (line : String) (lines : List String)
    (h : ∀ line' ∈ line :: lines, ∀ c ∈ line'.toList, isLineBreak c = false) :
    schemaLines ("\n".intercalate (line :: lines)) =
      ((line :: lines).map fun line => cleanLine line.toList).filter fun line => line ≠ [] := by
  have hbreak : isLineBreak '\n' = true := by decide
  have hsep : "\n".toList = ['\n'] := by decide
  unfold schemaLines
  rw [Lib.splitOnP_intercalate hsep hbreak line lines h, List.map_map]
  rfl

/-- Line breaks are white space. -/
theorem isPySpace_of_break {c : Char} (h : isLineBreak c = true) : isPySpace c = true := by
  simp only [isLineBreak, Bool.or_eq_true, Bool.and_eq_true, decide_eq_true_eq, beq_iff_eq] at h
  simp only [isPySpace, Bool.or_eq_true, Bool.and_eq_true, decide_eq_true_eq, beq_iff_eq]
  omega

theorem not_break_of_not_space {c : Char} (h : isPySpace c = false) : isLineBreak c = false := by
  by_contra hbreak
  rw [Bool.not_eq_false] at hbreak
  rw [isPySpace_of_break hbreak] at h
  exact Bool.false_ne_true h.symm

/-- A character that is no lower-case letter comes from itself only. -/
theorem eq_of_toLower {c d : Char} (hd : d.isLower = false) (h : c.toLower = d) : c = d := by
  unfold Char.toLower at h
  split at h
  · rename_i hupper
    have hsum : (c.val + 32).toNat = d.val.toNat := congrArg (fun d => d.val.toNat) h
    have hlow : 65 ≤ c.val.toNat := hupper.1
    have hhigh : c.val.toNat ≤ 90 := hupper.2
    have hlower : d.isLower = true := by
      rw [UInt32.toNat_add] at hsum
      unfold Char.isLower
      simp only [Bool.and_eq_true, decide_eq_true_eq, UInt32.le_iff_toNat_le, ge_iff_le]
      change 97 ≤ d.val.toNat ∧ d.val.toNat ≤ 122
      change (c.val.toNat + 32) % 2 ^ 32 = d.val.toNat at hsum
      omega
    rw [hd] at hlower
    exact absurd hlower Bool.false_ne_true
  · exact h

theorem IsModelName.lower_notMem {name : String} (h : IsModelName name) :
    ' ' ∉ name.toList.map Char.toLower := by
  intro hmem
  have ⟨c, hc, hlower⟩ := List.mem_map.mp hmem
  rw [eq_of_toLower (by decide) hlower] at hc
  exact absurd (h.plain ' ' hc).1 (by decide)

theorem typeLine_toList (name : String) : (typeLine name).toList = "type ".toList ++ name.toList := by
  show ("type " ++ name).toList = _
  rw [String.toList_append]

theorem relationLine_toList (name : String) (subjects : List String) :
    (relationLine name subjects).toList =
      name.toList ++ ':' :: ' ' :: '[' :: ((", ".intercalate subjects).toList ++ [']']) := by
  show (((name ++ ": [") ++ ", ".intercalate subjects) ++ "]").toList = _
  rw [String.toList_append, String.toList_append, String.toList_append, List.append_assoc,
    List.append_assoc]
  rfl

theorem permissionLine_toList (name text : String) :
    (permissionLine name text).toList = name.toList ++ ' ' :: '=' :: ' ' :: text.toList := by
  show ((name ++ " = ") ++ text).toList = _
  rw [String.toList_append, String.toList_append, List.append_assoc]
  rfl

/-- A line with a `:` or a `=` is no section line. -/
theorem not_section {line : List Char} {c : Char} (hc : c ∈ [':', '=']) (hmem : c ∈ line) :
    line.map Char.toLower ≠ "relations".toList ∧ line.map Char.toLower ≠ "permissions".toList := by
  have hall : ∀ c ∈ [':', '='],
      c.toLower = c ∧ c ∉ "relations".toList ∧ c ∉ "permissions".toList := by decide
  have ⟨hlower, hrelations, hpermissions⟩ := hall c hc
  have hmem' : c ∈ line.map Char.toLower := List.mem_map.mpr ⟨c, hmem, hlower⟩
  constructor
  · intro hline
    exact hrelations (hline ▸ hmem')
  · intro hline
    exact hpermissions (hline ▸ hmem')

/-- A line that starts with a name and `:` does not start with `type` and a space. -/
theorem not_type_of_colon {name : String} (hname : IsModelName name) (rest : List Char) :
    ¬ "type ".toList.isPrefixOf ((name.toList ++ ':' :: rest).map Char.toLower) = true := by
  intro hstart
  rw [List.isPrefixOf_iff_prefix, List.map_append, List.map_cons] at hstart
  have hname' : name.toList.map Char.toLower ++ [':'] <+:
      name.toList.map Char.toLower ++ Char.toLower ':' :: rest.map Char.toLower := by
    rw [List.prefix_append_right_inj]
    exact ⟨_, rfl⟩
  rcases List.prefix_or_prefix_of_prefix hstart hname' with hin | hin
  · have hspace : ' ' ∈ name.toList.map Char.toLower ++ [':'] := hin.subset (by decide)
    rcases List.mem_append.mp hspace with hspace | hspace
    · exact hname.lower_notMem hspace
    · exact absurd hspace (by decide)
  · have hcolon : ':' ∈ "type ".toList := hin.subset (by simp)
    exact absurd hcolon (by decide)

/-- A line that starts with a name and a space is the line of a type when that name is `type`. -/
theorem type_of_space {name : String} (hname : IsModelName name) (rest : List Char) :
    "type ".toList.isPrefixOf ((name.toList ++ ' ' :: rest).map Char.toLower) = true ↔
      pyLower name = "type" := by
  have hword : ' ' ∉ "type".toList := by decide
  have hlower : pyLower name = "type" ↔ "type".toList = name.toList.map Char.toLower := by
    unfold pyLower
    rw [← String.toList_inj, String.toList_ofList]
    exact eq_comm
  rw [List.isPrefixOf_iff_prefix, List.map_append, List.map_cons, hlower]
  constructor
  · rintro ⟨more, hmore⟩
    have hsep : "type".toList ++ ' ' :: more =
      name.toList.map Char.toLower ++ ' ' :: rest.map Char.toLower := hmore
    exact ((Lib.append_sep_inj hword hname.lower_notMem).mp hsep).1
  · intro hsame
    rw [← hsame]
    exact ⟨rest.map Char.toLower, rfl⟩

/-! ## Reading each kind of line -/

section Lines

variable {schema : AuthorizationSchema} {part : SchemaSection} {rest : List (List Char)}

/-- A line that starts with `type` and a space, in any section. -/
theorem parse_asType {line : List Char}
    (hsection : line.map Char.toLower ≠ "relations".toList ∧
      line.map Char.toLower ≠ "permissions".toList)
    (htype : "type ".toList.isPrefixOf (line.map Char.toLower) = true) :
    parseSchemaLines schema part (line :: rest) =
      parseSchemaLines
        { schema with types := schema.types ++ [String.ofList (stripChars (line.drop 5))] } part
        rest := by
  rcases part with _ | _ | _
  · rw [parseSchemaLines, if_neg hsection.1, if_neg hsection.2, if_pos htype]
  · rw [parseSchemaLines, if_neg hsection.1, if_neg hsection.2, if_pos htype]
  · rw [parseSchemaLines, if_neg hsection.1, if_neg hsection.2, if_pos htype]

theorem IsModelName.strip_self {name : String} (h : IsModelName name) :
    stripChars name.toList = name.toList := by
  have hnil : ∀ c ∈ ([] : List Char), isPySpace c = true := by decide
  have hstrip := h.strip hnil hnil
  rw [List.append_nil, List.nil_append] at hstrip
  exact hstrip

theorem parse_typeLine {name : String} (hname : IsModelName name) :
    parseSchemaLines schema part ((typeLine name).toList :: rest) =
      parseSchemaLines { schema with types := schema.types ++ [name] } part rest := by
  have hsection : (typeLine name).toList.map Char.toLower ≠ "relations".toList ∧
      (typeLine name).toList.map Char.toLower ≠ "permissions".toList := by
    rw [typeLine_toList]
    constructor
    · intro h
      cases h
    · intro h
      cases h
  have htype : "type ".toList.isPrefixOf ((typeLine name).toList.map Char.toLower) = true := by
    rw [typeLine_toList, List.map_append, List.isPrefixOf_iff_prefix]
    exact ⟨_, rfl⟩
  have hdrop : (typeLine name).toList.drop 5 = name.toList := by
    rw [typeLine_toList]
    rfl
  rw [parse_asType hsection htype, hdrop, hname.strip_self, String.ofList_toList]

/-- The types of the schema, one a line. -/
theorem parse_types (names : List String) (hnames : ∀ name ∈ names, IsModelName name) :
    parseSchemaLines schema part (names.map (fun name => (typeLine name).toList) ++ rest) =
      parseSchemaLines { schema with types := schema.types ++ names } part rest := by
  induction names generalizing schema with
  | nil => rw [List.append_nil]; rfl
  | cons name names ih =>
      rw [List.map_cons, List.cons_append, parse_typeLine (hnames name List.mem_cons_self),
        ih fun name h => hnames name (List.mem_cons_of_mem _ h)]
      simp only [List.append_assoc, List.singleton_append]

/-- The subjects of a relation's line, with the space behind each comma. -/
theorem split_subjects {subject : String} {subjects : List String}
    (h : ∀ s ∈ subject :: subjects, IsModelName s) :
    ((", ".intercalate (subject :: subjects)).toList.splitOnP fun c => c = ',') =
      subject.toList :: subjects.map fun s => ' ' :: s.toList := by
  have hcomma : ∀ s ∈ subject :: subjects, ∀ c ∈ s.toList, decide (c = ',') = false := by
    intro s hs c hc
    rw [decide_eq_false_iff_not]
    rintro rfl
    exact (h s hs).notMem (by decide) hc
  induction subjects generalizing subject with
  | nil =>
      rw [String.intercalate_singleton]
      exact List.splitOnP_eq_singleton (hcomma subject List.mem_cons_self)
  | cons s subjects ih =>
      have hrest := ih (fun s hs => h s (List.mem_cons_of_mem _ hs))
        (fun s hs => hcomma s (List.mem_cons_of_mem _ hs))
      have hspace : ¬ decide (' ' = ',') = true := by decide
      rw [String.intercalate_cons_cons, String.toList_append, String.toList_append,
        List.append_assoc]
      show (subject.toList ++ ',' :: ' ' :: (", ".intercalate (s :: subjects)).toList).splitOnP _ = _
      rw [List.splitOnP_append_cons_of_forall_mem (hcomma subject List.mem_cons_self) ','
        (by decide), List.splitOnP_cons_eq_if_modifyHead, if_neg hspace, hrest]
      rfl

/-- The subjects of a relation's line come back. -/
theorem read_subjects {subjects : List String} (hne : subjects ≠ [])
    (h : ∀ s ∈ subjects, IsModelName s) :
    ((((", ".intercalate subjects).toList.splitOnP fun c => c = ',').map stripChars).filter
      fun item => item ≠ []) = subjects.map String.toList := by
  have hspace : ∀ c ∈ [' '], isPySpace c = true := by decide
  have hnil : ∀ c ∈ ([] : List Char), isPySpace c = true := by decide
  rcases subjects with _ | ⟨subject, subjects⟩
  · exact absurd rfl hne
  · -- behind a comma there is a space, which is stripped
    have hstrip : ∀ s ∈ subjects, stripChars (' ' :: s.toList) = s.toList := by
      intro s hs
      have hs' := (h s (List.mem_cons_of_mem _ hs)).strip hspace hnil
      rw [List.append_nil] at hs'
      exact hs'
    rw [split_subjects h, List.map_cons, List.map_map,
      (h subject List.mem_cons_self).strip_self, List.filter_eq_self.mpr]
    · rw [List.map_cons, List.cons.injEq]
      exact ⟨rfl, List.map_congr_left hstrip⟩
    · -- no subject is stripped to nothing
      intro item hitem
      rw [decide_eq_true_eq]
      rcases List.mem_cons.mp hitem with rfl | hitem
      · exact (h subject List.mem_cons_self).nonempty
      · have ⟨s, hs, hitem⟩ := List.mem_map.mp hitem
        rw [← hitem]
        show stripChars (' ' :: s.toList) ≠ []
        rw [hstrip s hs]
        exact (h s (List.mem_cons_of_mem _ hs)).nonempty

theorem parseRelation_line {name : String} {subjects : List String} (hname : IsModelName name)
    (hne : subjects ≠ []) (hsubjects : ∀ s ∈ subjects, IsModelName s) :
    parseRelation (relationLine name subjects).toList = .ok (name, subjects) := by
  have hspace : ∀ c ∈ [' '], isPySpace c = true := by decide
  have hnil : ∀ c ∈ ([] : List Char), isPySpace c = true := by decide
  have hcolon : ':' ∉ name.toList := hname.notMem (by decide)
  -- the brackets are the ends of what stands behind the colon
  have hbrackets : stripChars (' ' :: '[' :: ((", ".intercalate subjects).toList ++ [']'])) =
      '[' :: ((", ".intercalate subjects).toList ++ [']']) := by
    have hhead : ∀ c ∈ ('[' :: ((", ".intercalate subjects).toList ++ [']'])).head?,
        isPySpace c = false := by
      rintro c ⟨⟩
      decide
    have hlast : ∀ c ∈ ('[' :: ((", ".intercalate subjects).toList ++ [']'])).getLast?,
        isPySpace c = false := by
      rw [← List.cons_append, List.getLast?_append_of_ne_nil _ (by simp)]
      rintro c ⟨⟩
      decide
    have hpad := stripChars_pad hspace hnil hhead hlast (by simp)
    rw [List.append_nil] at hpad
    exact hpad
  have hends : ¬ (('[' :: ((", ".intercalate subjects).toList ++ [']'])).head? ≠ some '[' ∨
      ('[' :: ((", ".intercalate subjects).toList ++ [']'])).getLast? ≠ some ']') := by
    rw [not_or, not_not, not_not, ← List.cons_append,
      List.getLast?_append_of_ne_nil _ (by simp)]
    exact ⟨rfl, rfl⟩
  have hinner : (('[' :: ((", ".intercalate subjects).toList ++ [']'])).drop 1).dropLast =
      (", ".intercalate subjects).toList := by
    rw [List.drop_succ_cons, List.drop_zero, List.dropLast_concat]
  unfold parseRelation
  rw [relationLine_toList, splitOnce_append hcolon]
  dsimp only
  rw [hname.strip_self, hbrackets, if_neg hname.nonempty, if_neg hends, hinner,
    read_subjects hne hsubjects, if_neg (by simp [hne]), List.map_map, String.ofList_toList]
  simp

theorem parse_relationLine {name : String} {subjects : List String} (hname : IsModelName name)
    (hne : subjects ≠ []) (hsubjects : ∀ s ∈ subjects, IsModelName s) :
    parseSchemaLines schema .relations ((relationLine name subjects).toList :: rest) =
      parseSchemaLines { schema with relations := schema.relations.set name subjects } .relations
        rest := by
  have hcolon : ':' ∈ (relationLine name subjects).toList := by
    rw [relationLine_toList]
    simp
  have ⟨hrelations, hpermissions⟩ := not_section (by decide) hcolon
  have htype : ¬ "type ".toList.isPrefixOf
      ((relationLine name subjects).toList.map Char.toLower) = true := by
    rw [relationLine_toList]
    exact not_type_of_colon hname _
  rw [parseSchemaLines, if_neg hrelations, if_neg hpermissions, if_neg htype,
    parseRelation_line hname hne hsubjects, Lib.ok_bind]

theorem set_append {α : Type} {d : Assoc α} {key : String} (h : key ∉ d.map Prod.fst) (v : α) :
    d.set key v = d ++ [(key, v)] := by
  induction d with
  | nil => rfl
  | cons item d ih =>
      rw [List.map_cons, List.mem_cons, not_or] at h
      rw [Assoc.set, if_neg (Ne.symm h.1), ih h.2]
      rfl

/-- The relations of the schema, one a line. -/
theorem parse_relations (relations : Assoc (List String))
    (hrelations : ∀ relation ∈ relations,
      IsModelName relation.1 ∧ relation.2 ≠ [] ∧ ∀ s ∈ relation.2, IsModelName s)
    (hkeys : ((schema.relations ++ relations).map Prod.fst).Nodup) :
    parseSchemaLines schema .relations
        (relations.map (fun relation => (relationLine relation.1 relation.2).toList) ++ rest) =
      parseSchemaLines { schema with relations := schema.relations ++ relations } .relations
        rest := by
  induction relations generalizing schema with
  | nil => rw [List.append_nil]; rfl
  | cons relation relations ih =>
      have ⟨hname, hne, hsubjects⟩ := hrelations relation List.mem_cons_self
      have hfresh : relation.1 ∉ schema.relations.map Prod.fst := by
        rw [List.map_append, List.map_cons] at hkeys
        intro hmem
        exact (List.nodup_append.mp hkeys).2.2 _ hmem _ List.mem_cons_self rfl
      have hkeys' : ((schema.relations ++ [relation] ++ relations).map Prod.fst).Nodup := by
        rw [List.append_assoc, List.singleton_append]
        exact hkeys
      rw [List.map_cons, List.cons_append, parse_relationLine hname hne hsubjects,
        set_append hfresh, ih (fun relation h => hrelations relation (List.mem_cons_of_mem _ h))
          hkeys']
      simp only [List.append_assoc, List.singleton_append]

/-- The line of a permission without the spaces behind its text. -/
theorem clean_permissionLine {name text : String} (hname : IsModelName name)
    (htext : IsPermissionText text) :
    ∃ rhs, cleanLine (permissionLine name text).toList = name.toList ++ ' ' :: '=' :: rhs ∧
      stripChars rhs = stripChars text.toList := by
  rcases htext.accepted with ⟨e, haccepted⟩
  have haccepts := accepts_of_parse haccepted
  rcases stripChars_split text.toList with ⟨before, after, hbefore, hafter, hsplit⟩
  have hbefore' : ∀ c ∈ ' ' :: before, isPySpace c = true := by
    intro c hc
    rcases List.mem_cons.mp hc with rfl | hc
    · decide
    · exact hbefore c hc
  -- a text that is accepted has no comment in it
  have hcomment : '#' ∉ (permissionLine name text).toList := by
    rw [permissionLine_toList, hsplit]
    intro hmem
    simp only [List.mem_append, List.mem_cons] at hmem
    rcases hmem with hin | hin | hin | hin | hin | hin | hin
    · -- the name, the blanks and the equals sign, and the text
      exact hname.notMem (by decide) hin
    · exact absurd hin (by decide)
    · exact absurd hin (by decide)
    · exact absurd hin (by decide)
    · exact absurd (hbefore _ hin) (by decide)
    · rcases haccepts.chars _ hin with hspace | htoken
      · exact absurd hspace (by decide)
      · exact absurd htoken (by decide)
    · exact absurd (hafter _ hin) (by decide)
  refine ⟨' ' :: before ++ stripChars text.toList, ?_, ?_⟩
  · -- what is stripped from the line is the blanks after the text
    have hline : (permissionLine name text).toList =
        (name.toList ++ ' ' :: '=' :: (' ' :: before ++ stripChars text.toList)) ++ after := by
      rw [permissionLine_toList, List.append_assoc, List.cons_append, List.cons_append,
        List.append_assoc, List.cons_append, ← hsplit]
    have hkept : name.toList ++ ' ' :: '=' :: (' ' :: before ++ stripChars text.toList) =
        (name.toList ++ ' ' :: '=' :: ' ' :: before) ++ stripChars text.toList := by
      rw [List.append_assoc]
      rfl
    have hhead : ∀ c ∈ (name.toList ++
        ' ' :: '=' :: (' ' :: before ++ stripChars text.toList)).head?, isPySpace c = false := by
      rw [List.head?_append_of_ne_nil _ hname.nonempty]
      exact hname.head
    have hlast : ∀ c ∈ (name.toList ++
        ' ' :: '=' :: (' ' :: before ++ stripChars text.toList)).getLast?,
          isPySpace c = false := by
      rw [hkept, List.getLast?_append_of_ne_nil _ haccepts.1]
      exact stripChars_last _
    have hnil : ∀ c ∈ ([] : List Char), isPySpace c = true := by decide
    have hpad := stripChars_pad hnil hafter hhead hlast (by simp)
    rw [cleanLine_of_noComment hcomment, hline]
    exact hpad
  · exact stripChars_idem _ haccepts.1 hbefore'

/-- The line of a permission that is not called `type`. -/
theorem parse_permissionLine {name text : String} {e : Expr} (hname : IsModelName name)
    (htext : IsPermissionText text) (htype : pyLower name ≠ "type")
    (haccepts : Accepts (stripChars text.toList) e) :
    parseSchemaLines schema .permissions (cleanLine (permissionLine name text).toList :: rest) =
      parseSchemaLines { schema with permissions := schema.permissions.set name e } .permissions
        rest := by
  rcases clean_permissionLine hname htext with ⟨rhs, hline, hrhs⟩
  have hspace : ∀ c ∈ [' '], isPySpace c = true := by decide
  have hnil : ∀ c ∈ ([] : List Char), isPySpace c = true := by decide
  -- the first equals sign is the one behind the name
  have hequals : '=' ∉ name.toList ++ [' '] := by
    intro hmem
    rcases List.mem_append.mp hmem with hmem | hmem
    · exact hname.notMem (by decide) hmem
    · exact absurd hmem (by decide)
  have hstrip : stripChars (name.toList ++ [' ']) = name.toList := hname.strip hnil hspace
  have hparse : parsePermission (name.toList ++ ' ' :: '=' :: rhs) = .ok (name, e) := by
    rw [← List.singleton_append, ← List.append_assoc, parsePermission_ok_iff hequals, hstrip, hrhs,
      String.ofList_toList]
    exact ⟨hname.nonempty, rfl, haccepts⟩
  have hmem : '=' ∈ name.toList ++ ' ' :: '=' :: rhs := by simp
  -- the line is neither a section header nor a type
  have ⟨hrelations, hpermissions⟩ := not_section (by decide) hmem
  have htype' : ¬ "type ".toList.isPrefixOf
      ((name.toList ++ ' ' :: '=' :: rhs).map Char.toLower) = true := by
    rw [type_of_space hname]
    exact htype
  rw [hline, parseSchemaLines, if_neg hrelations, if_neg hpermissions, if_neg htype', hparse,
    Lib.ok_bind]

/-- The line of a permission called `type` adds a type. -/
theorem parse_typePermission {name text : String} (hname : IsModelName name)
    (htext : IsPermissionText text) (htype : pyLower name = "type") : ∃ added,
    parseSchemaLines schema .permissions (cleanLine (permissionLine name text).toList :: rest) =
      parseSchemaLines { schema with types := schema.types ++ [added] } .permissions rest := by
  rcases clean_permissionLine hname htext with ⟨rhs, hline, _⟩
  have hmem : '=' ∈ name.toList ++ ' ' :: '=' :: rhs := by simp
  rw [hline]
  exact ⟨_, parse_asType (not_section (by decide) hmem) ((type_of_space hname _).mpr htype)⟩

/-- The permissions that are not called `type`. -/
def keptPermissions (permissions : Assoc String) : Assoc String :=
  permissions.filter fun permission => pyLower permission.1 ≠ "type"

/-- What the lines of these permissions do to a schema. -/
structure AddsPermissions (listed : Assoc String) (schema schema' : AuthorizationSchema) :
    Prop where
  version : schema'.version = schema.version
  relations : schema'.relations = schema.relations
  permissions : parsedPermissions schema'.permissions =
    parsedPermissions schema.permissions ++ parsedTexts (keptPermissions listed)
  types : (∀ permission ∈ listed, pyLower permission.1 ≠ "type") → schema'.types = schema.types

/-- The lines of permissions, as the parser gets them. -/
def permissionLines (listed : Assoc String) : List (List Char) :=
  listed.map fun permission => cleanLine (permissionLine permission.1 permission.2).toList

/-- The permissions of the schema, one a line. -/
theorem parse_permissions (listed : Assoc String)
    (hlisted : ∀ permission ∈ listed, IsModelName permission.1 ∧ IsPermissionText permission.2)
    (hkeys : (schema.permissions.map Prod.fst ++ listed.map Prod.fst).Nodup) :
    ∃ schema', parseSchemaLines schema .permissions (permissionLines listed) = .ok schema' ∧
      AddsPermissions listed schema schema' := by
  induction listed generalizing schema with
  | nil => exact ⟨schema, rfl, rfl, rfl, (List.append_nil _).symm, fun _ => rfl⟩
  | cons permission listed ih =>
      have ⟨hname, htext⟩ := hlisted permission List.mem_cons_self
      have hlater : ∀ permission ∈ listed,
          IsModelName permission.1 ∧ IsPermissionText permission.2 :=
        fun permission h => hlisted permission (List.mem_cons_of_mem _ h)
      rw [List.map_cons] at hkeys
      by_cases htype : pyLower permission.1 = "type"
      · -- the line adds a type, and no permission
        rcases parse_typePermission hname htext htype with ⟨added, hline⟩
        have hkeys' : (schema.permissions.map Prod.fst ++ listed.map Prod.fst).Nodup :=
          hkeys.sublist ((List.sublist_cons_self _ _).append_left _)
        have ⟨schema', hparse, hadds⟩ :=
          @ih { schema with types := schema.types ++ [added] } hlater hkeys'
        have hkept : keptPermissions (permission :: listed) = keptPermissions listed :=
          List.filter_cons_of_neg (by simp [htype])
        refine ⟨schema', hline.trans hparse, hadds.version, hadds.relations, ?_, ?_⟩
        · rw [hkept]
          exact hadds.permissions
        · intro hnone
          exact absurd htype (hnone permission List.mem_cons_self)
      · -- the line adds the permission behind those before it
        rcases htext.accepted with ⟨e, haccepted⟩
        have hline := @parse_permissionLine schema (permissionLines listed) _ _ _ hname htext htype
          (accepts_of_parse haccepted)
        have hfresh : permission.1 ∉ schema.permissions.map Prod.fst := by
          intro hmem
          exact (List.nodup_append.mp hkeys).2.2 _ hmem _ List.mem_cons_self rfl
        have hkeys' : ((schema.permissions ++ [(permission.1, e)]).map Prod.fst ++
            listed.map Prod.fst).Nodup := by
          rw [List.map_append, List.append_assoc]
          exact hkeys
        have ⟨schema', hparse, hadds⟩ := @ih
          { schema with permissions := schema.permissions ++ [(permission.1, e)] } hlater hkeys'
        have hkept : keptPermissions (permission :: listed) =
            permission :: keptPermissions listed := List.filter_cons_of_pos (by simp [htype])
        rw [set_append hfresh] at hline
        refine ⟨schema', hline.trans hparse, hadds.version, hadds.relations, ?_, ?_⟩
        · have hhead : parsedTexts (permission :: keptPermissions listed) =
              (permission.1, .ok ("p", e)) :: parsedTexts (keptPermissions listed) := by
            rw [← haccepted]
            rfl
          rw [hkept, hhead, hadds.permissions, parsedPermissions, List.map_append,
            List.append_assoc]
          rfl
        · intro hnone
          exact hadds.types fun permission h => hnone permission (List.mem_cons_of_mem _ h)

end Lines

/-! ## The header -/

section Header

variable [PyRuntime]

/-- `\d` and `int` know the ASCII digits. -/
def ReadsDigits : Prop :=
  ∀ c : Char, c.isDigit = true → PyRuntime.decimal c = some (c.toNat - '0'.toNat)

theorem digitsValue_eq (hdigits : ReadsDigits) {digits : List Char}
    (h : ∀ c ∈ digits, c.isDigit = true) (value : Nat) :
    digits.foldlM (fun (value : Int) c =>
        (PyRuntime.decimal c).map fun d => 10 * value + d) (value : Int) =
      some (Nat.ofDigitChars 10 digits value : Int) := by
  induction digits generalizing value with
  | nil =>
      rw [Nat.ofDigitChars_nil]
      rfl
  | cons c digits ih =>
      have hrest := ih (fun c hc => h c (List.mem_cons_of_mem _ hc))
        (10 * value + (c.toNat - '0'.toNat))
      rw [List.foldlM_cons, hdigits c (h c List.mem_cons_self), Nat.ofDigitChars_cons, ← hrest]
      push_cast
      rfl

omit [PyRuntime] in
theorem not_space_of_digit {c : Char} (h : c.isDigit = true) : isPySpace c = false := by
  apply not_space_of_tokenChar
  apply isTokenChar_of_name
  unfold isNameChar Char.isAlphanum
  rw [h, Bool.or_true, Bool.true_or, Bool.true_or, Bool.true_or]

/-- A header with digits behind its two words. -/
theorem matchHeader_digits {digits : List Char} (h : ∀ c ∈ digits, c.isDigit = true)
    (hne : digits ≠ []) : matchHeader ("model schema ".toList ++ digits) = digitsValue digits := by
  have hhead : ∀ c ∈ digits.head?, isPySpace c = false :=
    fun c hc => not_space_of_digit (h c (List.mem_of_mem_head? hc))
  have hmodel : matchWord "model".toList ("model schema ".toList ++ digits) =
      some (" schema ".toList ++ digits) := rfl
  have hspace : matchSpaces (" schema ".toList ++ digits) =
      some ("schema ".toList ++ digits) := rfl
  have hschema : matchWord "schema".toList ("schema ".toList ++ digits) =
      some (' ' :: digits) := rfl
  have hdigits : matchSpaces (' ' :: digits) = some digits := by
    show some (digits.dropWhile isPySpace) = _
    rw [dropWhile_of_head hhead]
  unfold matchHeader
  rw [hmodel, Option.bind_eq_bind, Option.bind_some, hspace]
  simp only [Option.bind_some]
  rw [hschema, Option.bind_some, hdigits, Option.bind_some, if_neg hne]

theorem matchHeader_version (hdigits : ReadsDigits) {version : Int} (hpos : 0 < version) :
    matchHeader ("model schema ".toList ++ (toString version).toList) = some version := by
  rcases version with n | n
  · have htext : (toString (Int.ofNat n)).toList = Nat.toDigits 10 n := Nat.toList_repr
    have hall : ∀ c ∈ Nat.toDigits 10 n, c.isDigit = true := by
      intro c hc
      exact Nat.isDigit_of_mem_toDigits (by decide) (by decide) hc
    rw [htext, matchHeader_digits hall (Nat.toDigits_ne_nil)]
    have hvalue := digitsValue_eq hdigits hall 0
    rw [Nat.ofDigitChars_ten_toDigits] at hvalue
    exact hvalue
  · exact absurd hpos (by omega)

end Header

/-! ## The whole text -/

section Whole

variable [PyRuntime]

/-- The types of a mapping, as they are listed. -/
def ModelMapping.types (m : ModelMapping) : List String :=
  sortedSet ("user" :: m.type :: m.relations.flatMap Prod.snd)

/-- The lines that the emitter writes behind the header. -/
def ModelMapping.lines (m : ModelMapping) : List String :=
  m.types.map typeLine ++ "relations" ::
    (m.relations.map (fun relation => relationLine relation.1 relation.2) ++
      "permissions" :: m.permissions.map fun permission => permissionLine permission.1 permission.2)

theorem relationTypes_eq {name : String} {value : Value} {subjects : List String}
    (h : relationSubjects name value = .ok subjects) : relationTypes value = subjects := by
  rcases value with _ | b | n | x | s | items | d
  · cases h
  · cases h
  · cases h
  · cases h
  · rcases h with ⟨⟩
    rfl
  · rcases h with ⟨⟩
    rfl
  · cases h

/-- What the emitter makes of relations that list these subjects. -/
theorem relations_written {relations : Dict} {listed : Assoc (List String)}
    (h : (relations.map fun (name, value) => (name, relationSubjects name value)) =
      listed.map fun (name, subjects) => (name, .ok subjects)) :
    (relations.flatMap fun (_, value) => relationTypes value) = listed.flatMap Prod.snd ∧
    (relations.mapM fun (name, value) => (relationSubjects name value).map (relationLine name)) =
      .ok (listed.map fun relation => relationLine relation.1 relation.2) := by
  induction relations generalizing listed with
  | nil =>
      have hlisted : listed = [] := List.map_eq_nil_iff.mp h.symm
      rw [hlisted]
      exact ⟨rfl, rfl⟩
  | cons item relations ih =>
      rcases item with ⟨name, value⟩
      -- the two lists go together, entry by entry
      rcases listed with _ | ⟨⟨listedName, subjects⟩, listed⟩
      · cases h
      · rw [List.map_cons, List.map_cons, List.cons.injEq, Prod.mk.injEq] at h
        rcases h with ⟨⟨rfl, hsubjects⟩, hrest⟩
        have ⟨htypes, hlines⟩ := ih hrest
        constructor
        · rw [List.flatMap_cons, List.flatMap_cons, htypes]
          dsimp only
          rw [relationTypes_eq hsubjects]
        · rw [List.mapM_cons, hlines]
          dsimp only
          rw [hsubjects]
          rfl

theorem emitted {m : ModelMapping} {payload model relations permissions : Dict}
    (htype : IsModelName m.type) (h : WrittenAs m payload model relations permissions) :
    modelMappingToSchema payload =
      .ok ("\n".intercalate (("model schema " ++ toString m.version) :: m.lines)) := by
  have ⟨htypes, hlines⟩ := relations_written h.subjects_eq
  -- the texts that are joined are those of the mapping
  have hstrip : pyStrip m.type = m.type := by
    show String.ofList (stripChars m.type.toList) = _
    rw [htype.strip_self, String.ofList_toList]
  have hne : m.type ≠ "" := by
    intro hempty
    exact htype.nonempty (by rw [hempty]; rfl)
  have htexts : (permissions.map fun (name, expr) => permissionLine name expr.text) =
      m.permissions.map fun permission => permissionLine permission.1 permission.2 := by
    rw [h.texts_eq, List.map_map]
    rfl
  unfold modelMappingToSchema
  rw [h.model_eq]
  dsimp only
  rw [h.version_eq, h.type_eq, h.relations_eq, h.permissions_eq, Value.text_str, hstrip,
    if_neg hne]
  show (do
    let relationLines ← relations.mapM fun (name, value) =>
      (relationSubjects name value).map (relationLine name)
    _) = _
  rw [hlines, Lib.ok_bind, htypes, htexts]
  rfl

omit [PyRuntime]

/-- A character that starts no comment and breaks no line. -/
def IsPlain (c : Char) : Prop := c ≠ '#' ∧ isLineBreak c = false

theorem IsModelName.isPlain {name : String} (h : IsModelName name) :
    ∀ c ∈ name.toList, IsPlain c := by
  intro c hc
  refine ⟨?_, not_break_of_not_space (h.plain c hc).1⟩
  rintro rfl
  exact h.notMem (by decide) hc

theorem isPlain_of_append {cs cs' : List Char} (h : ∀ c ∈ cs, IsPlain c)
    (h' : ∀ c ∈ cs', IsPlain c) : ∀ c ∈ cs ++ cs', IsPlain c := by
  intro c hc
  rcases List.mem_append.mp hc with hc | hc
  · exact h c hc
  · exact h' c hc

/-- The characters the emitter adds. -/
theorem isPlain_added {cs : List Char}
    (h : ∀ c ∈ cs, c ∈ "model schema type relations permissions ,:[]=".toList) :
    ∀ c ∈ cs, IsPlain c := by
  have hall : ∀ c ∈ "model schema type relations permissions ,:[]=".toList,
      c ≠ '#' ∧ isLineBreak c = false := by decide
  exact fun c hc => hall c (h c hc)

theorem isPlain_typeLine {name : String} (h : IsModelName name) :
    ∀ c ∈ (typeLine name).toList, IsPlain c := by
  rw [typeLine_toList]
  exact isPlain_of_append (isPlain_added (by decide)) h.isPlain

theorem isPlain_subjects {subjects : List String} (h : ∀ s ∈ subjects, IsModelName s) :
    ∀ c ∈ (", ".intercalate subjects).toList, IsPlain c := by
  induction subjects with
  | nil =>
      intro c hc
      cases hc
  | cons s subjects ih =>
      have hs := (h s List.mem_cons_self).isPlain
      have hrest := ih fun s hs => h s (List.mem_cons_of_mem _ hs)
      rcases subjects with _ | ⟨s', subjects⟩
      · rw [String.intercalate_singleton]
        exact hs
      · rw [String.intercalate_cons_cons, String.toList_append, String.toList_append]
        exact isPlain_of_append (isPlain_of_append hs (isPlain_added (by decide))) hrest

theorem isPlain_relationLine {name : String} {subjects : List String} (hname : IsModelName name)
    (hsubjects : ∀ s ∈ subjects, IsModelName s) :
    ∀ c ∈ (relationLine name subjects).toList, IsPlain c := by
  have hopen : ∀ c ∈ [':', ' ', '['], IsPlain c := isPlain_added (by decide)
  have hclose : ∀ c ∈ [']'], IsPlain c := isPlain_added (by decide)
  rw [relationLine_toList]
  exact isPlain_of_append hname.isPlain
    (isPlain_of_append hopen (isPlain_of_append (isPlain_subjects hsubjects) hclose))

/-- A line that starts and ends with a character that is no space stays. -/
theorem clean_plain {line : List Char} (h : ∀ c ∈ line, IsPlain c) (hne : line ≠ [])
    (hhead : ∀ c ∈ line.head?, isPySpace c = false)
    (hlast : ∀ c ∈ line.getLast?, isPySpace c = false) : cleanLine line = line :=
  cleanLine_eq (fun hmem => (h '#' hmem).1 rfl) hne hhead hlast

theorem clean_typeLine {name : String} (h : IsModelName name) :
    cleanLine (typeLine name).toList = (typeLine name).toList := by
  apply clean_plain (isPlain_typeLine h)
  · rw [typeLine_toList]
    simp
  · rw [typeLine_toList]
    rintro c ⟨⟩
    decide
  · rw [typeLine_toList, List.getLast?_append_of_ne_nil _ h.nonempty]
    exact h.last

theorem clean_relationLine {name : String} {subjects : List String} (hname : IsModelName name)
    (hsubjects : ∀ s ∈ subjects, IsModelName s) :
    cleanLine (relationLine name subjects).toList = (relationLine name subjects).toList := by
  have hend : (relationLine name subjects).toList =
      (name.toList ++ ':' :: ' ' :: '[' :: (", ".intercalate subjects).toList) ++ [']'] := by
    rw [relationLine_toList, List.append_assoc]
    rfl
  apply clean_plain (isPlain_relationLine hname hsubjects)
  · rw [relationLine_toList]
    simp
  · rw [relationLine_toList, List.head?_append_of_ne_nil _ hname.nonempty]
    exact hname.head
  · rw [hend, List.getLast?_append_of_ne_nil _ (by simp)]
    rintro c ⟨⟩
    decide

/-- The lines behind the header, as the parser gets them. -/
def ModelMapping.cleanLines (m : ModelMapping) : List (List Char) :=
  m.types.map (fun name => (typeLine name).toList) ++ "relations".toList ::
    (m.relations.map (fun relation => (relationLine relation.1 relation.2).toList) ++
      "permissions".toList :: permissionLines m.permissions)

theorem ModelMapping.WellFormed.types {m : ModelMapping} (hm : m.WellFormed) :
    ∀ name ∈ m.types, IsModelName name := by
  intro name hname
  rw [ModelMapping.types, mem_sortedSet, List.mem_cons, List.mem_cons] at hname
  rcases hname with rfl | rfl | hsubject
  · exact ⟨by decide, by decide⟩
  · exact hm.type
  · have ⟨relation, hrelation, hmem⟩ := List.mem_flatMap.mp hsubject
    exact (hm.relations relation hrelation).2.2 name hmem

theorem clean_lines {m : ModelMapping} (hm : m.WellFormed) :
    m.lines.map (fun line => cleanLine line.toList) = m.cleanLines := by
  have hkeywords : cleanLine "relations".toList = "relations".toList ∧
      cleanLine "permissions".toList = "permissions".toList := by decide
  unfold ModelMapping.lines ModelMapping.cleanLines permissionLines
  rw [List.map_append, List.map_cons, List.map_append, List.map_cons, List.map_map, List.map_map,
    List.map_map, hkeywords.1, hkeywords.2]
  congr 1
  · apply List.map_congr_left
    intro name hname
    exact clean_typeLine (hm.types name hname)
  · congr 2
    apply List.map_congr_left
    intro relation hrelation
    have ⟨hname, _, hsubjects⟩ := hm.relations relation hrelation
    exact clean_relationLine hname hsubjects

theorem cleanLines_ne {m : ModelMapping} (hm : m.WellFormed) : ∀ line ∈ m.cleanLines, line ≠ [] := by
  intro line hline
  simp only [ModelMapping.cleanLines, permissionLines, List.mem_append, List.mem_cons,
    List.mem_map] at hline
  rcases hline with ⟨name, _, rfl⟩ | rfl | ⟨relation, _, rfl⟩ | rfl | ⟨permission, hmem, rfl⟩
  · rw [typeLine_toList]
    simp
  · decide
  · rw [relationLine_toList]
    simp
  · decide
  · have ⟨hname, htext⟩ := hm.permissions permission hmem
    rcases clean_permissionLine hname htext with ⟨rhs, hclean, _⟩
    rw [hclean]
    simp

theorem lines_unbroken {m : ModelMapping} (hm : m.WellFormed) :
    ∀ line ∈ m.lines, ∀ c ∈ line.toList, isLineBreak c = false := by
  intro line hline
  simp only [ModelMapping.lines, List.mem_append, List.mem_cons, List.mem_map] at hline
  rcases hline with ⟨name, hmem, rfl⟩ | rfl | ⟨relation, hmem, rfl⟩ | rfl |
    ⟨permission, hmem, rfl⟩
  · -- a type line
    exact fun c hc => (isPlain_typeLine (hm.types name hmem) c hc).2
  · -- the header of the relations
    decide
  · -- a relation line
    have ⟨hname, _, hsubjects⟩ := hm.relations relation hmem
    exact fun c hc => (isPlain_relationLine hname hsubjects c hc).2
  · -- the header of the permissions
    decide
  · -- a permission line, whose text is a single line
    have ⟨hname, htext⟩ := hm.permissions permission hmem
    have hadded : ∀ c ∈ [' ', '=', ' '], IsPlain c := isPlain_added (by decide)
    intro c hc
    rw [permissionLine_toList] at hc
    rcases List.mem_append.mp hc with hc | hc
    · exact (hname.isPlain c hc).2
    · have hc' : c ∈ [' ', '=', ' '] ++ permission.2.toList := hc
      rcases List.mem_append.mp hc' with hc | hc
      · exact (hadded c hc).2
      · exact htext.single_line c hc

/-- The lines of a mapping, from a schema that has nothing yet. -/
theorem parse_lines {m : ModelMapping} (hm : m.WellFormed) (raw : String) :
    ∃ schema, parseSchemaLines { version := m.version, raw } .none m.cleanLines = .ok schema ∧
      AddsPermissions m.permissions
        { version := m.version, types := m.types, relations := m.relations, raw } schema := by
  have hrelationsWord : "relations".toList.map Char.toLower = "relations".toList := by decide
  have hpermissionsWord : "permissions".toList.map Char.toLower = "permissions".toList := by decide
  have hother : "permissions".toList ≠ "relations".toList := by decide
  have hrelations := @parse_relations { version := m.version, types := m.types, raw }
    ("permissions".toList :: permissionLines m.permissions) m.relations hm.relations
    hm.relation_keys
  have hpermissions := @parse_permissions
    { version := m.version, types := m.types, relations := m.relations, raw } m.permissions
    hm.permissions hm.permission_keys
  unfold ModelMapping.cleanLines
  rw [parse_types m.types hm.types, parseSchemaLines, if_pos hrelationsWord, List.nil_append,
    hrelations, parseSchemaLines, hpermissionsWord, if_neg hother, if_pos rfl, List.nil_append]
  exact hpermissions

/-- The header that the emitter writes. -/
theorem clean_header (version : Int) (hpos : 0 < version) :
    (∀ c ∈ ("model schema " ++ toString version).toList, IsPlain c) ∧
      cleanLine ("model schema " ++ toString version).toList =
        "model schema ".toList ++ (toString version).toList := by
  rcases version with n | n
  · -- the version is written in digits, none of which starts a comment
    have htext : (toString (Int.ofNat n)).toList = Nat.toDigits 10 n := Nat.toList_repr
    have hdigit : ∀ c ∈ Nat.toDigits 10 n, isPySpace c = false := by
      intro c hc
      exact not_space_of_digit (Nat.isDigit_of_mem_toDigits (by decide) (by decide) hc)
    have hcomment : '#' ∉ Nat.toDigits 10 n := by
      intro hmem
      exact absurd (Nat.isDigit_of_mem_toDigits (by decide) (by decide) hmem) (by decide)
    have hplain : ∀ c ∈ "model schema ".toList ++ Nat.toDigits 10 n, IsPlain c := by
      apply isPlain_of_append (isPlain_added (by decide))
      intro c hc
      refine ⟨?_, not_break_of_not_space (hdigit c hc)⟩
      rintro rfl
      exact hcomment hc
    rw [String.toList_append, htext]
    -- the line neither starts nor ends in a space
    refine ⟨hplain, clean_plain hplain (by simp) ?_ ?_⟩
    · rintro c ⟨⟩
      decide
    · rw [List.getLast?_append_of_ne_nil _ Nat.toDigits_ne_nil]
      exact fun c hc => hdigit c (List.mem_of_mem_getLast? hc)
  · -- a version is positive
    exact absurd hpos (by omega)

variable [PyRuntime]

/-- What the parser makes of the emitted text. -/
theorem parse_emitted (hdigits : ReadsDigits) {m : ModelMapping} (hm : m.WellFormed) :
    ∃ schema, parseAuthorizationSchema
        ("\n".intercalate (("model schema " ++ toString m.version) :: m.lines)) = .ok schema ∧
      ∃ raw, AddsPermissions m.permissions
        { version := m.version, types := m.types, relations := m.relations, raw } schema := by
  have ⟨hplain, hheader⟩ := clean_header m.version hm.version
  -- no line breaks in two
  have hunbroken : ∀ line ∈ ("model schema " ++ toString m.version) :: m.lines,
      ∀ c ∈ line.toList, isLineBreak c = false := by
    intro line hline
    rcases List.mem_cons.mp hline with rfl | hline
    · exact fun c hc => (hplain c hc).2
    · exact lines_unbroken hm line hline
  -- and none is blank
  have hkept : ∀ line ∈ ("model schema ".toList ++ (toString m.version).toList) :: m.cleanLines,
      decide (line ≠ []) = true := by
    intro line hline
    rw [decide_eq_true_eq]
    rcases List.mem_cons.mp hline with rfl | hline
    · simp
    · exact cleanLines_ne hm line hline
  have ⟨schema, hparse, hadds⟩ := parse_lines hm
    ("\n".intercalate (("model schema " ++ toString m.version) :: m.lines))
  refine ⟨schema, ?_, _, hadds⟩
  unfold parseAuthorizationSchema
  rw [schemaLines_join _ _ hunbroken, List.map_cons, hheader, clean_lines hm,
    List.filter_eq_self.mpr hkept]
  dsimp only
  rw [matchHeader_version hdigits hm.version]
  exact hparse

/-- The emitted text is read back as the mapping exactly when no permission is called `type`. -/
theorem survives_iff (hdigits : ReadsDigits) {m : ModelMapping}
    {payload model relations permissions : Dict} (hm : m.WellFormed)
    (hwritten : WrittenAs m payload model relations permissions) :
    (∃ text schema, modelMappingToSchema payload = .ok text ∧
      parseAuthorizationSchema text = .ok schema ∧ m.Survives schema) ↔
      ∀ permission ∈ m.permissions, pyLower permission.1 ≠ "type" := by
  have hemitted := emitted hm.type hwritten
  have ⟨schema, hparse, raw, hadds⟩ := parse_emitted hdigits hm
  have hpermissions : parsedPermissions schema.permissions =
    parsedTexts (keptPermissions m.permissions) := hadds.permissions
  constructor
  · rintro ⟨text, schema', htext, hparse', hsurvives⟩ permission hpermission htype
    rw [hemitted] at htext
    rcases htext with ⟨⟩
    rw [hparse] at hparse'
    rcases hparse' with ⟨⟩
    -- a permission called `type` is missing, so there are fewer of them
    have hsame := hsurvives.permissions
    rw [hpermissions] at hsame
    have hlength := congrArg List.length hsame
    unfold parsedTexts at hlength
    rw [List.length_map, List.length_map] at hlength
    have hall := List.length_filter_eq_length_iff.mp hlength permission hpermission
    exact of_decide_eq_true hall htype
  · intro hnone
    refine ⟨_, schema, hemitted, hparse, hadds.version, hadds.relations, ?_, ?_⟩
    · have hkept : keptPermissions m.permissions = m.permissions := by
        apply List.filter_eq_self.mpr
        intro permission hpermission
        exact decide_eq_true (hnone permission hpermission)
      rw [hpermissions, hkept]
    · intro name
      rw [hadds.types hnone]
      simp only [ModelMapping.types, mem_sortedSet, List.mem_cons, List.mem_flatMap]

end Whole

section Concrete

attribute [local instance] plainRuntime

/-- One type `document`, whose relation `owner` lists users, and one permission for owners. -/
def ownedDocument (permission : String) : ModelMapping :=
  ⟨1, "document", [("owner", ["user"])], [(permission, "owner")]⟩

/-- The same, as a file holds it. -/
def ownedDocumentFile (permission : String) : Dict :=
  [("type", .str "document"), ("relations", .dict [("owner", .str "user")]),
    ("permissions", .dict [(permission, .str "owner")])]

theorem owner_text : IsPermissionText "owner" := ⟨by decide, .identifier "owner", rfl⟩

theorem ownedDocument_wellFormed {permission : String} (h : IsModelName permission) :
    (ownedDocument permission).WellFormed where
  version := by
    show (0 : Int) < 1
    decide
  type := by
    show IsModelName "document"
    exact ⟨by decide, by decide⟩
  relations := by
    intro relation hrelation
    rw [List.mem_singleton.mp hrelation]
    refine ⟨⟨by decide, by decide⟩, by decide, ?_⟩
    intro subject hsubject
    rw [List.mem_singleton.mp hsubject]
    exact ⟨by decide, by decide⟩
  relation_keys := List.nodup_singleton _
  permissions := by
    intro item hitem
    rw [List.mem_singleton.mp hitem]
    exact ⟨h, owner_text⟩
  permission_keys := List.nodup_singleton _

theorem ownedDocument_written (permission : String) :
    WrittenAs (ownedDocument permission) (ownedDocumentFile permission)
      (ownedDocumentFile permission) [("owner", .str "user")] [(permission, .str "owner")] :=
  ⟨rfl, rfl, rfl, rfl, rfl, rfl, rfl⟩

theorem plainRuntime_readsDigits : ReadsDigits := fun _ h => if_pos h

/-- A permission `read` is read back. -/
theorem readPermission_survives :
    ∃ text schema, modelMappingToSchema (ownedDocumentFile "read") = .ok text ∧
      parseAuthorizationSchema text = .ok schema ∧ (ownedDocument "read").Survives schema := by
  have hname : IsModelName "read" := ⟨by decide, by decide⟩
  apply (survives_iff plainRuntime_readsDigits (ownedDocument_wellFormed hname)
    (ownedDocument_written "read")).mpr
  intro permission hpermission
  rw [List.mem_singleton.mp hpermission]
  decide

/-- A permission `type` becomes a type `= owner`. -/
theorem typePermission_lost :
    (ownedDocument "type").WellFormed ∧
    WrittenAs (ownedDocument "type") (ownedDocumentFile "type") (ownedDocumentFile "type")
      [("owner", .str "user")] [("type", .str "owner")] ∧
    (∃ text schema, modelMappingToSchema (ownedDocumentFile "type") = .ok text ∧
      parseAuthorizationSchema text = .ok schema ∧
      schema.types = ["document", "user", "= owner"] ∧ schema.permissions = []) ∧
    ¬ ∃ text schema, modelMappingToSchema (ownedDocumentFile "type") = .ok text ∧
      parseAuthorizationSchema text = .ok schema ∧ (ownedDocument "type").Survives schema := by
  -- `type` is a name like any other
  have hname : IsModelName "type" := ⟨by decide, by decide⟩
  have hlost : ∃ text schema, modelMappingToSchema (ownedDocumentFile "type") = .ok text ∧
      parseAuthorizationSchema text = .ok schema ∧
      schema.types = ["document", "user", "= owner"] ∧ schema.permissions = [] :=
    ⟨_, _, rfl, rfl, rfl, rfl⟩
  refine ⟨ownedDocument_wellFormed hname, ownedDocument_written "type", hlost, ?_⟩
  rintro ⟨text', schema', htext', hschema', hsurvives⟩
  rcases hlost with ⟨text, schema, htext, hschema, _, hpermissions⟩
  rw [htext] at htext'
  rcases htext' with ⟨⟩
  rw [hschema] at hschema'
  rcases hschema' with ⟨⟩
  -- but the permission of that name is not read back
  have hsame := hsurvives.permissions
  rw [hpermissions] at hsame
  cases hsame

end Concrete

end KeyNetra
