import KeyNetra.Modeling.Schema

/-!
# KeyNetra.Modeling.SchemaParser — the schema language

`parse_authorization_schema`: a header line, type lines, and the lines of the
`relations` and `permissions` sections; a permission's expression is tokenised
by a regular expression and parsed by recursive descent.

* `tokenize` — the scanner, which skips what is no token, and the check that
  nothing but spaces was skipped;
* `parseExpr` / `parseTerm` / `parseFactor` — the grammar, over the tokens left;
* `parseAuthorizationSchema` / `compileSchemaText` — text to schema to model.

The recursion is on fuel. `parse_enough_fuel`: the fuel given is never used up.
-/

namespace KeyNetra

/-! ## Lines -/

/-- The characters `str.splitlines` breaks at. -/
def isLineBreak (c : Char) : Bool :=
  let n := c.toNat
  (10 ≤ n && n ≤ 13) || (28 ≤ n && n ≤ 30) || n == 0x85 || n == 0x2028 || n == 0x2029

/-- `s.strip()`, on characters. -/
def stripChars (cs : List Char) : List Char :=
  ((cs.dropWhile isPySpace).reverse.dropWhile isPySpace).reverse

/-- The lines of a schema, without comments and surrounding spaces; blank lines
are dropped, so `\r\n` may count as two breaks. -/
def schemaLines (text : String) : List (List Char) :=
  ((text.toList.splitOnP isLineBreak).map fun line =>
    stripChars (line.takeWhile fun c => c ≠ '#')).filter fun line => line ≠ []

/-- `line.split(c, 1)`, when `c` is in the line. -/
def splitOnce (c : Char) (line : List Char) : Option (List Char × List Char) :=
  match line.span fun d => d ≠ c with
  | (before, _ :: after) => some (before, after)
  | _ => none

section Header

variable [PyRuntime]

/-- A letter of the header under `re.IGNORECASE`; the long s matches an s. -/
def matchLetter (letter c : Char) : Bool :=
  c.toLower == letter || (letter == 's' && c == 'ſ')

/-- What follows a word of the header. -/
def matchWord : List Char → List Char → Option (List Char)
  | [], rest => some rest
  | letter :: word, c :: rest => if matchLetter letter c then matchWord word rest else none
  | _ :: _, [] => none

/-- `\s+`. -/
def matchSpaces : List Char → Option (List Char)
  | c :: rest => if isPySpace c then some (rest.dropWhile isPySpace) else none
  | [] => none

/-- `int(digits)` of a run of decimal digits. -/
def digitsValue (digits : List Char) : Option Int :=
  digits.foldlM (fun value c => (PyRuntime.decimal c).map fun d => 10 * value + d) 0

/-- `re.fullmatch(r"model\s+schema\s+(\d+)", header, re.IGNORECASE)`. -/
def matchHeader (header : List Char) : Option Int := do
  let rest ← matchWord "model".toList header
  let rest ← matchSpaces rest
  let rest ← matchWord "schema".toList rest
  let digits ← matchSpaces rest
  if digits = [] then none else digitsValue digits

end Header

/-! ## Relations -/

/-- `_parse_relation`. -/
def parseRelation (line : List Char) : Except PyError (String × List String) :=
  let text := String.ofList line
  match splitOnce ':' line with
  | none => .error (.valueError s!"invalid relation: {text}")
  | some (name, subjectText) =>
      let name := stripChars name
      let subjectText := stripChars subjectText
      if name = [] then .error (.valueError s!"invalid relation: {text}")
      else if subjectText.head? ≠ some '[' ∨ subjectText.getLast? ≠ some ']' then
        .error (.valueError s!"invalid relation subjects: {text}")
      else
        let subjects := ((((subjectText.drop 1).dropLast).splitOnP fun c => c = ',').map
          stripChars).filter fun item => item ≠ []
        if subjects = [] then .error (.valueError s!"invalid relation subjects: {text}")
        else .ok (String.ofList name, subjects.map String.ofList)

/-! ## Tokens -/

/-- A word character, for `\b`. -/
def isWordChar (c : Char) : Bool := c.isAlphanum || c == '_'

/-- `[A-Za-z_]`. -/
def isNameStart (c : Char) : Bool := c.isAlpha || c == '_'

/-- `[A-Za-z0-9_:-]`. -/
def isNameChar (c : Char) : Bool := c.isAlphanum || c == '_' || c == ':' || c == '-'

/-- A keyword followed by a word boundary. -/
def matchKeyword (keyword cs : List Char) : Option (List Char × List Char) :=
  if keyword.isPrefixOf cs then
    let rest := cs.drop keyword.length
    if rest.head?.any isWordChar then none else some (keyword, rest)
  else none

/-- A token at the start of a text, and what follows it. -/
def matchToken : List Char → Option (List Char × List Char)
  | [] => none
  | c :: rest =>
      if c = '(' ∨ c = ')' then some ([c], rest)
      else
        (matchKeyword "and".toList (c :: rest)).or ((matchKeyword "or".toList (c :: rest)).or
          ((matchKeyword "not".toList (c :: rest)).or
            (if isNameStart c then
              some (c :: rest.takeWhile isNameChar, rest.dropWhile isNameChar)
            else none)))

/-- `_TOKEN_RE.finditer`: spaces and characters that start no token are skipped. -/
def scanTokens : Nat → List Char → List (List Char)
  | 0, _ => []
  | fuel + 1, cs =>
      match cs.dropWhile isPySpace with
      | [] => []
      | c :: rest =>
          match matchToken (c :: rest) with
          | some (token, rest) => token :: scanTokens fuel rest
          | none => scanTokens fuel rest

/-- `_tokenize`: what was skipped must have been spaces. -/
def tokenize (text : List Char) : Except PyError (List String) :=
  let tokens := scanTokens text.length text
  let shown := String.ofList text
  if (tokens.flatten.filter fun c => c ≠ ' ') ≠ text.filter fun c => c ≠ ' ' then
    .error (.valueError s!"invalid permission expression: {shown}")
  else .ok (tokens.map String.ofList)

/-! ## Expressions -/

/-- The parser ran out of fuel: `parse_enough_fuel` excludes it. -/
def outOfFuel : PyError := .valueError "out of fuel"

/-- A parsed expression and the tokens after it. -/
abbrev Parsed := Except PyError (Expr × List String)

mutual

/-- `_parse_expr`. -/
def parseExpr : Nat → List String → Parsed
  | 0, _ => .error outOfFuel
  | fuel + 1, tokens => do
      let (left, rest) ← parseTerm fuel tokens
      parseOrTail fuel left rest

/-- The loop of `_parse_expr`. -/
def parseOrTail : Nat → Expr → List String → Parsed
  | 0, _, _ => .error outOfFuel
  | _ + 1, left, [] => .ok (left, [])
  | fuel + 1, left, token :: rest =>
      if pyLower token = "or" then do
        let (right, rest) ← parseTerm fuel rest
        parseOrTail fuel (.or left right) rest
      else .ok (left, token :: rest)

/-- `_parse_term`. -/
def parseTerm : Nat → List String → Parsed
  | 0, _ => .error outOfFuel
  | fuel + 1, tokens => do
      let (left, rest) ← parseFactor fuel tokens
      parseAndTail fuel left rest

/-- The loop of `_parse_term`. -/
def parseAndTail : Nat → Expr → List String → Parsed
  | 0, _, _ => .error outOfFuel
  | _ + 1, left, [] => .ok (left, [])
  | fuel + 1, left, token :: rest =>
      if pyLower token = "and" then do
        let (right, rest) ← parseFactor fuel rest
        parseAndTail fuel (.and left right) rest
      else .ok (left, token :: rest)

/-- `_parse_factor`. -/
def parseFactor : Nat → List String → Parsed
  | 0, _ => .error outOfFuel
  | _ + 1, [] => .error (.valueError "unexpected end of expression")
  | fuel + 1, token :: rest =>
      if pyLower token = "not" then do
        let (value, rest) ← parseFactor fuel rest
        .ok (.not value, rest)
      else if token = "(" then do
        let (expr, rest) ← parseExpr fuel rest
        match rest with
        | ")" :: rest => .ok (expr, rest)
        | _ => .error (.valueError "missing closing parenthesis")
      else if token ∈ [")", "and", "or"] then .error (.valueError "invalid expression")
      else .ok (.identifier token, rest)

end

/-- `_parse_permission`. -/
def parsePermission (line : List Char) : Except PyError (String × Expr) :=
  let text := String.ofList line
  match splitOnce '=' line with
  | none => .error (.valueError s!"invalid permission: {text}")
  | some (name, exprText) => do
      let name := stripChars name
      let exprText := stripChars exprText
      if name = [] ∨ exprText = [] then .error (.valueError s!"invalid permission: {text}")
      else
        let tokens ← tokenize exprText
        let (expr, rest) ← parseExpr (3 * tokens.length + 3) tokens
        if rest ≠ [] then .error (.valueError s!"invalid permission expression: {text}")
        else .ok (String.ofList name, expr)

/-! ## Schemas -/

/-- The section a line is in. -/
inductive SchemaSection where
  | none
  | relations
  | permissions

/-- The loop of `parse_authorization_schema` over the lines after the header. -/
def parseSchemaLines (schema : AuthorizationSchema) :
    SchemaSection → List (List Char) → Except PyError AuthorizationSchema
  | _, [] => .ok schema
  | part, line :: lines =>
      let lowered := line.map Char.toLower
      if lowered = "relations".toList then parseSchemaLines schema .relations lines
      else if lowered = "permissions".toList then parseSchemaLines schema .permissions lines
      else if "type ".toList.isPrefixOf lowered then
        let name := String.ofList (stripChars (line.drop 5))
        parseSchemaLines { schema with types := schema.types ++ [name] } part lines
      else
        match part with
        | .relations => do
            let (name, subjects) ← parseRelation line
            parseSchemaLines { schema with relations := schema.relations.set name subjects } part
              lines
        | .permissions => do
            let (name, expr) ← parsePermission line
            parseSchemaLines { schema with permissions := schema.permissions.set name expr } part
              lines
        | .none =>
            let text := String.ofList line
            .error (.valueError s!"unexpected schema line: {text}")

variable [PyRuntime]

/-- `parse_authorization_schema`. -/
def parseAuthorizationSchema (schemaText : String) : Except PyError AuthorizationSchema :=
  match schemaLines schemaText with
  | [] => .error (.valueError "schema is empty")
  | header :: lines =>
      match matchHeader header with
      | none => .error (.valueError "schema must start with 'model schema <version>'")
      | some version => parseSchemaLines { version, raw := schemaText } .none lines

/-- `compile_authorization_schema` of a text. -/
def compileSchemaText (schemaText : String) : Except PyError CompiledAuthorizationModel := do
  let schema ← parseAuthorizationSchema schemaText
  compileAuthorizationSchema schema

/-! ## The fuel is enough -/

/-- The parse did not run out of fuel, and left fewer than `bound` tokens. -/
def Consumes (bound : Nat) : Parsed → Prop
  | .ok (_, rest) => rest.length < bound
  | .error e => e ≠ outOfFuel

omit [PyRuntime] in
theorem Consumes.mono {m n : Nat} {parsed : Parsed} (h : Consumes m parsed) (hmn : m ≤ n) :
    Consumes n parsed := by
  cases parsed with
  | error e => exact h
  | ok result => exact Nat.lt_of_lt_of_le h hmn

omit [PyRuntime] in
theorem Consumes.bind {m n : Nat} {parsed : Parsed} {next : Expr × List String → Parsed}
    (h : Consumes m parsed)
    (hnext : ∀ expr rest, rest.length < m → Consumes n (next (expr, rest))) :
    Consumes n (parsed >>= next) := by
  cases parsed with
  | error e => exact h
  | ok result => exact hnext result.1 result.2 h

omit [PyRuntime] in
/-- The loop over `or` consumes what its terms consume. -/
theorem orTail_consumes {fuel : Nat}
    (hterm : ∀ tokens, 3 * tokens.length + 2 ≤ fuel →
      Consumes tokens.length (parseTerm fuel tokens))
    (htail : ∀ left tokens, 3 * tokens.length + 1 ≤ fuel →
      Consumes (tokens.length + 1) (parseOrTail fuel left tokens))
    (left : Expr) (tokens : List String) (hfuel : 3 * tokens.length + 1 ≤ fuel + 1) :
    Consumes (tokens.length + 1) (parseOrTail (fuel + 1) left tokens) := by
  cases tokens with
  | nil => exact Nat.zero_lt_one
  | cons token rest =>
      rw [List.length_cons] at hfuel ⊢
      rw [parseOrTail]
      split
      · refine (hterm rest (by omega)).bind fun right rest' hrest => ?_
        exact (htail _ rest' (by omega)).mono (by omega)
      · exact Nat.lt_succ_self _

omit [PyRuntime] in
/-- The loop over `and` consumes what its factors consume. -/
theorem andTail_consumes {fuel : Nat}
    (hfactor : ∀ tokens, 3 * tokens.length + 1 ≤ fuel →
      Consumes tokens.length (parseFactor fuel tokens))
    (htail : ∀ left tokens, 3 * tokens.length + 1 ≤ fuel →
      Consumes (tokens.length + 1) (parseAndTail fuel left tokens))
    (left : Expr) (tokens : List String) (hfuel : 3 * tokens.length + 1 ≤ fuel + 1) :
    Consumes (tokens.length + 1) (parseAndTail (fuel + 1) left tokens) := by
  cases tokens with
  | nil => exact Nat.zero_lt_one
  | cons token rest =>
      rw [List.length_cons] at hfuel ⊢
      rw [parseAndTail]
      split
      · refine (hfactor rest (by omega)).bind fun right rest' hrest => ?_
        exact (htail _ rest' (by omega)).mono (by omega)
      · exact Nat.lt_succ_self _

omit [PyRuntime] in
/-- A factor consumes a token. -/
theorem factor_consumes {fuel : Nat}
    (hexpr : ∀ tokens, 3 * tokens.length + 3 ≤ fuel →
      Consumes tokens.length (parseExpr fuel tokens))
    (hfactor : ∀ tokens, 3 * tokens.length + 1 ≤ fuel →
      Consumes tokens.length (parseFactor fuel tokens))
    (tokens : List String) (hfuel : 3 * tokens.length + 1 ≤ fuel + 1) :
    Consumes tokens.length (parseFactor (fuel + 1) tokens) := by
  cases tokens with
  | nil =>
      show PyError.valueError "unexpected end of expression" ≠ outOfFuel
      decide
  | cons token rest =>
      rw [List.length_cons] at hfuel ⊢
      rw [parseFactor]
      split
      · -- `not` and the factor behind it
        refine (hfactor rest (by omega)).bind fun value rest' hrest => ?_
        exact Nat.lt_succ_of_lt hrest
      · split
        · -- the bracket is taken before the expression, so its fuel is enough
          refine (hexpr rest (by omega)).bind fun expr rest' hrest => ?_
          dsimp only
          split
          · rename_i rest''
            rw [List.length_cons] at hrest
            exact Nat.lt_succ_of_lt (Nat.lt_of_succ_lt hrest)
          · show PyError.valueError "missing closing parenthesis" ≠ outOfFuel
            decide
        · split
          · show PyError.valueError "invalid expression" ≠ outOfFuel
            decide
          · exact Nat.lt_succ_self _

omit [PyRuntime] in
/-- One unit of fuel for each level of the grammar at each token. -/
theorem parse_consumes (fuel : Nat) :
    (∀ tokens, 3 * tokens.length + 3 ≤ fuel → Consumes tokens.length (parseExpr fuel tokens)) ∧
    (∀ left tokens, 3 * tokens.length + 1 ≤ fuel →
      Consumes (tokens.length + 1) (parseOrTail fuel left tokens)) ∧
    (∀ tokens, 3 * tokens.length + 2 ≤ fuel → Consumes tokens.length (parseTerm fuel tokens)) ∧
    (∀ left tokens, 3 * tokens.length + 1 ≤ fuel →
      Consumes (tokens.length + 1) (parseAndTail fuel left tokens)) ∧
    (∀ tokens, 3 * tokens.length + 1 ≤ fuel →
      Consumes tokens.length (parseFactor fuel tokens)) := by
  induction fuel with
  | zero => exact ⟨by omega, by omega, by omega, by omega, by omega⟩
  | succ fuel ih =>
      have ⟨hexpr, hor, hterm, hand, hfactor⟩ := ih
      refine ⟨?_, orTail_consumes hterm hor, ?_, andTail_consumes hfactor hand,
        factor_consumes hexpr hfactor⟩
      · intro tokens hfuel
        rw [parseExpr]
        refine (hterm tokens (by omega)).bind fun left rest hrest => ?_
        exact (hor left rest (by omega)).mono (by omega)
      · intro tokens hfuel
        rw [parseTerm]
        refine (hfactor tokens (by omega)).bind fun left rest hrest => ?_
        exact (hand left rest (by omega)).mono (by omega)

omit [PyRuntime] in
/-- A permission's expression is never cut short by the fuel. -/
theorem parse_enough_fuel (tokens : List String) :
    parseExpr (3 * tokens.length + 3) tokens ≠ .error outOfFuel := by
  intro h
  have hconsumes := (parse_consumes (3 * tokens.length + 3)).1 tokens (le_refl _)
  rw [h] at hconsumes
  exact hconsumes rfl

end KeyNetra
