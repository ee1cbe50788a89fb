import KeyNetra.Modeling.SchemaParser

/-!
# KeyNetra.Modeling.Grammar — what the expression parser reads

The grammar of permission expressions over tokens: `not` binds closer than `and`, `and` closer
than `or`, and both of these group to the left.

* `Spells` — the tokens that spell an expression, at each level of the grammar;
* `readExpr` / `readTerm` / `readFactor` — the parser with fuel for all its tokens;
* `Spells.read` / `read_spells` — it reads what is spelled, and nothing else;
* `Expr.minimal` — an expression with the parentheses it needs;
* `minimal_read` — which reads back as that expression, and every call returns or raises.

The calls may nest as deep as the text does: the interpreter's own limit on the depth of the
recursion is left out here.
-/

namespace KeyNetra

/-! ## The grammar -/

/-- The three functions of the parser. -/
inductive Level where
  | expr
  | term
  | factor

/-- A token `_parse_factor` takes for an identifier. -/
def IsOperand (token : String) : Prop :=
  pyLower token ≠ "not" ∧ token ∉ ["(", ")", "and", "or"]

/-- The tokens spell the expression at a level; the operators may be in any letter case. -/
inductive Spells : Level → Expr → List String → Prop where
  | identifier {name : String} (h : IsOperand name) : Spells .factor (.identifier name) [name]
  | not {token : String} {value : Expr} {tokens : List String} (h : pyLower token = "not")
      (value_spelled : Spells .factor value tokens) : Spells .factor (.not value) (token :: tokens)
  | parens {e : Expr} {tokens : List String} (inner : Spells .expr e tokens) :
      Spells .factor e ("(" :: (tokens ++ [")"]))
  | factor {e : Expr} {tokens : List String} (inner : Spells .factor e tokens) :
      Spells .term e tokens
  | and {token : String} {left right : Expr} {tokens tokens' : List String}
      (h : pyLower token = "and") (left_spelled : Spells .term left tokens)
      (right_spelled : Spells .factor right tokens') :
      Spells .term (.and left right) (tokens ++ token :: tokens')
  | term {e : Expr} {tokens : List String} (inner : Spells .term e tokens) : Spells .expr e tokens
  | or {token : String} {left right : Expr} {tokens tokens' : List String}
      (h : pyLower token = "or") (left_spelled : Spells .expr left tokens)
      (right_spelled : Spells .term right tokens') :
      Spells .expr (.or left right) (tokens ++ token :: tokens')

/-! ## More fuel changes nothing -/

/-- A parse that has not run out of fuel is the same with more. -/
def Steady (parsed parsed' : Parsed) : Prop := parsed ≠ .error outOfFuel → parsed' = parsed

theorem Steady.bind {parsed parsed' : Parsed} {next next' : Expr × List String → Parsed}
    (h : Steady parsed parsed') (hnext : ∀ result, Steady (next result) (next' result)) :
    Steady (parsed >>= next) (parsed' >>= next') := by
  intro hbind
  rcases parsed with e | result
  · have hsame : parsed' = .error e := h hbind
    rw [hsame]
    rfl
  · have hsame : parsed' = .ok result := h (fun hne => by cases hne)
    rw [hsame]
    exact hnext result hbind

theorem Steady.refl (parsed : Parsed) : Steady parsed parsed := fun _ => rfl

/-- Each of the five functions, with one unit of fuel more. -/
theorem parse_steady (fuel : Nat) :
    (∀ tokens, Steady (parseExpr fuel tokens) (parseExpr (fuel + 1) tokens)) ∧
    (∀ left tokens, Steady (parseOrTail fuel left tokens) (parseOrTail (fuel + 1) left tokens)) ∧
    (∀ tokens, Steady (parseTerm fuel tokens) (parseTerm (fuel + 1) tokens)) ∧
    (∀ left tokens, Steady (parseAndTail fuel left tokens) (parseAndTail (fuel + 1) left tokens)) ∧
    (∀ tokens, Steady (parseFactor fuel tokens) (parseFactor (fuel + 1) tokens)) := by
  induction fuel with
  | zero =>
      -- no fuel: nothing has been parsed
      refine ⟨?_, ?_, ?_, ?_, ?_⟩
      · intro tokens h
        exact absurd (by rw [parseExpr]) h
      · intro left tokens h
        exact absurd (by rw [parseOrTail]) h
      · intro tokens h
        exact absurd (by rw [parseTerm]) h
      · intro left tokens h
        exact absurd (by rw [parseAndTail]) h
      · intro tokens h
        exact absurd (by rw [parseFactor]) h
  | succ fuel ih =>
      obtain ⟨hexpr, hor, hterm, hand, hfactor⟩ := ih
      refine ⟨?_, ?_, ?_, ?_, ?_⟩
      · -- parseExpr: a term and its tail
        intro tokens
        rw [parseExpr, parseExpr]
        exact (hterm tokens).bind fun result => hor result.1 result.2
      · -- parseOrTail: another term, or the end
        intro left tokens
        rcases tokens with _ | ⟨token, rest⟩
        · exact .refl _
        · rw [parseOrTail, parseOrTail]
          split
          · exact (hterm rest).bind fun result => hor _ result.2
          · exact .refl _
      · -- parseTerm: a factor and its tail
        intro tokens
        rw [parseTerm, parseTerm]
        exact (hfactor tokens).bind fun result => hand result.1 result.2
      · -- parseAndTail: another factor, or the end
        intro left tokens
        rcases tokens with _ | ⟨token, rest⟩
        · exact .refl _
        · rw [parseAndTail, parseAndTail]
          split
          · exact (hfactor rest).bind fun result => hand _ result.2
          · exact .refl _
      · -- parseFactor: a negation, parentheses, or an operand
        intro tokens
        rcases tokens with _ | ⟨token, rest⟩
        · exact .refl _
        · rw [parseFactor, parseFactor]
          split
          · exact (hfactor rest).bind fun result => .refl _
          · split
            · exact (hexpr rest).bind fun result => .refl _
            · exact .refl _

theorem steady_of_le {parse : Nat → Parsed} (h : ∀ fuel, Steady (parse fuel) (parse (fuel + 1)))
    {fuel fuel' : Nat} (hle : fuel ≤ fuel') : Steady (parse fuel) (parse fuel') := by
  induction fuel', hle using Nat.le_induction with
  | base => exact .refl _
  | succ fuel' hle ih =>
      intro hparsed
      have hsame := ih hparsed
      rw [h fuel' (hsame ▸ hparsed), hsame]

theorem Consumes.ne {bound : Nat} {parsed : Parsed} (h : Consumes bound parsed) :
    parsed ≠ .error outOfFuel := by
  intro hparsed
  rw [hparsed] at h
  exact h rfl

/-! ## The functions with enough fuel -/

/-- `_parse_expr` on the tokens from an index on. -/
def readExpr (tokens : List String) : Parsed := parseExpr (3 * tokens.length + 3) tokens

/-- The loop of `_parse_expr`. -/
def readOrTail (left : Expr) (tokens : List String) : Parsed :=
  parseOrTail (3 * tokens.length + 1) left tokens

/-- `_parse_term` on the tokens from an index on. -/
def readTerm (tokens : List String) : Parsed := parseTerm (3 * tokens.length + 2) tokens

/-- The loop of `_parse_term`. -/
def readAndTail (left : Expr) (tokens : List String) : Parsed :=
  parseAndTail (3 * tokens.length + 1) left tokens

/-- `_parse_factor` on the tokens from an index on. -/
def readFactor (tokens : List String) : Parsed := parseFactor (3 * tokens.length + 1) tokens

section Read

variable {fuel : Nat} {tokens : List String} {left : Expr}

theorem parseOrTail_eq (h : 3 * tokens.length + 1 ≤ fuel) :
    parseOrTail fuel left tokens = readOrTail left tokens :=
  steady_of_le (fun fuel => (parse_steady fuel).2.1 left tokens) h
    ((parse_consumes _).2.1 left tokens (le_refl _)).ne

theorem parseTerm_eq (h : 3 * tokens.length + 2 ≤ fuel) :
    parseTerm fuel tokens = readTerm tokens :=
  steady_of_le (fun fuel => (parse_steady fuel).2.2.1 tokens) h
    ((parse_consumes _).2.2.1 tokens (le_refl _)).ne

theorem parseAndTail_eq (h : 3 * tokens.length + 1 ≤ fuel) :
    parseAndTail fuel left tokens = readAndTail left tokens :=
  steady_of_le (fun fuel => (parse_steady fuel).2.2.2.1 left tokens) h
    ((parse_consumes _).2.2.2.1 left tokens (le_refl _)).ne

theorem parseFactor_eq (h : 3 * tokens.length + 1 ≤ fuel) :
    parseFactor fuel tokens = readFactor tokens :=
  steady_of_le (fun fuel => (parse_steady fuel).2.2.2.2 tokens) h
    ((parse_consumes _).2.2.2.2 tokens (le_refl _)).ne

/-- What a read leaves is shorter than what it got. -/
theorem read_consumes (tokens : List String) :
    Consumes tokens.length (readExpr tokens) ∧ Consumes tokens.length (readTerm tokens) ∧
      Consumes tokens.length (readFactor tokens) :=
  ⟨(parse_consumes _).1 tokens (le_refl _), (parse_consumes _).2.2.1 tokens (le_refl _),
    (parse_consumes _).2.2.2.2 tokens (le_refl _)⟩

/-- After a read that consumed, a next step needs only the fuel for what is left. -/
theorem bind_read {parsed : Parsed} (h : Consumes tokens.length parsed)
    {next next' : Expr × List String → Parsed}
    (hnext : ∀ e rest, rest.length < tokens.length → next (e, rest) = next' (e, rest)) :
    parsed >>= next = parsed >>= next' := by
  rcases parsed with e | ⟨e, rest⟩
  · rfl
  · exact hnext e rest h

theorem readExpr_eq (tokens : List String) :
    readExpr tokens = readTerm tokens >>= fun (left, rest) => readOrTail left rest := by
  have hterm : parseTerm (3 * tokens.length + 2) tokens = readTerm tokens := rfl
  unfold readExpr
  rw [parseExpr, hterm]
  apply bind_read (read_consumes tokens).2.1
  intro e rest hrest
  exact parseOrTail_eq (by omega)

theorem readTerm_eq (tokens : List String) :
    readTerm tokens = readFactor tokens >>= fun (left, rest) => readAndTail left rest := by
  have hfactor : parseFactor (3 * tokens.length + 1) tokens = readFactor tokens := rfl
  unfold readTerm
  rw [parseTerm, hfactor]
  apply bind_read (read_consumes tokens).2.2
  intro e rest hrest
  exact parseAndTail_eq (by omega)

theorem readOrTail_nil (left : Expr) : readOrTail left [] = .ok (left, []) := rfl

theorem readOrTail_or {token : String} (h : pyLower token = "or") (left : Expr)
    (rest : List String) : readOrTail left (token :: rest) =
      readTerm rest >>= fun (right, rest) => readOrTail (.or left right) rest := by
  have hterm : parseTerm (3 * rest.length + 3) rest = readTerm rest := parseTerm_eq (by omega)
  show parseOrTail (3 * rest.length + 3 + 1) left (token :: rest) = _
  rw [parseOrTail, if_pos h, hterm]
  apply bind_read (read_consumes rest).2.1
  intro e rest' hrest
  exact parseOrTail_eq (by omega)

theorem readOrTail_other {token : String} (h : pyLower token ≠ "or") (left : Expr)
    (rest : List String) : readOrTail left (token :: rest) = .ok (left, token :: rest) := by
  show parseOrTail (3 * rest.length + 3 + 1) left (token :: rest) = _
  rw [parseOrTail, if_neg h]

theorem readAndTail_and {token : String} (h : pyLower token = "and") (left : Expr)
    (rest : List String) : readAndTail left (token :: rest) =
      readFactor rest >>= fun (right, rest) => readAndTail (.and left right) rest := by
  have hfactor : parseFactor (3 * rest.length + 3) rest = readFactor rest :=
    parseFactor_eq (by omega)
  show parseAndTail (3 * rest.length + 3 + 1) left (token :: rest) = _
  rw [parseAndTail, if_pos h, hfactor]
  apply bind_read (read_consumes rest).2.2
  intro e rest' hrest
  exact parseAndTail_eq (by omega)

theorem readAndTail_other {token : String} (h : pyLower token ≠ "and") (left : Expr)
    (rest : List String) : readAndTail left (token :: rest) = .ok (left, token :: rest) := by
  show parseAndTail (3 * rest.length + 3 + 1) left (token :: rest) = _
  rw [parseAndTail, if_neg h]

/-- A closing parenthesis where one is due. -/
def closeParens : Expr × List String → Parsed
  | (e, tokens) =>
      match tokens with
      | ")" :: rest => .ok (e, rest)
      | _ => .error (.valueError "missing closing parenthesis")

theorem readFactor_cons (token : String) (rest : List String) :
    readFactor (token :: rest) =
      if pyLower token = "not" then readFactor rest >>= fun (value, rest) => .ok (.not value, rest)
      else if token = "(" then readExpr rest >>= closeParens
      else if token ∈ [")", "and", "or"] then .error (.valueError "invalid expression")
      else .ok (.identifier token, rest) := by
  have hfactor : parseFactor (3 * rest.length + 3) rest = readFactor rest :=
    parseFactor_eq (by omega)
  have hexpr : parseExpr (3 * rest.length + 3) rest = readExpr rest := rfl
  show parseFactor (3 * rest.length + 3 + 1) (token :: rest) = _
  rw [parseFactor, hfactor, hexpr]
  rfl

end Read

/-! ## What is spelled is read -/

/-- No `and` comes next. -/
def NoAnd (rest : List String) : Prop := ∀ token ∈ rest.head?, pyLower token ≠ "and"

/-- What each function does with tokens that spell an expression, whatever comes after them: a
term and an expression leave the rest to their loops. -/
def ReadsAs : Level → Expr → List String → Prop
  | .factor, e, tokens => ∀ rest, readFactor (tokens ++ rest) = .ok (e, rest)
  | .term, e, tokens => ∀ rest, readTerm (tokens ++ rest) = readAndTail e rest
  | .expr, e, tokens => ∀ rest, NoAnd rest → readExpr (tokens ++ rest) = readOrTail e rest

theorem readAndTail_noAnd {rest : List String} (h : NoAnd rest) (left : Expr) :
    readAndTail left rest = .ok (left, rest) := by
  rcases rest with _ | ⟨token, rest⟩
  · rfl
  · exact readAndTail_other (h token rfl) left rest

/-- By induction on the derivation, each production read by its function. -/
theorem Spells.reads {level : Level} {e : Expr} {tokens : List String}
    (h : Spells level e tokens) : ReadsAs level e tokens := by
  induction h with
  | @identifier name hname =>
      have hparens : name ≠ "(" := fun hparens => hname.2 (by rw [hparens]; decide)
      have hother : name ∉ [")", "and", "or"] := fun hmem => hname.2 (List.mem_cons_of_mem _ hmem)
      intro rest
      rw [List.singleton_append, readFactor_cons, if_neg hname.1, if_neg hparens, if_neg hother]
  | @not token value tokens htoken _ ih =>
      have hvalue : ∀ rest, readFactor (tokens ++ rest) = .ok (value, rest) := ih
      intro rest
      rw [List.cons_append, readFactor_cons, if_pos htoken, hvalue, Lib.ok_bind]
  | @parens e tokens _ ih =>
      -- inside parentheses any expression may stand, for the bracket ends it
      have hinner : ∀ rest, NoAnd rest → readExpr (tokens ++ rest) = readOrTail e rest := ih
      have hnot : pyLower "(" ≠ "not" := by decide
      have hclose : pyLower ")" ≠ "or" := by decide
      have hnoAnd : ∀ rest, NoAnd (")" :: rest) := by
        rintro rest token ⟨⟩
        decide
      intro rest
      rw [List.cons_append, List.append_assoc, readFactor_cons, if_neg hnot, if_pos rfl,
        List.singleton_append, hinner _ (hnoAnd rest), readOrTail_other hclose, Lib.ok_bind]
      rfl
  | @factor e tokens _ ih =>
      have hfactor : ∀ rest, readFactor (tokens ++ rest) = .ok (e, rest) := ih
      intro rest
      rw [readTerm_eq, hfactor, Lib.ok_bind]
  | @and token left right tokens tokens' htoken _ _ ihLeft ihRight =>
      -- the left side is read as far as the token, which the tail takes
      have hleft : ∀ rest, readTerm (tokens ++ rest) = readAndTail left rest := ihLeft
      have hright : ∀ rest, readFactor (tokens' ++ rest) = .ok (right, rest) := ihRight
      intro rest
      rw [List.append_assoc, List.cons_append, hleft, readAndTail_and htoken, hright, Lib.ok_bind]
  | @term e tokens _ ih =>
      have hterm : ∀ rest, readTerm (tokens ++ rest) = readAndTail e rest := ih
      intro rest hrest
      rw [readExpr_eq, hterm, readAndTail_noAnd hrest, Lib.ok_bind]
  | @or token left right tokens tokens' htoken _ _ ihLeft ihRight =>
      -- no `and` may follow, or the right side would go on
      have hleft : ∀ rest, NoAnd rest → readExpr (tokens ++ rest) = readOrTail left rest := ihLeft
      have hright : ∀ rest, readTerm (tokens' ++ rest) = readAndTail right rest := ihRight
      have hnoAnd : ∀ rest, NoAnd (token :: rest) := by
        rintro rest token ⟨⟩
        rw [htoken]
        decide
      intro rest hrest
      rw [List.append_assoc, List.cons_append, hleft _ (hnoAnd _), readOrTail_or htoken, hright,
        readAndTail_noAnd hrest, Lib.ok_bind]

/-- A whole list of tokens that spells an expression reads as that expression. -/
theorem Spells.read {e : Expr} {tokens : List String} (h : Spells .expr e tokens) :
    readExpr tokens = .ok (e, []) := by
  have hreads : ∀ rest, NoAnd rest → readExpr (tokens ++ rest) = readOrTail e rest := h.reads
  have hall := hreads [] (by intro token htoken; cases htoken)
  rw [List.append_nil, readOrTail_nil] at hall
  exact hall

/-! ## What is read is spelled -/

/-- The exceptions of the parser. -/
def parseErrors : List PyError :=
  [.valueError "unexpected end of expression", .valueError "missing closing parenthesis",
    .valueError "invalid expression"]

/-- The result of a function on these tokens, with those before them that belong to the
expression: an exception, or an expression that the tokens taken spell. -/
def Continues (level : Level) (before tokens : List String) : Parsed → Prop
  | .ok (e, rest) => ∃ taken, tokens = taken ++ rest ∧ Spells level e (before ++ taken)
  | .error e => e ∈ parseErrors

theorem Continues.bind {level level' : Level} {before before' tokens tokens' : List String}
    {parsed : Parsed} {next : Expr × List String → Parsed}
    (h : Continues level before tokens parsed)
    (hnext : ∀ e taken rest, tokens = taken ++ rest → Spells level e (before ++ taken) →
      Continues level' before' tokens' (next (e, rest))) :
    Continues level' before' tokens' (parsed >>= next) := by
  rcases parsed with e | ⟨e, rest⟩
  · exact h
  · rcases h with ⟨taken, htokens, hspells⟩
    exact hnext e taken rest htokens hspells

/-- What a loop takes behind tokens of the same expression. -/
theorem Continues.after {level : Level} {before more rest : List String} {parsed : Parsed}
    (h : Continues level (before ++ more) rest parsed) :
    Continues level before (more ++ rest) parsed := by
  rcases parsed with e | ⟨e, left⟩
  · exact h
  · rcases h with ⟨taken, htaken, hspells⟩
    refine ⟨more ++ taken, ?_, ?_⟩
    · rw [htaken, List.append_assoc]
    · rw [← List.append_assoc]
      exact hspells

/-- Every expression takes a token. -/
theorem Spells.length_pos {level : Level} {e : Expr} {tokens : List String}
    (h : Spells level e tokens) : 0 < tokens.length := by
  induction h with
  | identifier => simp
  | not => simp
  | parens => simp
  | factor _ ih => exact ih
  | and =>
      rw [List.length_append, List.length_cons]
      omega
  | term _ ih => exact ih
  | or =>
      rw [List.length_append, List.length_cons]
      omega

/-- What the five functions take of these tokens. -/
structure Takes (tokens : List String) : Prop where
  factor : Continues .factor [] tokens (readFactor tokens)
  term : Continues .term [] tokens (readTerm tokens)
  expr : Continues .expr [] tokens (readExpr tokens)
  andTail : ∀ left before, Spells .term left before →
    Continues .term before tokens (readAndTail left tokens)
  orTail : ∀ left before, Spells .expr left before →
    Continues .expr before tokens (readOrTail left tokens)

section Takes

variable {tokens : List String}

theorem factor_takes (hless : ∀ fewer : List String, fewer.length < tokens.length → Takes fewer) :
    Continues .factor [] tokens (readFactor tokens) := by
  rcases tokens with _ | ⟨token, rest⟩
  · exact List.mem_cons_self
  · have hrest := hless rest (by simp)
    rw [readFactor_cons]
    split
    · -- `not`: the factor behind it is read from fewer tokens
      rename_i hnot
      apply hrest.factor.bind
      rintro e taken rest' rfl hspells
      exact ⟨token :: taken, rfl, .not hnot hspells⟩
    · rename_i hnot
      split
      · -- an expression in parentheses
        rename_i hparens
        apply hrest.expr.bind
        rintro e taken rest' rfl hspells
        unfold closeParens
        dsimp only
        split
        · refine ⟨token :: (taken ++ [")"]), by simp, ?_⟩
          rw [hparens]
          exact .parens hspells
        · simp [Continues, parseErrors]
      · rename_i hparens
        split
        · simp [Continues, parseErrors]
        · -- a name, for the operators and the closing bracket are excluded
          rename_i hother
          refine ⟨[token], rfl, .identifier ⟨hnot, ?_⟩⟩
          intro hmem
          rcases List.mem_cons.mp hmem with hopen | hmem
          · exact hparens hopen
          · exact hother hmem

theorem andTail_takes (hless : ∀ fewer : List String, fewer.length < tokens.length → Takes fewer)
    {left : Expr} {before : List String} (hleft : Spells .term left before) :
    Continues .term before tokens (readAndTail left tokens) := by
  rcases tokens with _ | ⟨token, rest⟩
  · exact ⟨[], rfl, by rw [List.append_nil]; exact hleft⟩
  · by_cases htoken : pyLower token = "and"
    · rw [readAndTail_and htoken]
      apply (hless rest (by simp)).factor.bind
      rintro right taken rest' rfl hright
      have hshort : rest'.length < (token :: (taken ++ rest')).length := by
        simp only [List.length_cons, List.length_append]
        omega
      exact ((hless rest' hshort).andTail (.and left right) (before ++ token :: taken)
        (.and htoken hleft hright)).after
    · rw [readAndTail_other htoken]
      exact ⟨[], rfl, by rw [List.append_nil]; exact hleft⟩

theorem orTail_takes (hless : ∀ fewer : List String, fewer.length < tokens.length → Takes fewer)
    {left : Expr} {before : List String} (hleft : Spells .expr left before) :
    Continues .expr before tokens (readOrTail left tokens) := by
  rcases tokens with _ | ⟨token, rest⟩
  · exact ⟨[], rfl, by rw [List.append_nil]; exact hleft⟩
  · by_cases htoken : pyLower token = "or"
    · rw [readOrTail_or htoken]
      apply (hless rest (by simp)).term.bind
      rintro right taken rest' rfl hright
      have hshort : rest'.length < (token :: (taken ++ rest')).length := by
        simp only [List.length_cons, List.length_append]
        omega
      exact ((hless rest' hshort).orTail (.or left right) (before ++ token :: taken)
        (.or htoken hleft hright)).after
    · rw [readOrTail_other htoken]
      exact ⟨[], rfl, by rw [List.append_nil]; exact hleft⟩

/-- What is left behind an expression is shorter. -/
theorem Spells.length_rest {level : Level} {e : Expr} {taken rest : List String}
    (h : Spells level e taken) : rest.length < (taken ++ rest).length := by
  have hpos := h.length_pos
  rw [List.length_append]
  omega

/-- By induction on the number of tokens. -/
theorem takes (tokens : List String) : Takes tokens := by
  induction hlength : tokens.length using Nat.strong_induction_on generalizing tokens with
  | _ n ih =>
    have hless : ∀ fewer : List String, fewer.length < tokens.length → Takes fewer := by
      intro fewer hfewer
      exact ih fewer.length (hlength ▸ hfewer) fewer rfl
    have hfactor := factor_takes hless
    have hterm : Continues .term [] tokens (readTerm tokens) := by
      rw [readTerm_eq]
      apply hfactor.bind
      rintro e taken rest rfl hspells
      exact ((hless rest hspells.length_rest).andTail e ([] ++ taken) (.factor hspells)).after
    have hexpr : Continues .expr [] tokens (readExpr tokens) := by
      rw [readExpr_eq]
      apply hterm.bind
      rintro e taken rest rfl hspells
      exact ((hless rest hspells.length_rest).orTail e ([] ++ taken) (.term hspells)).after
    exact ⟨hfactor, hterm, hexpr, fun _ _ => andTail_takes hless, fun _ _ => orTail_takes hless⟩

end Takes

/-- What is read to the end is spelled by the tokens, so the parser accepts the grammar. -/
theorem read_spells {e : Expr} {tokens : List String} :
    readExpr tokens = .ok (e, []) ↔ Spells .expr e tokens := by
  constructor
  · intro hread
    have htakes := (takes tokens).expr
    rw [hread] at htakes
    rcases htakes with ⟨taken, htokens, hspells⟩
    rw [List.append_nil] at htokens
    rw [htokens]
    exact hspells
  · exact Spells.read

/-! ## Minimal parentheses -/

/-- Parentheses where they are needed. -/
def parenthesized (needed : Bool) (tokens : List String) : List String :=
  if needed then "(" :: (tokens ++ [")"]) else tokens

/-- An expression in an operand of `or` (0: to its left, 1: to its right), of `and` (1 and 2) or
of `not` (2), with the parentheses that its place needs. -/
def Expr.minimalAt : Nat → Expr → List String
  | _, .identifier name => [name]
  | _, .not value => "not" :: value.minimalAt 2
  | place, .and left right =>
      parenthesized (1 < place) (left.minimalAt 1 ++ "and" :: right.minimalAt 2)
  | place, .or left right =>
      parenthesized (0 < place) (left.minimalAt 0 ++ "or" :: right.minimalAt 1)

/-- An expression with minimal parentheses. -/
def Expr.minimal (e : Expr) : List String := e.minimalAt 0

/-- A name that is neither a parenthesis nor an operator in any letter case. -/
def IsOperandName (name : String) : Prop :=
  name ∉ ["(", ")"] ∧ pyLower name ∉ ["and", "or", "not"]

theorem IsOperandName.operand {name : String} (h : IsOperandName name) : IsOperand name := by
  have hlower := h.2
  constructor
  · intro hnot
    apply hlower
    rw [hnot]
    decide
  · intro hmem
    simp only [List.mem_cons, List.not_mem_nil, or_false] at hmem
    rcases hmem with hopen | hclose | hand | hor
    · exact h.1 (by rw [hopen]; decide)
    · exact h.1 (by rw [hclose]; decide)
    · exact hlower (by rw [hand]; decide)
    · exact hlower (by rw [hor]; decide)

/-- The level of a place. -/
def levelAt : Nat → Level
  | 0 => .expr
  | 1 => .term
  | _ => .factor

theorem Spells.at {e : Expr} {tokens : List String} (h : Spells .factor e tokens) (place : Nat) :
    Spells (levelAt place) e tokens := by
  rcases place with _ | _ | place
  · exact .term (.factor h)
  · exact .factor h
  · exact h

/-- By induction on the expression: at each place, what is printed spells it. -/
theorem spells_minimalAt {e : Expr} (hnames : ∀ name ∈ e.names, IsOperandName name) (place : Nat) :
    Spells (levelAt place) e (e.minimalAt place) := by
  induction e generalizing place with
  | identifier name =>
      -- an operand needs no parentheses anywhere
      exact (Spells.identifier (hnames name List.mem_cons_self).operand).at place
  | not value ih =>
      exact (Spells.not (by decide) (ih hnames 2)).at place
  | and left right ihLeft ihRight =>
      have hleft := ihLeft (fun name h => hnames name (List.mem_append_left _ h)) 1
      have hright := ihRight (fun name h => hnames name (List.mem_append_right _ h)) 2
      have htoken : pyLower "and" = "and" := by decide
      have hand := Spells.and htoken hleft hright
      -- an `and` stands as it is in an `or`, or in its own left operand
      rcases place with _ | _ | place
      · exact .term hand
      · exact hand
      · exact .parens (.term hand)
  | or left right ihLeft ihRight =>
      have hleft := ihLeft (fun name h => hnames name (List.mem_append_left _ h)) 0
      have hright := ihRight (fun name h => hnames name (List.mem_append_right _ h)) 1
      have htoken : pyLower "or" = "or" := by decide
      have hor := Spells.or htoken hleft hright
      -- an `or` stands as it is at the top only
      rcases place with _ | _ | place
      · exact hor
      · exact .factor (.parens hor)
      · exact .parens hor

/-- A call returns or raises: with an expression and strictly fewer tokens, a suffix of those it
got, or with one of the three `ValueError`s. -/
def Advances (tokens : List String) : Parsed → Prop
  | .ok (_, rest) => rest.length < tokens.length ∧ rest <:+ tokens
  | .error e => e ∈ parseErrors

theorem Continues.advances {level : Level} {tokens : List String} {parsed : Parsed}
    (h : Continues level [] tokens parsed) : Advances tokens parsed := by
  rcases parsed with e | ⟨e, rest⟩
  · exact h
  · rcases h with ⟨taken, rfl, hspells⟩
    exact ⟨hspells.length_rest, List.suffix_append _ _⟩

/-- An expression printed with minimal parentheses is read to the end, as that expression; and
on every list of tokens each of the three functions returns an expression and moves forward, or
raises a `ValueError`. -/
theorem minimal_read :
    (∀ e : Expr, (∀ name ∈ e.names, IsOperandName name) →
      parseExpr (3 * e.minimal.length + 3) e.minimal = .ok (e, [])) ∧
    ∀ tokens : List String,
      Advances tokens (parseExpr (3 * tokens.length + 3) tokens) ∧
      Advances tokens (parseTerm (3 * tokens.length + 2) tokens) ∧
      Advances tokens (parseFactor (3 * tokens.length + 1) tokens) := by
  constructor
  · intro e hnames
    exact (spells_minimalAt hnames 0).read
  · intro tokens
    have htakes := takes tokens
    exact ⟨htakes.expr.advances, htakes.term.advances, htakes.factor.advances⟩

/-- `not (owner or viewer) and member and not banned`. -/
def membersOnly : Expr :=
  .and (.and (.not (.or (.identifier "owner") (.identifier "viewer"))) (.identifier "member"))
    (.not (.identifier "banned"))

theorem membersOnly_read :
    membersOnly.minimal =
      ["not", "(", "owner", "or", "viewer", ")", "and", "member", "and", "not", "banned"] ∧
    parseExpr (3 * membersOnly.minimal.length + 3) membersOnly.minimal = .ok (membersOnly, []) := by
  constructor
  · decide
  · apply minimal_read.1 membersOnly
    intro name hname
    have hnames : ∀ name ∈ membersOnly.names, name ∉ ["(", ")"] ∧
        pyLower name ∉ ["and", "or", "not"] := by decide
    exact hnames name hname

end KeyNetra
