import KeyNetra.Lib.Text
import KeyNetra.Modeling.Grammar

/-!
# KeyNetra.Modeling.PermissionText — the text of a permission

A permission's expression written out with every operator application in parentheses, and any
run of spaces or tabs between two tokens. Two kinds of texts are refused:

* those with a tab, which the tokenizer skips and the check for lost characters then misses;
* those with an identifier such as `not-banned`, cut behind the operator it starts with.

`parsePermission_iff` says that all others are read, and as what was written. As for the
grammar, the interpreter's limit on the depth of the recursion is left out.
-/

namespace KeyNetra

/-! ## Texts of an expression -/

/-- The operators, as the tokenizer has them. -/
def operators : List String := ["and", "or", "not"]

/-- `[A-Za-z_][A-Za-z0-9_:-]*`, but no operator in any letter case. -/
structure IsIdentifier (name : String) : Prop where
  nonempty : name.toList ≠ []
  start : isNameStart (name.toList.head nonempty) = true
  chars : ∀ c ∈ name.toList, isNameChar c = true
  word : pyLower name ∉ operators

/-- The tokens of an expression with every operator application in parentheses. -/
def Expr.rendered : Expr → List String
  | .identifier name => [name]
  | .not value => "(" :: "not" :: (value.rendered ++ [")"])
  | .and left right => "(" :: (left.rendered ++ "and" :: (right.rendered ++ [")"]))
  | .or left right => "(" :: (left.rendered ++ "or" :: (right.rendered ++ [")"]))

/-- A non-empty run of spaces or tabs. -/
structure IsGap (gap : List Char) : Prop where
  nonempty : gap ≠ []
  blank : ∀ c ∈ gap, c = ' ' ∨ c = '\t'

/-- The text has these tokens, with a gap between any two. -/
inductive Spaced : List String → List Char → Prop where
  | single (token : String) : Spaced [token] token.toList
  | cons (token : String) {gap : List Char} {tokens : List String} {text : List Char}
      (hgap : IsGap gap) (rest : Spaced tokens text) :
      Spaced (token :: tokens) (token.toList ++ (gap ++ text))

/-- The name starts with an operator that a `:` or a `-` ends. -/
def HidesOperator (name : String) : Prop :=
  ∃ operator ∈ operators, ∃ c ∈ [':', '-'],
    operator.toList ++ [c] <+: name.toList

/-! ## Characters of tokens -/

/-- A character of some token. -/
def isTokenChar (c : Char) : Bool := c == '(' || c == ')' || isNameChar c

theorem isTokenChar_of_name {c : Char} (h : isNameChar c = true) : isTokenChar c = true := by
  unfold isTokenChar
  rw [h, Bool.or_true]

theorem isNameChar_of_start {c : Char} (h : isNameStart c = true) : isNameChar c = true := by
  unfold isNameStart at h
  unfold isNameChar Char.isAlphanum
  simp only [Bool.or_eq_true] at h ⊢
  rcases h with halpha | hunderscore
  · exact .inl (.inl (.inl (.inl halpha)))
  · exact .inl (.inl (.inr hunderscore))

/-- Every character of a token is printed ASCII. -/
theorem tokenChar_range {c : Char} (h : isTokenChar c = true) : 33 ≤ c.toNat ∧ c.toNat < 127 := by
  unfold isTokenChar isNameChar Char.isAlphanum Char.isAlpha Char.isUpper Char.isLower
    Char.isDigit at h
  simp only [Bool.or_eq_true, beq_iff_eq, Bool.and_eq_true, decide_eq_true_eq,
    UInt32.le_iff_toNat_le, ge_iff_le] at h
  change (c = '(' ∨ c = ')') ∨ (((((65 ≤ c.toNat ∧ c.toNat ≤ 90) ∨
    (97 ≤ c.toNat ∧ c.toNat ≤ 122)) ∨ (48 ≤ c.toNat ∧ c.toNat ≤ 57)) ∨ c = '_') ∨ c = ':') ∨
      c = '-' at h
  rcases h with (rfl | rfl) | (((hletter | hdigit) | rfl) | rfl) | rfl
  · decide
  · decide
  · omega
  · omega
  · decide
  · decide
  · decide

theorem not_space_of_tokenChar {c : Char} (h : isTokenChar c = true) : isPySpace c = false := by
  have hrange := tokenChar_range h
  simp only [isPySpace, Bool.or_eq_false_iff, Bool.and_eq_false_iff, decide_eq_false_iff_not,
    beq_eq_false_iff_ne]
  omega

theorem IsGap.space {gap : List Char} (h : IsGap gap) : ∀ c ∈ gap, isPySpace c = true := by
  intro c hc
  rcases h.blank c hc with rfl | rfl
  · decide
  · decide

/-! ## Stripping -/

theorem dropWhile_of_head {cs : List Char} (h : ∀ c ∈ cs.head?, isPySpace c = false) :
    cs.dropWhile isPySpace = cs := by
  rcases cs with _ | ⟨c, cs⟩
  · rfl
  · rw [List.dropWhile_cons_of_neg]
    rw [h c rfl]
    exact Bool.false_ne_true

/-- Stripping takes the spaces off both ends, and no more. -/
theorem stripChars_pad {before cs after : List Char} (hbefore : ∀ c ∈ before, isPySpace c = true)
    (hafter : ∀ c ∈ after, isPySpace c = true) (hhead : ∀ c ∈ cs.head?, isPySpace c = false)
    (hlast : ∀ c ∈ cs.getLast?, isPySpace c = false) (hne : cs ≠ []) :
    stripChars (before ++ (cs ++ after)) = cs := by
  have hhead' : ∀ c ∈ (cs ++ after).head?, isPySpace c = false := by
    rw [List.head?_append_of_ne_nil _ hne]
    exact hhead
  have hlast' : ∀ c ∈ cs.reverse.head?, isPySpace c = false := by
    rw [List.head?_reverse]
    exact hlast
  have hafter' : ∀ c ∈ after.reverse, isPySpace c = true := by
    intro c hc
    exact hafter c (List.mem_reverse.mp hc)
  unfold stripChars
  rw [List.dropWhile_append_of_pos hbefore, dropWhile_of_head hhead', List.reverse_append,
    List.dropWhile_append_of_pos hafter', dropWhile_of_head hlast', List.reverse_reverse]

theorem head_dropWhile (cs : List Char) :
    ∀ c ∈ (cs.dropWhile isPySpace).head?, isPySpace c = false := by
  induction cs with
  | nil =>
      intro c hc
      cases hc
  | cons d cs ih =>
      by_cases hd : isPySpace d = true
      · rw [List.dropWhile_cons_of_pos hd]
        exact ih
      · rw [List.dropWhile_cons_of_neg hd]
        rintro c ⟨⟩
        exact Bool.eq_false_iff.mpr hd

/-- What `strip` takes off a text: spaces before it and spaces behind it. -/
theorem stripChars_split (cs : List Char) : ∃ before after,
    (∀ c ∈ before, isPySpace c = true) ∧ (∀ c ∈ after, isPySpace c = true) ∧
      cs = before ++ (stripChars cs ++ after) := by
  refine ⟨cs.takeWhile isPySpace,
    ((cs.dropWhile isPySpace).reverse.takeWhile isPySpace).reverse, ?_, ?_, ?_⟩
  · exact List.all_eq_true.mp List.all_takeWhile
  · intro c hc
    exact List.all_eq_true.mp List.all_takeWhile c (List.mem_reverse.mp hc)
  · unfold stripChars
    rw [← List.reverse_append, List.takeWhile_append_dropWhile, List.reverse_reverse,
      List.takeWhile_append_dropWhile]

/-- A stripped text has no space at its end. -/
theorem stripChars_last (cs : List Char) :
    ∀ c ∈ (stripChars cs).getLast?, isPySpace c = false := by
  unfold stripChars
  rw [List.getLast?_reverse]
  exact head_dropWhile _

/-- A stripped text has no space at its start. -/
theorem stripChars_head (cs : List Char) :
    ∀ c ∈ (stripChars cs).head?, isPySpace c = false := by
  have hhead := head_dropWhile cs
  rcases hstripped : stripChars cs with _ | ⟨c, rest⟩
  · intro c hc
    cases hc
  · -- what is left at the start was there before the spaces at the end went
    have hsplit : cs.dropWhile isPySpace = stripChars cs ++
        ((cs.dropWhile isPySpace).reverse.takeWhile isPySpace).reverse := by
      unfold stripChars
      rw [← List.reverse_append, List.takeWhile_append_dropWhile, List.reverse_reverse]
    rw [hsplit, hstripped] at hhead
    exact hhead

/-! ## One token -/

/-- Nothing that could belong to the token before comes next. -/
def EndsToken (rest : List Char) : Prop := ∀ c ∈ rest.head?, isPySpace c = true

/-- A token that the tokenizer finds where it stands. -/
structure IsScanned (token : String) : Prop where
  nonempty : token.toList ≠ []
  chars : ∀ c ∈ token.toList, isTokenChar c = true
  found : ∀ rest, EndsToken rest → matchToken (token.toList ++ rest) = some (token.toList, rest)

theorem isNameChar_of_word {c : Char} (h : isWordChar c = true) : isNameChar c = true := by
  unfold isWordChar at h
  unfold isNameChar
  rw [h, Bool.true_or, Bool.true_or]

theorem EndsToken.not_name {rest : List Char} (h : EndsToken rest) :
    ∀ c ∈ rest.head?, isNameChar c = false := by
  intro c hc
  by_contra hname
  rw [Bool.not_eq_false] at hname
  have hspace := h c hc
  rw [not_space_of_tokenChar (isTokenChar_of_name hname)] at hspace
  exact Bool.false_ne_true hspace

theorem EndsToken.boundary {rest : List Char} (h : EndsToken rest) :
    ¬ rest.head?.any isWordChar = true := by
  intro hword
  have ⟨c, hc, hc'⟩ := (Option.any_eq_true _ _).mp hword
  have hname := h.not_name c hc
  rw [isNameChar_of_word hc'] at hname
  exact Bool.false_ne_true hname.symm

/-- An operator is a whole token when a gap follows. -/
theorem matchKeyword_self (keyword : List Char) {rest : List Char} (hrest : EndsToken rest) :
    matchKeyword keyword (keyword ++ rest) = some (keyword, rest) := by
  have hstart : keyword.isPrefixOf (keyword ++ rest) = true :=
    List.isPrefixOf_iff_prefix.mpr (List.prefix_append _ _)
  unfold matchKeyword
  rw [if_pos hstart, List.drop_left]
  exact if_neg hrest.boundary

/-- A name character is a word character, or `:` or `-`. -/
theorem isWordChar_or {c : Char} (h : isNameChar c = true) : isWordChar c = true ∨ c ∈ [':', '-'] := by
  unfold isNameChar at h
  unfold isWordChar
  simp only [Bool.or_eq_true, beq_iff_eq] at h ⊢
  rcases h with (hword | rfl) | rfl
  · exact .inl hword
  · exact .inr List.mem_cons_self
  · exact .inr (List.mem_cons_of_mem _ List.mem_cons_self)

/-- No operator is cut off a name that does not start with one and a `:` or `-`. -/
theorem matchKeyword_none {keyword name rest : List Char}
    (hkeyword : ∀ c ∈ keyword, isNameChar c = true) (hname : ∀ c ∈ name, isNameChar c = true)
    (hne : name ≠ keyword) (hhides : ∀ c ∈ [':', '-'], ¬ keyword ++ [c] <+: name)
    (hrest : EndsToken rest) : matchKeyword keyword (name ++ rest) = none := by
  unfold matchKeyword
  split
  · rename_i hstart
    rw [List.isPrefixOf_iff_prefix] at hstart
    rcases List.prefix_or_prefix_of_prefix hstart (List.prefix_append name rest) with hin | hin
    · -- the name goes on behind the operator
      rcases hin with ⟨more, rfl⟩
      rcases more with _ | ⟨c, more⟩
      · exact absurd (List.append_nil keyword) hne
      · rcases isWordChar_or (hname c (by simp)) with hword | hpunct
        · rw [List.append_assoc, List.drop_left]
          exact if_pos hword
        · refine absurd ?_ (hhides c hpunct)
          rw [List.prefix_append_right_inj]
          exact ⟨more, rfl⟩
    · -- the operator goes on behind the name: its next letter would be a space
      rcases hin with ⟨more, rfl⟩
      rcases more with _ | ⟨c, more⟩
      · exact absurd (List.append_nil name).symm hne
      · rw [List.prefix_append_right_inj] at hstart
        rcases hstart with ⟨rest', rfl⟩
        have hc := hrest.not_name c rfl
        rw [hkeyword c (by simp)] at hc
        exact absurd hc.symm Bool.false_ne_true
  · rfl

theorem parens_scanned {c : Char} (h : c = '(' ∨ c = ')') : IsScanned (String.ofList [c]) where
  nonempty := by simp
  chars := by
    intro d hd
    rw [String.toList_ofList, List.mem_singleton] at hd
    rcases h with rfl | rfl
    · rw [hd]
      decide
    · rw [hd]
      decide
  found := by
    intro rest _
    rw [String.toList_ofList, List.singleton_append]
    exact if_pos h

theorem takeWhile_name {name rest : List Char} (hname : ∀ c ∈ name, isNameChar c = true)
    (hrest : EndsToken rest) :
    (name ++ rest).takeWhile isNameChar = name ∧ (name ++ rest).dropWhile isNameChar = rest := by
  rw [List.takeWhile_append_of_pos hname, List.dropWhile_append_of_pos hname]
  rcases rest with _ | ⟨c, rest⟩
  · exact ⟨List.append_nil _, rfl⟩
  · have hc : ¬ isNameChar c = true := by
      rw [hrest.not_name c rfl]
      exact Bool.false_ne_true
    rw [List.takeWhile_cons_of_neg hc, List.dropWhile_cons_of_neg hc]
    exact ⟨List.append_nil _, rfl⟩

/-- A token that starts with a name character: an operator, or a name. -/
theorem matchToken_word {word rest : List Char} (hne : word ≠ [])
    (hword : ∀ c ∈ word, isNameChar c = true) (hrest : EndsToken rest) :
    matchToken (word ++ rest) =
      (matchKeyword "and".toList (word ++ rest)).or ((matchKeyword "or".toList (word ++ rest)).or
        ((matchKeyword "not".toList (word ++ rest)).or
          (if isNameStart (word.head hne) then some (word, rest) else none))) := by
  have ⟨htake, hdrop⟩ := takeWhile_name hword hrest
  rcases word with _ | ⟨c, word⟩
  · exact absurd rfl hne
  · have hc : isNameChar c = true := hword c List.mem_cons_self
    have hparens : ¬ (c = '(' ∨ c = ')') := by
      rintro (rfl | rfl)
      · exact absurd hc (by decide)
      · exact absurd hc (by decide)
    rw [List.cons_append, List.takeWhile_cons_of_pos hc, List.cons.injEq] at htake
    rw [List.cons_append, List.dropWhile_cons_of_pos hc] at hdrop
    rw [List.cons_append, matchToken, if_neg hparens, htake.2, hdrop, List.head_cons]

theorem operator_chars {operator : String} (h : operator ∈ operators) :
    ∀ c ∈ operator.toList, isNameChar c = true := by
  have hall : ∀ operator ∈ operators, ∀ c ∈ operator.toList, isNameChar c = true := by decide
  exact hall operator h

theorem IsIdentifier.ne_operator {name : String} (h : IsIdentifier name) :
    name ∉ operators := by
  intro hmem
  apply h.word
  have hall : ∀ operator ∈ operators, pyLower operator ∈ operators := by decide
  exact hall name hmem

theorem IsIdentifier.scanned {name : String} (h : IsIdentifier name)
    (hhides : ¬ HidesOperator name) : IsScanned name where
  nonempty := h.nonempty
  chars := fun c hc => isTokenChar_of_name (h.chars c hc)
  found := by
    intro rest hrest
    have hkeyword : ∀ operator ∈ operators,
        matchKeyword operator.toList (name.toList ++ rest) = none := by
      intro operator hoperator
      apply matchKeyword_none (operator_chars hoperator) h.chars _ _ hrest
      · intro hname
        exact h.ne_operator (String.toList_inj.mp hname ▸ hoperator)
      · intro c hc hstart
        exact hhides ⟨operator, hoperator, c, hc, hstart⟩
    rw [matchToken_word h.nonempty h.chars hrest, hkeyword "and" (by decide),
      hkeyword "or" (by decide), hkeyword "not" (by decide), if_pos h.start]
    rfl

theorem operator_nonempty {operator : String} (h : operator ∈ operators) :
    operator.toList ≠ [] := by
  have hall : ∀ operator ∈ operators, operator.toList ≠ [] := by decide
  exact hall operator h

/-- No operator starts with another one. -/
theorem matchKeyword_other {operator other : String} (h : operator ∈ operators)
    (hother : other ∈ operators) (hne : operator ≠ other) {rest : List Char}
    (hrest : EndsToken rest) : matchKeyword other.toList (operator.toList ++ rest) = none := by
  have hhides : ∀ operator ∈ operators, ∀ other ∈ operators, ∀ c ∈ [':', '-'],
      ¬ other.toList ++ [c] <+: operator.toList := by decide
  apply matchKeyword_none (operator_chars hother) (operator_chars h) _ _ hrest
  · intro hsame
    exact hne (String.toList_inj.mp hsame)
  · exact hhides operator h other hother

theorem operator_scanned {operator : String} (h : operator ∈ operators) : IsScanned operator where
  nonempty := operator_nonempty h
  chars := fun c hc => isTokenChar_of_name (operator_chars h c hc)
  found := by
    intro rest hrest
    have hself := matchKeyword_self operator.toList hrest
    have hother : ∀ other ∈ operators, operator ≠ other →
        matchKeyword other.toList (operator.toList ++ rest) = none :=
      fun other hother hne => matchKeyword_other h hother hne hrest
    rw [matchToken_word (operator_nonempty h) (operator_chars h) hrest]
    simp only [operators, List.mem_cons, List.not_mem_nil, or_false] at h
    rcases h with rfl | rfl | rfl
    · rw [hself]
      rfl
    · rw [hother "and" (by decide) (by decide), hself]
      rfl
    · rw [hother "and" (by decide) (by decide), hother "or" (by decide) (by decide), hself]
      rfl

/-- An operator at the start of a name is cut off, and the `:` or `-` behind it starts no token. -/
theorem matchToken_hidden {operator : String} (hoperator : operator ∈ operators) {c : Char}
    (hc : c ∈ [':', '-']) (rest : List Char) :
    matchToken (operator.toList ++ c :: rest) = some (operator.toList, c :: rest) ∧
      matchToken (c :: rest) = none := by
  simp only [operators, List.mem_cons, List.not_mem_nil, or_false] at hoperator hc
  rcases hoperator with rfl | rfl | rfl
  · rcases hc with rfl | rfl
    · exact ⟨rfl, rfl⟩
    · exact ⟨rfl, rfl⟩
  · rcases hc with rfl | rfl
    · exact ⟨rfl, rfl⟩
    · exact ⟨rfl, rfl⟩
  · rcases hc with rfl | rfl
    · exact ⟨rfl, rfl⟩
    · exact ⟨rfl, rfl⟩

/-! ## A whole text -/

theorem scanTokens_nil (fuel : Nat) : scanTokens fuel [] = [] := by
  rcases fuel with _ | fuel
  · rfl
  · rfl

/-- A gap is skipped. -/
theorem scanTokens_gap {gap : List Char} (hgap : ∀ c ∈ gap, isPySpace c = true) (fuel : Nat)
    (cs : List Char) : scanTokens fuel (gap ++ cs) = scanTokens fuel cs := by
  rcases fuel with _ | fuel
  · rfl
  · rw [scanTokens, scanTokens, List.dropWhile_append_of_pos hgap]

/-- A token where the text stands is taken. -/
theorem scanTokens_found {token rest : List Char} (hne : token ≠ [])
    (hchars : ∀ c ∈ token, isTokenChar c = true)
    (hfound : matchToken (token ++ rest) = some (token, rest)) (fuel : Nat) :
    scanTokens (fuel + 1) (token ++ rest) = token :: scanTokens fuel rest := by
  have hhead : ∀ c ∈ (token ++ rest).head?, isPySpace c = false := by
    rw [List.head?_append_of_ne_nil _ hne]
    intro c hc
    exact not_space_of_tokenChar (hchars c (List.mem_of_mem_head? hc))
  rcases hcs : token ++ rest with _ | ⟨c, cs⟩
  · exact absurd (List.append_eq_nil_iff.mp hcs).1 hne
  · rw [hcs] at hhead hfound
    rw [scanTokens, dropWhile_of_head hhead]
    dsimp only
    rw [hfound]

/-- A gap, or nothing, ends a token. -/
theorem IsGap.ends {gap : List Char} (h : IsGap gap) (text : List Char) :
    EndsToken (gap ++ text) := by
  intro c hc
  rw [List.head?_append_of_ne_nil _ h.nonempty] at hc
  exact h.space c (List.mem_of_mem_head? hc)

theorem endsToken_nil : EndsToken [] := by
  intro c hc
  cases hc

section Text

variable {tokens : List String} {text : List Char}

/-- The tokens of a text are found one after another. -/
theorem Spaced.scan (h : Spaced tokens text) (hscanned : ∀ token ∈ tokens, IsScanned token)
    {fuel : Nat} (hfuel : tokens.length ≤ fuel) :
    scanTokens fuel text = tokens.map String.toList := by
  induction h generalizing fuel with
  | single token =>
      have htoken := hscanned token List.mem_cons_self
      have hfound := htoken.found [] endsToken_nil
      rcases fuel with _ | fuel
      · exact absurd hfuel (by simp)
      · have hscan := scanTokens_found htoken.nonempty htoken.chars hfound fuel
        rw [List.append_nil, scanTokens_nil] at hscan
        exact hscan
  | @cons token gap tokens text hgap _ ih =>
      have htoken := hscanned token List.mem_cons_self
      have hfound := htoken.found (gap ++ text) (hgap.ends text)
      rcases fuel with _ | fuel
      · exact absurd hfuel (by simp)
      · have hrest := ih (fun token h => hscanned token (List.mem_cons_of_mem _ h))
          (Nat.le_of_succ_le_succ hfuel)
        rw [scanTokens_found htoken.nonempty htoken.chars hfound, scanTokens_gap hgap.space, hrest]
        rfl

/-- How many characters are not spaces. -/
def inked (cs : List Char) : Nat := cs.countP fun c => !isPySpace c

theorem inked_append (cs cs' : List Char) : inked (cs ++ cs') = inked cs + inked cs' :=
  List.countP_append

theorem inked_of_space {gap : List Char} (h : ∀ c ∈ gap, isPySpace c = true) : inked gap = 0 := by
  unfold inked
  rw [List.countP_eq_zero]
  intro c hc
  rw [h c hc]
  exact Bool.false_ne_true

theorem inked_of_token {token : List Char} (h : ∀ c ∈ token, isTokenChar c = true) :
    inked token = token.length := by
  unfold inked
  rw [List.countP_eq_length]
  intro c hc
  rw [not_space_of_tokenChar (h c hc)]
  rfl

theorem inked_dropWhile (cs : List Char) : inked (cs.dropWhile isPySpace) = inked cs := by
  have hsplit := inked_append (cs.takeWhile isPySpace) (cs.dropWhile isPySpace)
  have hspace : inked (cs.takeWhile isPySpace) = 0 :=
    inked_of_space fun c hc => List.all_eq_true.mp List.all_takeWhile _ hc
  rw [List.takeWhile_append_dropWhile, hspace] at hsplit
  omega

theorem matchKeyword_some {keyword cs token rest : List Char}
    (h : matchKeyword keyword cs = some (token, rest)) : token = keyword ∧ cs = token ++ rest := by
  unfold matchKeyword at h
  split at h
  · rename_i hstart
    dsimp only at h
    split at h
    · cases h
    · rcases h with ⟨⟩
      exact ⟨rfl, (List.prefix_iff_eq_append.mp (List.isPrefixOf_iff_prefix.mp hstart)).symm⟩
  · cases h

/-- A token is the start of the text it is found in. -/
theorem matchToken_some {cs token rest : List Char} (h : matchToken cs = some (token, rest)) :
    cs = token ++ rest ∧ ∀ c ∈ token, isTokenChar c = true := by
  -- the three operators are matched in the same way
  have hkeyword : ∀ operator ∈ operators, matchKeyword operator.toList cs = some (token, rest) →
      cs = token ++ rest ∧ ∀ c ∈ token, isTokenChar c = true := by
    intro operator hoperator hmatch
    have ⟨htoken, hsplit⟩ := matchKeyword_some hmatch
    refine ⟨hsplit, ?_⟩
    intro c hc
    rw [htoken] at hc
    exact isTokenChar_of_name (operator_chars hoperator c hc)
  rcases cs with _ | ⟨c, cs⟩
  · cases h
  · rw [matchToken] at h
    split at h
    · rename_i hparens
      rcases h with ⟨⟩
      refine ⟨rfl, ?_⟩
      intro d hd
      rw [List.mem_singleton] at hd
      rcases hparens with rfl | rfl
      · rw [hd]
        decide
      · rw [hd]
        decide
    · rw [Option.or_eq_some_iff, Option.or_eq_some_iff, Option.or_eq_some_iff] at h
      rcases h with hand | ⟨_, hor | ⟨_, hnot | ⟨_, hname⟩⟩⟩
      · exact hkeyword "and" (by decide) hand
      · exact hkeyword "or" (by decide) hor
      · exact hkeyword "not" (by decide) hnot
      · -- a name, as far as its characters go
        split at hname
        · rename_i hstart
          rcases hname with ⟨⟩
          refine ⟨by rw [List.cons_append, List.takeWhile_append_dropWhile], ?_⟩
          intro d hd
          rcases List.mem_cons.mp hd with rfl | hd
          · exact isTokenChar_of_name (isNameChar_of_start hstart)
          · exact isTokenChar_of_name (List.all_eq_true.mp List.all_takeWhile _ hd)
        · cases hname

/-- Tokens are made of token characters. -/
theorem scanTokens_chars (fuel : Nat) (cs : List Char) :
    ∀ c ∈ (scanTokens fuel cs).flatten, isTokenChar c = true := by
  induction fuel generalizing cs with
  | zero =>
      intro c hc
      cases hc
  | succ fuel ih =>
      intro c hc
      rw [scanTokens] at hc
      rcases hrest : cs.dropWhile isPySpace with _ | ⟨d, rest⟩
      · rw [hrest] at hc
        cases hc
      · rw [hrest] at hc
        dsimp only at hc
        rcases hfound : matchToken (d :: rest) with _ | ⟨token, rest'⟩
        · rw [hfound] at hc
          exact ih rest c hc
        · rw [hfound] at hc
          rcases List.mem_append.mp hc with htoken | hlater
          · exact (matchToken_some hfound).2 c htoken
          · exact ih rest' c hlater

/-- Tokens hold no more characters than the text does, spaces left out. -/
theorem scanTokens_le (fuel : Nat) (cs : List Char) :
    (scanTokens fuel cs).flatten.length ≤ inked cs := by
  induction fuel generalizing cs with
  | zero => exact Nat.zero_le _
  | succ fuel ih =>
      rw [scanTokens, ← inked_dropWhile cs]
      rcases cs.dropWhile isPySpace with _ | ⟨c, rest⟩
      · exact Nat.zero_le _
      · dsimp only
        rcases hfound : matchToken (c :: rest) with _ | ⟨token, rest'⟩
        · have hcons := inked_append [c] rest
          have hrest := ih rest
          rw [List.singleton_append] at hcons
          dsimp only
          omega
        · have ⟨hsplit, hchars⟩ := matchToken_some hfound
          have hrest := ih rest'
          dsimp only
          rw [hsplit, inked_append, inked_of_token hchars, List.flatten_cons, List.length_append]
          omega

/-- A hidden operator is cut off with the loss of the character behind it. -/
theorem scanTokens_hidden {name : String} (h : HidesOperator name) (rest : List Char) (fuel : Nat) :
    (scanTokens (fuel + 1) (name.toList ++ rest)).flatten.length <
      inked (name.toList ++ rest) := by
  rcases h with ⟨operator, hoperator, c, hc, more, hname⟩
  -- the operator is found where the identifier starts, and nothing at the character behind it
  have ⟨hfound, hnone⟩ := matchToken_hidden hoperator hc (more ++ rest)
  have hchars : ∀ d ∈ operator.toList, isTokenChar d = true :=
    fun d hd => isTokenChar_of_name (operator_chars hoperator d hd)
  have hink : isTokenChar c = true := by
    have hall : ∀ c ∈ [':', '-'], isTokenChar c = true := by decide
    exact hall c hc
  have hcut : name.toList ++ rest = operator.toList ++ c :: (more ++ rest) := by
    rw [← hname]
    simp
  -- that character is lost, so what follows yields no more than it holds
  have hloss : (scanTokens fuel (c :: (more ++ rest))).flatten.length ≤ inked (more ++ rest) := by
    rcases fuel with _ | fuel
    · exact Nat.zero_le _
    · rw [scanTokens, List.dropWhile_cons_of_neg (by rw [not_space_of_tokenChar hink]; decide)]
      dsimp only
      rw [hnone]
      exact scanTokens_le fuel _
  have hone : inked (c :: (more ++ rest)) = inked (more ++ rest) + 1 := by
    unfold inked
    rw [List.countP_cons_of_pos]
    rw [not_space_of_tokenChar hink]
    rfl
  rw [hcut, scanTokens_found (operator_nonempty hoperator) hchars hfound, List.flatten_cons,
    List.length_append, inked_append, inked_of_token hchars, hone]
  omega

/-- So a text with such a name loses a character. -/
theorem Spaced.loses (h : Spaced tokens text)
    (hall : ∀ token ∈ tokens, IsScanned token ∨ HidesOperator token)
    (hhides : ∃ token ∈ tokens, HidesOperator token) {fuel : Nat} (hfuel : tokens.length ≤ fuel) :
    (scanTokens fuel text).flatten.length < inked text := by
  induction h generalizing fuel with
  | single token =>
      rcases hhides with ⟨token', htoken, hhides⟩
      rw [List.mem_singleton] at htoken
      rcases fuel with _ | fuel
      · exact absurd hfuel (by simp)
      · have hloss := scanTokens_hidden (htoken ▸ hhides) [] fuel
        rw [List.append_nil] at hloss
        exact hloss
  | @cons token gap tokens text hgap _ ih =>
      rcases fuel with _ | fuel
      · exact absurd hfuel (by simp)
      · -- the token is lost here, or it is found and the loss comes later
        by_cases hhead : HidesOperator token
        · exact scanTokens_hidden hhead _ fuel
        · have htoken := (hall token List.mem_cons_self).resolve_right hhead
          have hfound := htoken.found (gap ++ text) (hgap.ends text)
          have hlater : ∃ token ∈ tokens, HidesOperator token := by
            rcases hhides with ⟨token', hmem, hhides⟩
            rcases List.mem_cons.mp hmem with rfl | hmem
            · exact absurd hhides hhead
            · exact ⟨token', hmem, hhides⟩
          have hrest := ih (fun token h => hall token (List.mem_cons_of_mem _ h)) hlater
            (Nat.le_of_succ_le_succ hfuel)
          rw [scanTokens_found htoken.nonempty htoken.chars hfound, scanTokens_gap hgap.space,
            List.flatten_cons, List.length_append, inked_append, inked_append,
            inked_of_token htoken.chars, inked_of_space hgap.space]
          omega

theorem Spaced.length_le (h : Spaced tokens text)
    (hne : ∀ token ∈ tokens, token.toList ≠ []) : tokens.length ≤ text.length := by
  have hpos : ∀ token ∈ tokens, 0 < token.toList.length :=
    fun token htoken => List.length_pos_iff.mpr (hne token htoken)
  induction h with
  | single token => exact hpos token List.mem_cons_self
  | @cons token gap tokens text hgap _ ih =>
      have htoken := hpos token List.mem_cons_self
      have hrest := ih (fun token h => hne token (List.mem_cons_of_mem _ h))
        (fun token h => hpos token (List.mem_cons_of_mem _ h))
      simp only [List.length_cons, List.length_append]
      omega

/-- A text of tokens starts and ends with a token character. -/
theorem Spaced.ends (h : Spaced tokens text) (hne : ∀ token ∈ tokens, token.toList ≠ [])
    (hchars : ∀ token ∈ tokens, ∀ c ∈ token.toList, isTokenChar c = true) :
    text ≠ [] ∧ (∀ c ∈ text.head?, isPySpace c = false) ∧
      ∀ c ∈ text.getLast?, isPySpace c = false := by
  induction h with
  | single token =>
      -- one token alone
      have htoken := hchars token List.mem_cons_self
      refine ⟨hne token List.mem_cons_self, ?_, ?_⟩
      · intro c hc
        exact not_space_of_tokenChar (htoken c (List.mem_of_mem_head? hc))
      · intro c hc
        exact not_space_of_tokenChar (htoken c (List.mem_of_mem_getLast? hc))
  | @cons token gap tokens text hgap _ ih =>
      have htoken := hchars token List.mem_cons_self
      have htokenNe := hne token List.mem_cons_self
      have ⟨htextNe, _, hlast⟩ := ih (fun token h => hne token (List.mem_cons_of_mem _ h))
        (fun token h => hchars token (List.mem_cons_of_mem _ h))
      refine ⟨?_, ?_, ?_⟩
      · -- a gap stands between two tokens, so neither end is blank
        intro hnil
        exact htokenNe (List.append_eq_nil_iff.mp hnil).1
      · intro c hc
        rw [List.head?_append_of_ne_nil _ htokenNe] at hc
        exact not_space_of_tokenChar (htoken c (List.mem_of_mem_head? hc))
      · intro c hc
        rw [List.getLast?_append_of_ne_nil _ (by simp [htextNe]),
          List.getLast?_append_of_ne_nil _ htextNe] at hc
        exact hlast c hc

/-- Without tabs only spaces stand between the tokens. -/
theorem Spaced.without_spaces (h : Spaced tokens text) (htab : '\t' ∉ text) :
    (tokens.map String.toList).flatten.filter (fun c => c ≠ ' ') =
      text.filter fun c => c ≠ ' ' := by
  induction h with
  | single token => simp
  | @cons token gap tokens text hgap _ ih =>
      have hgapSpace : gap.filter (fun c => c ≠ ' ') = [] := by
        rw [List.filter_eq_nil_iff]
        intro c hc
        rcases hgap.blank c hc with rfl | rfl
        · decide
        · exact absurd (List.mem_append_right _ (List.mem_append_left _ hc)) htab
      have hrest := ih fun hmem =>
        htab (List.mem_append_right _ (List.mem_append_right _ hmem))
      rw [List.map_cons, List.flatten_cons, List.filter_append, List.filter_append,
        List.filter_append, hgapSpace, hrest]
      rfl

end Text

/-! ## Expressions -/

theorem IsIdentifier.operand {name : String} (h : IsIdentifier name) : IsOperandName name := by
  constructor
  · intro hmem
    have hparens : ∀ paren ∈ ["(", ")"], ¬ ∀ c ∈ paren.toList, isNameChar c = true := by decide
    exact hparens name hmem h.chars
  · exact h.word

/-- What is written spells the expression. -/
theorem rendered_spells {e : Expr} (hnames : ∀ name ∈ e.names, IsIdentifier name) :
    Spells .factor e e.rendered := by
  induction e with
  | identifier name => exact .identifier (hnames name List.mem_cons_self).operand.operand
  | not value ih =>
      have htoken : pyLower "not" = "not" := by decide
      exact .parens (.term (.factor (.not htoken (ih hnames))))
  | and left right ihLeft ihRight =>
      have htoken : pyLower "and" = "and" := by decide
      have hleft := ihLeft fun name h => hnames name (List.mem_append_left _ h)
      have hright := ihRight fun name h => hnames name (List.mem_append_right _ h)
      have hparens := Spells.parens (.term (.and htoken (.factor hleft) hright))
      rw [List.append_assoc, List.cons_append] at hparens
      exact hparens
  | or left right ihLeft ihRight =>
      have htoken : pyLower "or" = "or" := by decide
      have hleft := ihLeft fun name h => hnames name (List.mem_append_left _ h)
      have hright := ihRight fun name h => hnames name (List.mem_append_right _ h)
      have hparens := Spells.parens (.or htoken (.term (.factor hleft)) (.factor hright))
      rw [List.append_assoc, List.cons_append] at hparens
      exact hparens

/-- The tokens of an expression: parentheses, operators and its names. -/
theorem mem_rendered {e : Expr} {token : String} :
    token ∈ e.rendered → token ∈ ["(", ")"] ∨ token ∈ operators ∨ token ∈ e.names := by
  induction e with
  | identifier name => exact fun h => .inr (.inr h)
  | not value ih =>
      intro h
      simp only [Expr.rendered, List.mem_cons, List.mem_append, operators, Expr.names] at h ih ⊢
      grind
  | and left right ihLeft ihRight =>
      intro h
      simp only [Expr.rendered, List.mem_cons, List.mem_append, operators, Expr.names] at h ihLeft ihRight ⊢
      grind
  | or left right ihLeft ihRight =>
      intro h
      simp only [Expr.rendered, List.mem_cons, List.mem_append, operators, Expr.names] at h ihLeft ihRight ⊢
      grind

theorem names_rendered {e : Expr} {name : String} : name ∈ e.names → name ∈ e.rendered := by
  induction e with
  | identifier name => exact fun h => h
  | not value ih =>
      intro h
      simp only [Expr.rendered, List.mem_cons, List.mem_append, Expr.names] at h ih ⊢
      grind
  | and left right ihLeft ihRight =>
      intro h
      simp only [Expr.rendered, List.mem_cons, List.mem_append, Expr.names] at h ihLeft ihRight ⊢
      grind
  | or left right ihLeft ihRight =>
      intro h
      simp only [Expr.rendered, List.mem_cons, List.mem_append, Expr.names] at h ihLeft ihRight ⊢
      grind

/-! ## The line of a permission -/

/-- What is left of the line when its name is taken off. -/
theorem parsePermission_text {text : List Char} (hstrip : stripChars (' ' :: text) = text)
    (hne : text ≠ []) (shown : String) (hshown : shown = String.ofList ("p = ".toList ++ text)) :
    parsePermission ("p = ".toList ++ text) =
      tokenize text >>= fun tokens => readExpr tokens >>= fun (e, rest) =>
        if rest ≠ [] then .error (.valueError s!"invalid permission expression: {shown}")
        else .ok ("p", e) := by
  have hsplit : splitOnce '=' ("p = ".toList ++ text) = some (['p', ' '], ' ' :: text) := rfl
  have hname : stripChars ['p', ' '] = ['p'] := by decide
  unfold parsePermission
  rw [hsplit]
  dsimp only
  rw [hstrip, hname, if_neg (by simp [hne]), ← hshown]
  rfl

section Permission

variable {e : Expr} {text : List Char}

/-- What a text of an expression is made of. -/
structure IsRendering (e : Expr) (text : List Char) : Prop where
  names : ∀ name ∈ e.names, IsIdentifier name
  spaced : Spaced e.rendered text

theorem IsRendering.token (h : IsRendering e text) :
    ∀ token ∈ e.rendered, IsScanned token ∨ (token ∈ e.names ∧ HidesOperator token) := by
  intro token htoken
  rcases mem_rendered htoken with hparens | hoperator | hname
  · simp only [List.mem_cons, List.not_mem_nil, or_false] at hparens
    rcases hparens with rfl | rfl
    · exact .inl (parens_scanned (.inl rfl))
    · exact .inl (parens_scanned (.inr rfl))
  · exact .inl (operator_scanned hoperator)
  · by_cases hhides : HidesOperator token
    · exact .inr ⟨hname, hhides⟩
    · exact .inl ((h.names token hname).scanned hhides)

theorem IsRendering.token_chars (h : IsRendering e text) : ∀ token ∈ e.rendered,
    token.toList ≠ [] ∧ ∀ c ∈ token.toList, isTokenChar c = true := by
  intro token htoken
  rcases h.token token htoken with hscanned | ⟨hname, _⟩
  · exact ⟨hscanned.nonempty, hscanned.chars⟩
  · have hidentifier := h.names token hname
    exact ⟨hidentifier.nonempty, fun c hc => isTokenChar_of_name (hidentifier.chars c hc)⟩

/-- The line, when the text is tokenized. -/
theorem IsRendering.parse (h : IsRendering e text) (shown : String)
    (hshown : shown = String.ofList ("p = ".toList ++ text)) :
    parsePermission ("p = ".toList ++ text) =
      tokenize text >>= fun tokens => readExpr tokens >>= fun (e, rest) =>
        if rest ≠ [] then .error (.valueError s!"invalid permission expression: {shown}")
        else .ok ("p", e) := by
  have hchars := h.token_chars
  have ⟨hne, hhead, hlast⟩ := h.spaced.ends (fun token ht => (hchars token ht).1)
    fun token ht => (hchars token ht).2
  have hbefore : ∀ c ∈ [' '], isPySpace c = true := by decide
  have hafter : ∀ c ∈ ([] : List Char), isPySpace c = true := by decide
  have hstrip := stripChars_pad hbefore hafter hhead hlast hne
  rw [List.append_nil, List.singleton_append] at hstrip
  exact parsePermission_text hstrip hne shown hshown

theorem IsRendering.fuel (h : IsRendering e text) : e.rendered.length ≤ text.length :=
  h.spaced.length_le fun token ht => (h.token_chars token ht).1

/-- Without a tab and without a hidden operator, the expression comes back. -/
theorem IsRendering.read (h : IsRendering e text) (htab : '\t' ∉ text)
    (hhides : ∀ name ∈ e.names, ¬ HidesOperator name) :
    parsePermission ("p = ".toList ++ text) = .ok ("p", e) := by
  have hscanned : ∀ token ∈ e.rendered, IsScanned token := by
    intro token htoken
    exact (h.token token htoken).resolve_right fun hname => hhides token hname.1 hname.2
  have hscan := h.spaced.scan hscanned h.fuel
  have htokens : tokenize text = .ok e.rendered := by
    unfold tokenize
    rw [hscan]
    dsimp only
    rw [if_neg (not_not.mpr (h.spaced.without_spaces htab)), List.map_map]
    simp
  have hspells : Spells .expr e e.rendered := .term (.factor (rendered_spells h.names))
  rw [h.parse _ rfl, htokens, Lib.ok_bind, hspells.read]
  rfl

/-- A text whose tokens leave something out but spaces is refused. -/
theorem IsRendering.refused (h : IsRendering e text)
    (hlost : ((scanTokens text.length text).flatten.filter fun c => c ≠ ' ') ≠
      text.filter fun c => c ≠ ' ') :
    ∃ error, parsePermission ("p = ".toList ++ text) = .error error := by
  rw [h.parse _ rfl]
  unfold tokenize
  dsimp only
  rw [if_pos hlost]
  exact ⟨_, rfl⟩

/-- A hidden operator loses the character behind it. -/
theorem IsRendering.refused_hidden (h : IsRendering e text)
    (hhides : ∃ name ∈ e.names, HidesOperator name) :
    ∃ error, parsePermission ("p = ".toList ++ text) = .error error := by
  rcases hhides with ⟨name, hname, hhides⟩
  have hloses := h.spaced.loses (fun token ht => (h.token token ht).imp_right And.right)
    ⟨name, names_rendered hname, hhides⟩ h.fuel
  apply h.refused
  intro hsame
  have hfound := List.length_filter_le (fun c => decide (c ≠ ' '))
    (scanTokens text.length text).flatten
  have hink : inked text ≤ (text.filter fun c => decide (c ≠ ' ')).length := by
    unfold inked
    rw [← List.countP_eq_length_filter]
    apply List.countP_mono_left
    intro c _ hc
    rw [Bool.not_eq_true'] at hc
    rw [decide_eq_true_eq]
    rintro rfl
    exact absurd hc (by decide)
  rw [hsame] at hfound
  omega

/-- A tab is skipped, and missed afterwards. -/
theorem IsRendering.refused_tab (h : IsRendering e text) (htab : '\t' ∈ text)
    (hhides : ∀ name ∈ e.names, ¬ HidesOperator name) :
    ∃ error, parsePermission ("p = ".toList ++ text) = .error error := by
  have hscanned : ∀ token ∈ e.rendered, IsScanned token := by
    intro token htoken
    exact (h.token token htoken).resolve_right fun hname => hhides token hname.1 hname.2
  apply h.refused
  rw [h.spaced.scan hscanned h.fuel]
  intro hsame
  have hkept : '\t' ∈ text.filter fun c => c ≠ ' ' :=
    List.mem_filter.mpr ⟨htab, by decide⟩
  rw [← hsame] at hkept
  have ⟨tokenChars, hmem, hin⟩ := List.mem_flatten.mp (List.mem_filter.mp hkept).1
  have ⟨token, htoken, hchars⟩ := List.mem_map.mp hmem
  have htokenTab := (hscanned token htoken).chars '\t' (hchars ▸ hin)
  exact absurd htokenTab (by decide)

end Permission

/-- The text of an expression is read back exactly when it has no tab and no name that starts
with an operator and a `:` or `-`. -/
theorem parsePermission_iff {e : Expr} {text : List Char}
    (hnames : ∀ name ∈ e.names, IsIdentifier name) (hspaced : Spaced e.rendered text) :
    parsePermission ("p = ".toList ++ text) = .ok ("p", e) ↔
      '\t' ∉ text ∧ ∀ name ∈ e.names, ¬ HidesOperator name := by
  have h : IsRendering e text := ⟨hnames, hspaced⟩
  constructor
  · intro hread
    have hhides : ∀ name ∈ e.names, ¬ HidesOperator name := by
      intro name hname hhides
      have ⟨error, herror⟩ := h.refused_hidden ⟨name, hname, hhides⟩
      rw [hread] at herror
      cases herror
    refine ⟨?_, hhides⟩
    intro htab
    have ⟨error, herror⟩ := h.refused_tab htab hhides
    rw [hread] at herror
    cases herror
  · intro ⟨htab, hhides⟩
    exact h.read htab hhides

theorem space_gap : IsGap [' '] := ⟨by decide, by decide⟩

theorem tab_gap : IsGap ['\t'] := ⟨by decide, by decide⟩

theorem viewer_identifier : IsIdentifier "viewer" :=
  ⟨by decide, by decide, by decide, by decide⟩

/-- `( not viewer )` -/
theorem notViewer_read :
    parsePermission "p = ( not viewer )".toList = .ok ("p", .not (.identifier "viewer")) := by
  have hnames : ∀ name ∈ (Expr.not (.identifier "viewer")).names, IsIdentifier name := by
    intro name hname
    rw [List.mem_singleton.mp hname]
    exact viewer_identifier
  have hspaced : Spaced (Expr.not (.identifier "viewer")).rendered "( not viewer )".toList :=
    .cons "(" space_gap (.cons "not" space_gap (.cons "viewer" space_gap (.single ")")))
  have hhides : ∀ name ∈ (Expr.not (.identifier "viewer")).names, ¬ HidesOperator name := by
    intro name hname
    rw [List.mem_singleton.mp hname]
    unfold HidesOperator
    decide
  exact (parsePermission_iff hnames hspaced).mpr ⟨by decide, hhides⟩

/-- A name such as `not-banned` and a tab before `and` are both written as they may be, and
refused. -/
theorem notBanned_refused :
    (IsIdentifier "not-banned" ∧
      Spaced (Expr.identifier "not-banned").rendered "not-banned".toList ∧
      parsePermission "p = not-banned".toList =
        .error (.valueError "invalid permission expression: not-banned")) ∧
    (IsIdentifier "a" ∧ IsIdentifier "b" ∧
      Spaced (Expr.and (.identifier "a") (.identifier "b")).rendered "( a\tand b )".toList ∧
      parsePermission "p = ( a\tand b )".toList =
        .error (.valueError "invalid permission expression: ( a\tand b )")) := by
  refine ⟨⟨?_, ?_, ?_⟩, ?_, ?_, ?_, ?_⟩
  · exact ⟨by decide, by decide, by decide, by decide⟩
  · exact .single "not-banned"
  · rfl
  · exact ⟨by decide, by decide, by decide, by decide⟩
  · exact ⟨by decide, by decide, by decide, by decide⟩
  · exact .cons "(" space_gap (.cons "a" tab_gap (.cons "and" space_gap
      (.cons "b" space_gap (.single ")"))))
  · rfl

end KeyNetra
