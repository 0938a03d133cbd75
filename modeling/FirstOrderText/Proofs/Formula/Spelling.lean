import FirstOrderText.Proofs.Formula.Names

/-! Spelling and phrases. A phrase whose tokens are lexemes spells the formula that it
stands for, and every formula is what some such phrase stands for. Quoting a name and
unquoting it again is no change, so that this needs nothing of the names. -/
namespace FirstOrderText

section
variable {mark : Mark}

/-- A token that is a lexeme is one of its own kind. -/
theorem exists_lexeme {kind : Terminal} (read : (kind.token mark).IsLexeme) :
    ∃ lexeme : Lexeme, lexeme.terminal = kind ∧ (kind.token mark).written = lexeme.written := by
  obtain ⟨lexeme, written⟩ := read
  have labels : kind.label = lexeme.terminal.label := congrArg Prod.fst written
  exact ⟨lexeme, (Terminal.label_injective labels).symm, written⟩

theorem written_keyword {keyword : Keyword}
    (read : (Terminal.token (.keyword keyword) mark).IsLexeme) :
    (Terminal.token (.keyword keyword) mark).written = (Lexeme.keyword keyword).written := by
  obtain ⟨_ | _ | _, terminal, written⟩ := exists_lexeme read <;> cases terminal
  exact written

theorem written_delimiter {delimiter : Delimiter}
    (read : (Terminal.token (.delimiter delimiter) mark).IsLexeme) :
    (Terminal.token (.delimiter delimiter) mark).written = (Lexeme.delimiter delimiter).written := by
  obtain ⟨_ | _ | _, terminal, written⟩ := exists_lexeme read <;> cases terminal
  exact written

theorem name_of_text {content : List Char} (quoted : mark.text = (Lexeme.quoted content).text) :
    mark.name = String.ofList content := by
  rw [Mark.name, quoted, unquote?_text_quoted, Option.getD_some]

theorem written_name (read : (Terminal.name.token mark).IsLexeme) :
    (Terminal.name.token mark).written = (nameLexeme mark.name).written := by
  obtain ⟨_ | _ | content, terminal, written⟩ := exists_lexeme read <;> cases terminal
  have quoted : mark.text = (Lexeme.quoted content).text := congrArg Prod.snd written
  rw [written, nameLexeme, name_of_text quoted, String.toList_ofList]

end

section
variable {inner : List Token} {spelled : List Lexeme}

theorem written_bracket {brackets : Enclosure}
    (within : (∀ token ∈ inner, token.IsLexeme) →
      inner.map Token.written = spelled.map Lexeme.written)
    (read : ∀ token ∈ brackets.bracket inner, token.IsLexeme) :
    (brackets.bracket inner).map Token.written = (bracketed spelled).map Lexeme.written := by
  simp only [Enclosure.bracket, List.forall_mem_cons, List.forall_mem_append] at read
  obtain ⟨opened, inside, closed, _⟩ := read
  simp [Enclosure.bracket, bracketed, written_delimiter opened, written_delimiter closed,
    within inside]

theorem written_parenthesize {parens : Enclosure}
    (within : (∀ token ∈ inner, token.IsLexeme) →
      inner.map Token.written = spelled.map Lexeme.written)
    (read : ∀ token ∈ parens.parenthesize inner, token.IsLexeme) :
    (parens.parenthesize inner).map Token.written = (parenthesized spelled).map Lexeme.written := by
  simp only [Enclosure.parenthesize, List.forall_mem_cons, List.forall_mem_append] at read
  obtain ⟨opened, inside, closed, _⟩ := read
  simp [Enclosure.parenthesize, parenthesized, written_delimiter opened, written_delimiter closed,
    within inside]

end

mutual

theorem TermPhrase.written_tokens (term : TermPhrase)
    (read : ∀ token ∈ term.tokens, token.IsLexeme) :
    term.tokens.map Token.written = term.term.spelling.map Lexeme.written := by
  cases term with
  | var word name =>
    simp only [TermPhrase.tokens, List.forall_mem_cons] at read
    obtain ⟨word, name, _⟩ := read
    simp [TermPhrase.tokens, TermPhrase.term, Term.spelling, written_keyword word,
      written_name name]
  | app word name brackets args =>
    simp only [TermPhrase.tokens, List.forall_mem_cons] at read
    obtain ⟨word, name, inside⟩ := read
    have listed := written_bracket args.written_tokens inside
    simp [TermPhrase.tokens, TermPhrase.term, Term.spelling, written_keyword word,
      written_name name, listed]

theorem TermsPhrase.written_tokens (args : TermsPhrase)
    (read : ∀ token ∈ args.tokens, token.IsLexeme) :
    args.tokens.map Token.written = (Term.spellingAll args.terms).map Lexeme.written := by
  cases args with
  | none => rfl
  | some first more =>
    obtain ⟨head, tail⟩ := List.forall_mem_append.mp read
    rw [TermsPhrase.tokens, TermsPhrase.terms, Term.spellingAll_cons, List.map_append,
      List.map_append, first.written_tokens head, more.written_tokens tail]

theorem TailPhrase.written_tokens (tail : TailPhrase)
    (read : ∀ token ∈ tail.tokens, token.IsLexeme) :
    tail.tokens.map Token.written = (tail.terms.flatMap fun next =>
      .delimiter .comma :: next.spelling).map Lexeme.written := by
  cases tail with
  | done => rfl
  | next comma term more =>
    simp only [TailPhrase.tokens, List.forall_mem_cons, List.forall_mem_append] at read
    obtain ⟨comma, head, tail⟩ := read
    simp [TailPhrase.tokens, TailPhrase.terms, written_delimiter comma, term.written_tokens head,
      more.written_tokens tail]

end

/-- A phrase of lexemes spells the formula that it stands for. -/
theorem FormulaPhrase.written_tokens (phrase : FormulaPhrase)
    (read : ∀ token ∈ phrase.tokens, token.IsLexeme) :
    phrase.tokens.map Token.written = phrase.formula.spelling.map Lexeme.written := by
  induction phrase with
  | constant value word =>
    have word := written_keyword (read _ List.mem_cons_self)
    simp [tokens, formula, Formula.spelling, word]
  | atom word name brackets args =>
    simp only [tokens, List.forall_mem_cons] at read
    obtain ⟨word, name, inside⟩ := read
    have listed := written_bracket args.written_tokens inside
    simp [tokens, formula, Formula.spelling, written_keyword word, written_name name, listed]
  | negation word parens operand ih =>
    simp only [tokens, List.forall_mem_cons] at read
    obtain ⟨word, inside⟩ := read
    have grouped := written_parenthesize ih inside
    simp [tokens, formula, Formula.spelling, written_keyword word, grouped]
  | connected op word parens left parens' right onLeft onRight =>
    simp only [tokens, List.forall_mem_cons, List.forall_mem_append] at read
    obtain ⟨word, first, second⟩ := read
    have groupedLeft := written_parenthesize onLeft first
    have groupedRight := written_parenthesize onRight second
    simp [tokens, formula, Formula.spelling, written_keyword word, groupedLeft, groupedRight]
  | quantified binder word name parens body ih =>
    simp only [tokens, List.forall_mem_cons] at read
    obtain ⟨word, name, inside⟩ := read
    have grouped := written_parenthesize ih inside
    simp [tokens, formula, Formula.spelling, written_keyword word, written_name name, grouped]

/-- The mark of a lexeme at the head of a text. -/
def Lexeme.mark (lexeme : Lexeme) : Mark :=
  ⟨lexeme.text, 0⟩

theorem Lexeme.isLexeme_mark (lexeme : Lexeme) :
    (lexeme.terminal.token lexeme.mark).IsLexeme :=
  ⟨lexeme, rfl⟩

/-- A name that is quoted and unquoted is the same name. -/
theorem name_nameLexeme (name : String) : (nameLexeme name).mark.name = name := by
  have quoted : (nameLexeme name).mark.text = (Lexeme.quoted name.toList).text := rfl
  rw [name_of_text quoted, String.ofList_toList]

/-- The marks of two delimiters at the head of a text. -/
def Enclosure.of (opened closed : Delimiter) : Enclosure :=
  ⟨(Lexeme.delimiter opened).mark, (Lexeme.delimiter closed).mark⟩

theorem isLexeme_bracket {inner : List Token} (inside : ∀ token ∈ inner, token.IsLexeme) :
    ∀ token ∈ (Enclosure.of .openBracket .closeBracket).bracket inner, token.IsLexeme := by
  simp only [Enclosure.bracket, List.forall_mem_cons, List.forall_mem_append]
  exact ⟨(Lexeme.delimiter .openBracket).isLexeme_mark, inside,
    (Lexeme.delimiter .closeBracket).isLexeme_mark, List.forall_mem_nil _⟩

theorem isLexeme_parenthesize {inner : List Token} (inside : ∀ token ∈ inner, token.IsLexeme) :
    ∀ token ∈ (Enclosure.of .openParen .closeParen).parenthesize inner, token.IsLexeme := by
  simp only [Enclosure.parenthesize, List.forall_mem_cons, List.forall_mem_append]
  exact ⟨(Lexeme.delimiter .openParen).isLexeme_mark, inside,
    (Lexeme.delimiter .closeParen).isLexeme_mark, List.forall_mem_nil _⟩

theorem exists_tailPhrase {args : List Term} (each : ∀ arg ∈ args, ∃ phrase : TermPhrase,
      phrase.term = arg ∧ ∀ token ∈ phrase.tokens, token.IsLexeme) :
    ∃ tail : TailPhrase, tail.terms = args ∧ ∀ token ∈ tail.tokens, token.IsLexeme := by
  induction args with
  | nil => exact ⟨.done, rfl, List.forall_mem_nil _⟩
  | cons arg rest ih =>
    obtain ⟨⟨next, rfl, head⟩, later⟩ := List.forall_mem_cons.mp each
    obtain ⟨more, rfl, tail⟩ := ih later
    refine ⟨.next (Lexeme.delimiter .comma).mark next more, rfl, ?_⟩
    simp only [TailPhrase.tokens, List.forall_mem_cons, List.forall_mem_append]
    exact ⟨(Lexeme.delimiter .comma).isLexeme_mark, head, tail⟩

theorem exists_termsPhrase {args : List Term} (each : ∀ arg ∈ args, ∃ phrase : TermPhrase,
      phrase.term = arg ∧ ∀ token ∈ phrase.tokens, token.IsLexeme) :
    ∃ list : TermsPhrase, list.terms = args ∧ ∀ token ∈ list.tokens, token.IsLexeme := by
  cases args with
  | nil => exact ⟨.none, rfl, List.forall_mem_nil _⟩
  | cons arg rest =>
    obtain ⟨⟨first, rfl, head⟩, later⟩ := List.forall_mem_cons.mp each
    obtain ⟨more, rfl, tail⟩ := exists_tailPhrase later
    exact ⟨.some first more, rfl, List.forall_mem_append.mpr ⟨head, tail⟩⟩

theorem Term.exists_phrase (term : Term) : ∃ phrase : TermPhrase,
    phrase.term = term ∧ ∀ token ∈ phrase.tokens, token.IsLexeme := by
  induction term using Term.argInduction with
  | var name =>
    refine ⟨.var (Lexeme.keyword .variableName).mark (nameLexeme name).mark, ?_, ?_⟩
    · rw [TermPhrase.term, name_nameLexeme]
    · simp only [TermPhrase.tokens, List.forall_mem_cons]
      exact ⟨(Lexeme.keyword .variableName).isLexeme_mark, (nameLexeme name).isLexeme_mark,
        List.forall_mem_nil _⟩
  | app symbol args each =>
    obtain ⟨list, rfl, inside⟩ := exists_termsPhrase each
    refine ⟨.app (Lexeme.keyword .application).mark (nameLexeme symbol).mark
      (.of .openBracket .closeBracket) list, ?_, ?_⟩
    · rw [TermPhrase.term, name_nameLexeme]
    · simp only [TermPhrase.tokens, List.forall_mem_cons]
      exact ⟨(Lexeme.keyword .application).isLexeme_mark, (nameLexeme symbol).isLexeme_mark,
        isLexeme_bracket inside⟩

/-- Every formula is what some phrase of lexemes stands for. -/
theorem Formula.exists_phrase (formula : Formula) : ∃ phrase : FormulaPhrase,
    phrase.formula = formula ∧ ∀ token ∈ phrase.tokens, token.IsLexeme := by
  induction formula with
  | constant value =>
    refine ⟨.constant value (Lexeme.keyword (.constant value)).mark, rfl, ?_⟩
    exact List.forall_mem_singleton.mpr (Lexeme.keyword (.constant value)).isLexeme_mark
  | atom name args =>
    have each : ∀ arg ∈ args, ∃ phrase : TermPhrase,
        phrase.term = arg ∧ ∀ token ∈ phrase.tokens, token.IsLexeme := by
      intro arg _
      exact arg.exists_phrase
    obtain ⟨list, rfl, inside⟩ := exists_termsPhrase each
    refine ⟨.atom (Lexeme.keyword .relation).mark (nameLexeme name).mark
      (.of .openBracket .closeBracket) list, ?_, ?_⟩
    · rw [FormulaPhrase.formula, name_nameLexeme]
    · simp only [FormulaPhrase.tokens, List.forall_mem_cons]
      exact ⟨(Lexeme.keyword .relation).isLexeme_mark, (nameLexeme name).isLexeme_mark,
        isLexeme_bracket inside⟩
  | negation operand ih =>
    obtain ⟨below, rfl, inside⟩ := ih
    refine ⟨.negation (Lexeme.keyword .negation).mark (.of .openParen .closeParen) below, rfl, ?_⟩
    simp only [FormulaPhrase.tokens, List.forall_mem_cons]
    exact ⟨(Lexeme.keyword .negation).isLexeme_mark, isLexeme_parenthesize inside⟩
  | connected op left right onLeft onRight =>
    obtain ⟨first, rfl, insideLeft⟩ := onLeft
    obtain ⟨second, rfl, insideRight⟩ := onRight
    refine ⟨.connected op (Lexeme.keyword (.connective op)).mark (.of .openParen .closeParen) first
      (.of .openParen .closeParen) second, rfl, ?_⟩
    simp only [FormulaPhrase.tokens, List.forall_mem_cons, List.forall_mem_append]
    exact ⟨(Lexeme.keyword (.connective op)).isLexeme_mark, isLexeme_parenthesize insideLeft,
      isLexeme_parenthesize insideRight⟩
  | quantified binder name body ih =>
    obtain ⟨below, rfl, inside⟩ := ih
    refine ⟨.quantified binder (Lexeme.keyword (.quantifier binder)).mark (nameLexeme name).mark
      (.of .openParen .closeParen) below, ?_, ?_⟩
    · rw [FormulaPhrase.formula, name_nameLexeme]
    · simp only [FormulaPhrase.tokens, List.forall_mem_cons]
      exact ⟨(Lexeme.keyword (.quantifier binder)).isLexeme_mark, (nameLexeme name).isLexeme_mark,
        isLexeme_parenthesize inside⟩

end FirstOrderText
