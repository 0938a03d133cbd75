import FirstOrderText.Proofs.Conversion.Agreement
import FirstOrderText.Proofs.Formula.Spelling
import FirstOrderText.Reader

/-! Reading inverts spelling. The tokens of a text decide its formula, and they decide
it by their kinds and values alone, so that a text is read as a formula exactly when
its tokens are the spelling of that formula. -/
namespace FirstOrderText

/-- The standard reader gives a tree when the text has tokens and these have a tree. -/
theorem Reader.standard_derive_eq_ok_iff {level : LogLevel} {text : String} {tree : Tree} :
    (standard.derive level text).outcome = .ok tree ↔ isBlank text = false ∧
      ∃ tokens, (Scan.ofText text).result = .ok tokens ∧
        Grammar.derive (tokens.map PlacedToken.toToken) = .ok tree := by
  rw [derive]
  cases isBlank text with
  | true => simp [reject]
  | false =>
    simp only [Bool.false_eq_true, if_false, exceededLimit?, standard, Option.filter_none,
      Engine.standard, Engine.build]
    cases (Scan.ofText text).result with
    | error fault => simp [reject]
    | ok tokens =>
      cases derived : Grammar.derive (tokens.map PlacedToken.toToken) <;> simp [reject, derived]

/-- The standard reader gives a formula when it gives a tree and that converts. -/
theorem Reader.standard_eq_ok_iff {level : LogLevel} {text : String} {formula : Formula} :
    (standard.read level text).outcome = .ok formula ↔ isBlank text = false ∧
      ∃ tokens tree, (Scan.ofText text).result = .ok tokens ∧
        Grammar.derive (tokens.map PlacedToken.toToken) = .ok tree ∧
          tree.convert = .ok formula := by
  have through : (standard.read level text).outcome = .ok formula ↔
      ∃ tree, (standard.derive level text).outcome = .ok tree ∧ tree.convert = .ok formula := by
    rw [read]
    rcases standard.derive level text with ⟨journal, failure | tree⟩
    · simp
    · cases converted : tree.convert <;> simp [converted]
  rw [through]
  simp only [standard_derive_eq_ok_iff]
  constructor
  · rintro ⟨tree, ⟨present, tokens, scanned, derived⟩, converted⟩
    exact ⟨present, tokens, tree, scanned, derived, converted⟩
  · rintro ⟨present, tokens, tree, scanned, derived, converted⟩
    exact ⟨tree, ⟨present, tokens, scanned, derived⟩, converted⟩

/-- A text with tokens is not blank. -/
theorem not_blank_of_tokens {text : String} {tokens : List PlacedToken}
    (scanned : (Scan.ofText text).result = .ok tokens) (some : tokens ≠ []) :
    isBlank text = false := by
  rw [Bool.eq_false_iff]
  intro blank
  obtain ⟨_, rfl⟩ := Scan.result_eq_ok_iff.mp scanned
  rw [Scan.ofText_eq_remaining] at some
  exact some (Scan.tokens_of_blank 1 0 (List.all_eq_true.mp blank))

/-- Tokens that spell a formula are not those of a blank text. -/
theorem not_blank_of_spelling {text : String} {tokens : List PlacedToken} {formula : Formula}
    (scanned : (Scan.ofText text).result = .ok tokens)
    (spelled : tokens.map (fun token => token.toToken.written) =
      formula.spelling.map Lexeme.written) : isBlank text = false := by
  apply not_blank_of_tokens scanned
  rintro rfl
  cases formula <;> cases spelled

/-- Tokens that are written like those of a phrase have its tree. -/
theorem derive_of_written {tokens : List Token} {phrase : FormulaPhrase}
    (same : tokens.map Token.written = phrase.tokens.map Token.written)
    (unmarked : ∀ token ∈ tokens, token.kind ≠ "$end") :
    Grammar.derive tokens = .ok phrase.tree := by
  have kinds := congrArg (List.map Prod.fst) same
  have leaves := congrArg (List.map fun pair => Tree.leaf pair.1 pair.2) same
  rw [List.map_map, List.map_map] at kinds leaves
  obtain ⟨phrase', rfl⟩ := Grammar.exists_phrase_of_kinds kinds
  exact (Grammar.derive_unmarked_iff unmarked).mpr ⟨phrase', rfl, Grammar.tree_eq_of_leaves leaves⟩

/-- A text is read as a formula exactly when its tokens spell that formula, by their
kinds and values, and every name in the formula is a name. -/
theorem read_inverts_spelling (level : LogLevel) (text : String) (formula : Formula)
    (nested : formula.nesting ≤ 200) :
    (Reader.standard.read level text).outcome = .ok formula ↔
      ∃ tokens, (Scan.ofText text).result = .ok tokens ∧
        tokens.map (fun token => token.toToken.written) = formula.spelling.map Lexeme.written ∧
        formula.WellNamed := by
  have fits : formula.nesting ≤ Tree.nestingLimit := Nat.le_trans nested Tree.le_nestingLimit
  rw [Reader.standard_eq_ok_iff]
  constructor
  · rintro ⟨_, tokens, tree, scanned, derived, converted⟩
    have lexemes := Scan.isLexeme_of_result scanned
    obtain ⟨phrase, written, rfl⟩ := (Grammar.derive_unmarked_iff (kinds_unmarked lexemes)).mp derived
    obtain rfl := FormulaPhrase.formula_of_convert converted
    rw [← written] at lexemes
    have spelled := phrase.written_tokens lexemes
    have proper := (phrase.convert_tree_ok_iff fits).mp ⟨_, converted⟩
    refine ⟨tokens, scanned, ?_, ?_⟩
    · rw [← spelled, written, List.map_map]
      rfl
    · exact phrase.formula.wellNamed_iff.mpr ((forall_proper_iff spelled).mp proper)
  · rintro ⟨tokens, scanned, spelled, named⟩
    obtain ⟨phrase, rfl, lexemes⟩ := formula.exists_phrase
    have same : (tokens.map PlacedToken.toToken).map Token.written =
        phrase.tokens.map Token.written := by
      rw [phrase.written_tokens lexemes, ← spelled, List.map_map]
      rfl
    refine ⟨not_blank_of_spelling scanned spelled, tokens, phrase.tree, scanned, ?_, ?_⟩
    · exact derive_of_written same (kinds_unmarked (Scan.isLexeme_of_result scanned))
    · have proper := (forall_proper_iff (phrase.written_tokens lexemes)).mpr
        (phrase.formula.wellNamed_iff.mp named)
      obtain ⟨formula, converted⟩ := (phrase.convert_tree_ok_iff fits).mpr proper
      rwa [← FormulaPhrase.formula_of_convert converted] at converted

theorem read_negated_atom :
    (Formula.negation (.atom "P" [])).nesting ≤ 200 ∧
    (Reader.standard.read .silent "Not (Rel \"P\" [])").outcome =
      .ok (.negation (.atom "P" [])) := by
  have nested : (Formula.negation (.atom "P" [])).nesting ≤ 200 := by decide
  have scanned : Scan.ofText "Not (Rel \"P\" [])" =
      ⟨[⟨⟨"NOT", "Not", 0⟩, 1, 3⟩, ⟨⟨"LPAREN", "(", 4⟩, 1, 5⟩, ⟨⟨"REL", "Rel", 5⟩, 1, 8⟩,
        ⟨⟨"STRING", "\"P\"", 9⟩, 1, 12⟩, ⟨⟨"LBRACKET", "[", 13⟩, 1, 14⟩,
        ⟨⟨"RBRACKET", "]", 14⟩, 1, 15⟩, ⟨⟨"RPAREN", ")", 15⟩, 1, 16⟩], none, 1, 16⟩ := by
    decide +kernel
  have result := Scan.result_eq_ok_iff.mpr ⟨congrArg Scan.fault scanned, congrArg Scan.tokens scanned⟩
  refine ⟨nested, (read_inverts_spelling _ _ _ nested).mpr ⟨_, result, by decide, ?_⟩⟩
  exact ⟨by decide, trivial⟩

/-! The analyses of a formula that was read are those of its text. Each lists the names
that stand in quotes right behind tokens of one kind, however deep they are in the
formula and however often its parts repeat. -/

/-- A name stands in quotes right behind a token of a kind. -/
def NamedBehind (tokens : List PlacedToken) (kind name : String) : Prop :=
  ∃ word literal, [word, literal] <:+: tokens ∧ word.kind = kind ∧ literal.kind = "STRING" ∧
    literal.value = "\"" ++ name ++ "\""

theorem pair_infix_map_iff {α β : Type} {made : α → β} {values : List α} {first second : β} :
    [first, second] <:+: values.map made ↔
      ∃ a b, [a, b] <:+: values ∧ made a = first ∧ made b = second := by
  rw [List.infix_map_iff]
  constructor
  · rintro ⟨pair, among, same⟩
    obtain ⟨a, rest, rfl, head, same⟩ := List.map_eq_cons_iff.mp same.symm
    obtain ⟨b, rfl, next⟩ := List.map_eq_singleton_iff.mp same
    exact ⟨a, b, among, head, next⟩
  · rintro ⟨a, b, among, rfl, rfl⟩
    exact ⟨[a, b], among, rfl⟩

theorem Lexeme.eq_keyword {lexeme : Lexeme} {word : Keyword}
    (labelled : lexeme.terminal.label = word.label) : lexeme = .keyword word := by
  have terminal : lexeme.terminal = .keyword word := Terminal.label_injective labelled
  cases lexeme <;> cases terminal
  rfl

theorem Lexeme.eq_nameLexeme {lexeme : Lexeme} {name : String}
    (labelled : lexeme.terminal.label = "STRING") (quoted : lexeme.text = "\"" ++ name ++ "\"") :
    lexeme = nameLexeme name := by
  have terminal : lexeme.terminal = .name := Terminal.label_injective labelled
  cases lexeme <;> cases terminal
  rename_i content
  have unquoted : unquote? (Lexeme.quoted content).text.toList = some name.toList := by
    rw [unquote?_toList_eq_some_iff, quoted, String.ofList_toList]
  rw [unquote?_text_quoted] at unquoted
  rw [nameLexeme, Option.some.inj unquoted]

/-- Behind a reserved word, tokens name what the lexemes that they are mention. -/
theorem namedBehind_iff {tokens : List PlacedToken} {lexemes : List Lexeme}
    (spelled : tokens.map (fun token => token.toToken.written) = lexemes.map Lexeme.written)
    (word : Keyword) (name : String) :
    NamedBehind tokens word.label name ↔ Mentions lexemes word name := by
  constructor
  · rintro ⟨first, second, among, kind, named, value⟩
    have there : [first.toToken.written, second.toToken.written] <:+: lexemes.map Lexeme.written :=
      spelled ▸ pair_infix_map_iff.mpr ⟨first, second, among, rfl, rfl⟩
    obtain ⟨head, literal, among, sameHead, sameLiteral⟩ := pair_infix_map_iff.mp there
    obtain rfl := head.eq_keyword ((congrArg Prod.fst sameHead).trans kind)
    obtain rfl := literal.eq_nameLexeme ((congrArg Prod.fst sameLiteral).trans named)
      ((congrArg Prod.snd sameLiteral).trans value)
    exact among
  · intro mentioned
    have there : [(Lexeme.keyword word).written, (nameLexeme name).written] <:+:
        tokens.map fun token => token.toToken.written :=
      spelled ▸ mentioned.map Lexeme.written
    obtain ⟨first, second, among, sameFirst, sameSecond⟩ := pair_infix_map_iff.mp there
    rw [written_nameLexeme] at sameSecond
    exact ⟨first, second, among, congrArg Prod.fst sameFirst, congrArg Prod.fst sameSecond,
      congrArg Prod.snd sameSecond⟩

/-- The tokens of a text that is read as a formula spell that formula. -/
theorem spelled_of_read {level : LogLevel} {text : String} {formula : Formula}
    (read : (Reader.standard.read level text).outcome = .ok formula) :
    ∃ tokens, (Scan.ofText text).result = .ok tokens ∧
      tokens.map (fun token => token.toToken.written) = formula.spelling.map Lexeme.written := by
  obtain ⟨_, tokens, tree, scanned, derived, converted⟩ := Reader.standard_eq_ok_iff.mp read
  have lexemes := Scan.isLexeme_of_result scanned
  obtain ⟨phrase, written, rfl⟩ := (Grammar.derive_unmarked_iff (kinds_unmarked lexemes)).mp derived
  obtain rfl := FormulaPhrase.formula_of_convert converted
  refine ⟨tokens, scanned, ?_⟩
  rw [← written] at lexemes
  rw [← phrase.written_tokens lexemes, written, List.map_map]
  rfl

/-- The analyses of a formula that was read can be read off the tokens of its text. Its
relation symbols, its bound variables and its variables are exactly the names right
behind the tokens for relations, for quantifiers and for variables. -/
theorem analyses_of_read (level : LogLevel) (text : String) (formula : Formula)
    (read : (Reader.standard.read level text).outcome = .ok formula) :
    ∃ tokens, (Scan.ofText text).result = .ok tokens ∧ ∀ name,
      (name ∈ formula.relationNames ↔ NamedBehind tokens "REL" name) ∧
      (name ∈ formula.quantifiedVariables ↔
        NamedBehind tokens "EXISTS" name ∨ NamedBehind tokens "FORALL" name) ∧
      (name ∈ formula.termVariables ↔ NamedBehind tokens "VAR" name) := by
  obtain ⟨tokens, scanned, spelled⟩ := spelled_of_read read
  refine ⟨tokens, scanned, ?_⟩
  intro name
  have behind := fun word => namedBehind_iff spelled word name
  refine ⟨?_, ?_, ?_⟩
  · rw [formula.mem_relationNames_iff]
    exact (behind .relation).symm
  · rw [formula.mem_quantifiedVariables_iff]
    constructor
    · rintro ⟨binder, mentioned⟩
      cases binder with
      | existential => exact Or.inl ((behind (.quantifier .existential)).mpr mentioned)
      | universal => exact Or.inr ((behind (.quantifier .universal)).mpr mentioned)
    · rintro (named | named)
      · exact ⟨.existential, (behind (.quantifier .existential)).mp named⟩
      · exact ⟨.universal, (behind (.quantifier .universal)).mp named⟩
  · rw [formula.mem_termVariables_iff]
    exact (behind .variableName).symm

theorem analyses_of_read_nested :
    let text := "Exists \"x\" (Rel \"P\" [Fun \"f\" [Var \"y\"], Fun \"y\" []])"
    let formula := Formula.quantified .existential "x"
      (.atom "P" [.app "f" [.var "y"], .app "y" []])
    (Reader.standard.read .silent text).outcome = .ok formula ∧
      ∃ tokens, (Scan.ofText text).result = .ok tokens ∧
        NamedBehind tokens "REL" "P" ∧ NamedBehind tokens "VAR" "y" ∧
        ¬NamedBehind tokens "VAR" "f" := by
  intro text formula
  have read : (Reader.standard.read .silent text).outcome = .ok formula := by
    decide +kernel
  obtain ⟨tokens, scanned, analyses⟩ := analyses_of_read .silent text formula read
  refine ⟨read, tokens, scanned, ?_, ?_, ?_⟩
  · exact (analyses "P").1.mp (by decide +kernel)
  · exact (analyses "y").2.2.mp (by decide +kernel)
  · exact (analyses "f").2.2.not.mp (by decide +kernel)

end FirstOrderText
