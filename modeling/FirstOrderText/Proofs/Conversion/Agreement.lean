import FirstOrderText.Proofs.Conversion.Nesting
import FirstOrderText.Proofs.Formula.Names
import FirstOrderText.Proofs.Grammar.Reading

/-! Grammar and conversion agree. A derived tree has no node that conversion rejects
for its shape, and what conversion does reject is the first token, in the order of
the text, whose text does not go with its kind. -/
namespace FirstOrderText

/-- A fault that is found in the text of a token, and not in the shape of a tree. -/
def ConversionFault.IsAbout (fault : ConversionFault) (token : Token) : Prop :=
  (token.kind = "STRING" ∧ fault.label = "name" ∧ fault.context = "STRING" ∧
    (fault.problem = .malformedName token.value ∨ fault.problem = .improperName token.value)) ∨
  ((token.kind = "TRUE" ∨ token.kind = "FALSE") ∧ fault.label = "truth" ∧
    fault.context = token.kind ∧ fault.problem = .unknownConstant token.value)

/-- What was put in quotes is no name. -/
def ConversionFault.IsMalformedName (fault : ConversionFault) : Prop :=
  ∃ text, fault.problem = .malformedName text ∨ fault.problem = .improperName text

namespace Token

theorem not_proper_of_fault? {token : Token} {fault : ConversionFault}
    (faulty : token.fault? = some fault) : ¬token.Proper := by
  rw [← fault?_eq_none_iff, faulty]
  simp

theorem isAbout_of_fault? {token : Token} {fault : ConversionFault}
    (faulty : token.fault? = some fault) : fault.IsAbout token := by
  unfold fault? at faulty
  split at faulty
  · rename_i constant
    cases faulty
    exact Or.inr ⟨constant.imp And.left And.left, rfl, rfl, rfl⟩
  · obtain ⟨named, faulty⟩ := Option.ite_none_right_eq_some.mp faulty
    refine Or.inl ⟨named, ?_⟩
    split at faulty
    · cases faulty
      exact ⟨rfl, rfl, Or.inl rfl⟩
    · obtain ⟨_, faulty⟩ := Option.ite_none_left_eq_some.mp faulty
      cases faulty
      exact ⟨rfl, rfl, Or.inr rfl⟩

/-- A token that was read off a text is faulty only as a name of other characters. -/
theorem fault?_of_isLexeme {token : Token} {fault : ConversionFault} (read : token.IsLexeme)
    (faulty : token.fault? = some fault) :
    token.kind = "STRING" ∧ fault = ⟨.improperName token.value, "name", ["STRING"]⟩ := by
  obtain ⟨lexeme, written⟩ := read
  have improper := not_proper_of_fault? faulty
  rw [proper_iff_named written] at improper
  cases lexeme with
  | keyword _ | delimiter _ => exact absurd trivial improper
  | quoted content =>
    have named : token.kind = "STRING" := congrArg Prod.fst written
    have value : token.value = (Lexeme.quoted content).text := congrArg Prod.snd written
    have unquoted : unquote? token.value.toList = some content := by
      rw [value, unquote?_text_quoted]
    refine ⟨named, ?_⟩
    simp only [fault?, named, unquoted, String.reduceEq, false_and, or_false, if_false, if_true]
      at faulty
    obtain ⟨_, faulty⟩ := Option.ite_none_left_eq_some.mp faulty
    exact (Option.some.inj faulty).symm

end Token

theorem obstacles_tokens (tokens : List Token) :
    tokens.flatMap Token.obstacles = (tokens.filterMap Token.fault?).map .fault := by
  induction tokens with
  | nil => rfl
  | cons token rest ih =>
    rw [List.flatMap_cons, ih, List.filterMap_cons, Token.obstacles]
    cases token.fault? <;> rfl

/-- A phrase with room for its applications is stopped only by its first faulty token. -/
theorem FormulaPhrase.convert_tree (phrase : FormulaPhrase)
    (fits : phrase.formula.nesting ≤ Tree.nestingLimit) : phrase.tree.convert =
      match phrase.tokens.findSome? Token.fault? with
      | none => .ok phrase.formula
      | some fault => .error fault := by
  rw [Tree.convert, phrase.toFormula_tree, phrase.obstacles_eq_flatMap fits, obstacles_tokens,
    ← List.head?_filterMap]
  cases phrase.tokens.filterMap Token.fault? <;> rfl

/-- What a phrase converts to is the formula that it stands for. -/
theorem FormulaPhrase.formula_of_convert {phrase : FormulaPhrase} {formula : Formula}
    (converted : phrase.tree.convert = .ok formula) : phrase.formula = formula := by
  rw [Tree.convert, phrase.toFormula_tree] at converted
  cases obstacles : phrase.obstacles with
  | nil =>
    rw [obstacles] at converted
    exact Except.ok.inj converted
  | cons obstacle rest =>
    rw [obstacles] at converted
    cases obstacle <;> cases converted

/-- A phrase with room for its applications converts when all of its tokens are proper. -/
theorem FormulaPhrase.convert_tree_ok_iff (phrase : FormulaPhrase)
    (fits : phrase.formula.nesting ≤ Tree.nestingLimit) :
    (∃ formula, phrase.tree.convert = .ok formula) ↔ ∀ token ∈ phrase.tokens, token.Proper := by
  rw [phrase.convert_tree fits]
  simp only [← Token.fault?_eq_none_iff, ← List.findSome?_eq_none_iff]
  cases phrase.tokens.findSome? Token.fault? <;> simp

/-- Otherwise the first token that is not proper is at fault. -/
theorem FormulaPhrase.convert_tree_error (phrase : FormulaPhrase)
    (fits : phrase.formula.nesting ≤ Tree.nestingLimit) {fault : ConversionFault}
    (failed : phrase.tree.convert = .error fault) :
    ∃ front token rest, phrase.tokens = front ++ token :: rest ∧
      (∀ earlier ∈ front, earlier.Proper) ∧ token.fault? = some fault := by
  rw [phrase.convert_tree fits] at failed
  cases found : phrase.tokens.findSome? Token.fault? with
  | none =>
    rw [found] at failed
    cases failed
  | some first =>
    rw [found] at failed
    cases failed
    obtain ⟨front, token, rest, same, faulty, faultless⟩ := List.findSome?_eq_some_iff.mp found
    refine ⟨front, token, rest, same, ?_, faulty⟩
    intro earlier member
    exact Token.fault?_eq_none_iff.mp (faultless earlier member)

theorem message_improperName (text : String) :
    ConversionFault.message ⟨.improperName text, "name", ["STRING"]⟩ =
      "Quoted name must be alphanumeric, got " ++ text ++ " (node 'name', children: STRING)" := by
  have place : " (node '" ++ ("name" ++ ("'" ++ (", children: " ++ "STRING" ++ ")"))) =
      " (node 'name', children: STRING)" := by decide
  have parts : ConversionFault.message ⟨.improperName text, "name", ["STRING"]⟩ =
      "Quoted name must be alphanumeric, got " ++ text ++ " (node '" ++ "name" ++ "'" ++
        (", children: " ++ "STRING") ++ ")" := rfl
  rw [parts, ← place]
  simp only [String.append_assoc]

/-- A derived tree converts when the texts of the tokens that were read go with their
kinds. Otherwise the fault is that of the first token whose text does not, and for the
tokens of a text it is always a name of other characters. -/
theorem convert_derived {tokens : List Token} {tree : Tree}
    (derived : Grammar.derive tokens = .ok tree) (nested : tree.nesting ≤ 200) :
    ((∃ formula, tree.convert = .ok formula) ↔
      ∀ token ∈ tokens.takeWhile (fun token => !token.isEndMarker), token.Proper) ∧
    (∀ fault, tree.convert = .error fault → ∃ front token rest,
      tokens.takeWhile (fun token => !token.isEndMarker) = front ++ token :: rest ∧
        (∀ earlier ∈ front, earlier.Proper) ∧ ¬token.Proper ∧ fault.IsAbout token) ∧
    ∀ text line start, tokens = (Scan.run text line start).tokens.map PlacedToken.toToken →
      ∀ fault, tree.convert = .error fault → ∃ front token rest,
        tokens = front ++ token :: rest ∧ (∀ earlier ∈ front, earlier.Proper) ∧ ¬token.Proper ∧
        token.kind = "STRING" ∧ fault = ⟨.improperName token.value, "name", ["STRING"]⟩ ∧
        fault.message = "Quoted name must be alphanumeric, got " ++ token.value ++
          " (node 'name', children: STRING)" := by
  obtain ⟨phrase, written, rfl⟩ := Grammar.derive_eq_ok_iff.mp derived
  have fits : phrase.formula.nesting ≤ Tree.nestingLimit := by
    rw [← phrase.nesting_tree]
    exact Nat.le_trans nested Tree.le_nestingLimit
  rw [← written]
  refine ⟨phrase.convert_tree_ok_iff fits, ?_, ?_⟩
  · intro fault failed
    obtain ⟨front, token, rest, same, proper, faulty⟩ := phrase.convert_tree_error fits failed
    have improper := Token.not_proper_of_fault? faulty
    exact ⟨front, token, rest, same, proper, improper, Token.isAbout_of_fault? faulty⟩
  · intro text line start same fault failed
    have lexemes : ∀ token ∈ tokens, token.IsLexeme := by
      rw [same, List.forall_mem_map]
      exact Scan.isLexeme_run text line start
    rw [Grammar.takeWhile_unmarked (kinds_unmarked lexemes)] at written
    obtain ⟨front, token, rest, split, proper, faulty⟩ := phrase.convert_tree_error fits failed
    have improper := Token.not_proper_of_fault? faulty
    rw [written] at split
    have member : token ∈ tokens := by simp [split]
    obtain ⟨named, rfl⟩ := Token.fault?_of_isLexeme (lexemes token member) faulty
    refine ⟨front, token, rest, split, proper, improper, named, rfl, ?_⟩
    exact message_improperName token.value

/-- The tokens of a text with a name of other characters, and the same with an end marker and a
faulty token behind them. Both have one tree, and what it fails for is the name. -/
theorem convert_derived_improper_name :
    let name : Token := ⟨"STRING", "\"R-1\"", 9⟩
    let tokens := [⟨"NOT", "Not", 0⟩, ⟨"LPAREN", "(", 4⟩, ⟨"REL", "Rel", 5⟩, name,
      ⟨"LBRACKET", "[", 15⟩, ⟨"RBRACKET", "]", 16⟩, ⟨"RPAREN", ")", 17⟩]
    let marked := tokens ++ [⟨"$end", "", 18⟩, ⟨"TRUE", "X", 19⟩]
    let atom := Tree.branch "relation" [.leaf "REL" "Rel", .branch "name" [.leaf "STRING" "\"R-1\""],
      .leaf "LBRACKET" "[", .branch "terms" [], .leaf "RBRACKET" "]"]
    let tree := Tree.branch "not" [.leaf "NOT" "Not",
      .branch "group" [.leaf "LPAREN" "(", atom, .leaf "RPAREN" ")"]]
    tokens = (Scan.run "Not (Rel \"R-1\" [])" 1 0).tokens.map PlacedToken.toToken ∧
      Grammar.derive tokens = .ok tree ∧ Grammar.derive marked = .ok tree ∧ tree.nesting ≤ 200 ∧
      ∃ fault, tree.convert = .error fault ∧ fault.IsAbout name ∧ fault.message =
        "Quoted name must be alphanumeric, got \"R-1\" (node 'name', children: STRING)" := by
  intro name tokens marked atom tree
  have scanned : tokens = (Scan.run "Not (Rel \"R-1\" [])" 1 0).tokens.map PlacedToken.toToken := by
    decide +kernel
  have derived : Grammar.derive tokens = .ok tree := by decide +kernel
  have derivedMarked : Grammar.derive marked = .ok tree := by decide +kernel
  have nested : tree.nesting ≤ 200 := by decide
  have faulty : name.fault? = some ⟨.improperName "\"R-1\"", "name", ["STRING"]⟩ := by decide
  have improper : ¬name.Proper := Token.not_proper_of_fault? faulty
  have others : ∀ token ∈ tokens, token = name ∨ token.fault? = none := by decide
  have only : ∀ token ∈ tokens, ¬token.Proper → token = name := fun token member faulty =>
    (others token member).resolve_right (mt Token.fault?_eq_none_iff.mp faulty)
  have cut : marked.takeWhile (fun token => !token.isEndMarker) = tokens := by decide
  obtain ⟨converts, first, _⟩ := convert_derived derivedMarked nested
  rw [cut] at converts first
  refine ⟨scanned, derived, derivedMarked, nested, ?_⟩
  cases converted : tree.convert with
  | ok formula => exact absurd (converts.mp ⟨formula, converted⟩ name (by simp [tokens])) improper
  | error fault =>
    obtain ⟨front, token, rest, split, _, faulty, about⟩ := first fault converted
    obtain rfl := only token (by simp [split]) faulty
    obtain ⟨front, token, rest, split, _, faulty, _, _, message⟩ :=
      (convert_derived derived nested).2.2 _ 1 0 scanned fault converted
    obtain rfl := only token (by simp [split]) faulty
    exact ⟨fault, rfl, about, message⟩

/-- A token behind an end marker is not read, and its text hinders no conversion. -/
theorem convert_behind_end_marker :
    Grammar.derive [⟨"TRUE", "T", 0⟩, ⟨"$end", "", 1⟩, ⟨"TRUE", "X", 2⟩] =
      .ok (.branch "truth" [.leaf "TRUE" "T"]) ∧
    (Tree.branch "truth" [.leaf "TRUE" "T"]).nesting ≤ 200 ∧
    ¬((∃ formula, (Tree.branch "truth" [.leaf "TRUE" "T"]).convert = .ok formula) ↔
      ∀ token ∈ [Token.mk "TRUE" "T" 0, ⟨"$end", "", 1⟩, ⟨"TRUE", "X", 2⟩], token.Proper) := by
  refine ⟨rfl, by decide, ?_⟩
  intro agree
  have converted : (Tree.branch "truth" [.leaf "TRUE" "T"]).convert = .ok (.constant true) :=
    FormulaPhrase.convert_tree (.constant true ⟨"T", 0⟩) (Nat.zero_le _)
  have proper := agree.mp ⟨_, converted⟩ ⟨"TRUE", "X", 2⟩ (by simp)
  exact absurd (proper.1 rfl) (by decide)

end FirstOrderText
