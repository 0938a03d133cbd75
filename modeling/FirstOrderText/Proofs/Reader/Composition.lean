import FirstOrderText.Proofs.Grammar.ViablePrefix
import FirstOrderText.Proofs.Reader.Inverse
import FirstOrderText.Proofs.Reader.Precedence
import FirstOrderText.Proofs.Token.Concatenation

/-! Reading is compositional. A text that puts other texts in parentheses behind a
reserved word has the tree that holds theirs, and converts to the formula of their
formulas. A name that is none stops the whole as it stops the part that it is in, and
the left part is asked before the right one. -/
namespace FirstOrderText

namespace Tree

/-- The node of a tree in parentheses. -/
def parenthesized (tree : Tree) : Tree :=
  .branch "group" [.leaf "LPAREN" "(", tree, .leaf "RPAREN" ")"]

/-- The leaf of a reserved word. -/
def ofKeyword (keyword : Keyword) : Tree :=
  .leaf keyword.label keyword.spelling

/-- The node of a quoted name. -/
def ofName (name : String) : Tree :=
  .branch "name" [.leaf "STRING" ("\"" ++ name ++ "\"")]

end Tree

/-- A text is read through a part of it: what is made of the formula of the part is the
formula of the text, and a malformed name in the part is the fault of the text. -/
structure ReadsThrough (level : LogLevel) (text part : String) (made : Formula → Formula) :
    Prop where
  formula : ∀ inner, (Reader.standard.read level part).outcome = .ok inner →
    (Reader.standard.read level text).outcome = .ok (made inner)
  fault : ∀ fault : ConversionFault, fault.IsMalformedName →
    (Reader.standard.read level part).outcome = .error (.unconverted fault) →
    (Reader.standard.read level text).outcome = .error (.unconverted fault)

namespace Reader

section
variable {level : LogLevel} {text : String} {tree : Tree}

/-- A text has the tree of a phrase exactly when it holds the tokens of one. -/
theorem standard_derive_iff_phrase : (standard.derive level text).outcome = .ok tree ↔
    ∃ phrase : FormulaPhrase,
      Scan.Holds text.toList (phrase.tokens.map Token.written) ∧ phrase.tree = tree := by
  rw [standard_derive_eq_ok_iff]
  constructor
  · rintro ⟨_, tokens, scanned, derived⟩
    have unmarked := kinds_unmarked (Scan.isLexeme_of_result scanned)
    obtain ⟨phrase, written, same⟩ := (Grammar.derive_unmarked_iff unmarked).mp derived
    refine ⟨phrase, Scan.holds_iff.mpr ⟨tokens, scanned, ?_⟩, same⟩
    rw [written, List.map_map]
    rfl
  · rintro ⟨phrase, holds, rfl⟩
    obtain ⟨tokens, scanned, written⟩ := Scan.holds_iff.mp holds
    refine ⟨not_blank_of_tokens scanned ?_, tokens, scanned, ?_⟩
    · rintro rfl
      cases phrase <;> cases written
    · apply derive_of_written _ (kinds_unmarked (Scan.isLexeme_of_result scanned))
      rw [← written, List.map_map]
      rfl

/-- A text with a tree is read as a formula when the tree converts to it. -/
theorem read_eq_ok_iff {formula : Formula}
    (derived : (standard.derive level text).outcome = .ok tree) :
    (standard.read level text).outcome = .ok formula ↔ tree.toFormula = .ok formula := by
  rw [read_of_tree derived, Tree.convert]
  rcases tree.toFormula with (_ | _) | _ <;> simp

/-- A malformed name is reported where conversion finds it, as all faults but nesting are. -/
theorem read_eq_malformed_iff {fault : ConversionFault} (malformed : fault.IsMalformedName)
    (derived : (standard.derive level text).outcome = .ok tree) :
    (standard.read level text).outcome = .error (.unconverted fault) ↔
      tree.toFormula = .error (.fault fault) := by
  have shallow : tree.fault .tooDeep ≠ fault := by
    rintro rfl
    obtain ⟨_, deep | deep⟩ := malformed <;> cases deep
  rw [read_of_tree derived, Tree.convert]
  rcases tree.toFormula with (_ | _) | _ <;> simp [shallow]

/-- What conversion makes of the formula of a part, reading makes of it too. -/
theorem readsThrough_of_map {part : String} {inner : Tree} {made : Formula → Formula}
    (derivedPart : (standard.derive level part).outcome = .ok inner)
    (derived : (standard.derive level text).outcome = .ok tree)
    (converted : tree.toFormula = inner.toFormula.map made) :
    ReadsThrough level text part made := by
  constructor
  · intro formula read
    rw [read_eq_ok_iff derivedPart] at read
    rw [read_eq_ok_iff derived, converted, read]
    rfl
  · intro fault malformed read
    rw [read_eq_malformed_iff malformed derivedPart] at read
    rw [read_eq_malformed_iff malformed derived, converted, read]
    rfl

end

end Reader

namespace FormulaPhrase

theorem toFormula_negation (word : Mark) (parens : Enclosure) (operand : FormulaPhrase) :
    (negation word parens operand).tree.toFormula = operand.tree.toFormula.map .negation := by
  rw [toFormula_tree, toFormula_tree, map_past]
  rfl

theorem toFormula_connected (op : Connective) (word : Mark) (parens : Enclosure)
    (left : FormulaPhrase) (parens' : Enclosure) (right : FormulaPhrase) :
    (connected op word parens left parens' right).tree.toFormula =
      left.tree.toFormula.bind fun formula => right.tree.toFormula.map (.connected op formula) := by
  rw [toFormula_tree, toFormula_tree, toFormula_tree, bind_past, Except.bind, map_past, obstacles,
    past_append]
  rfl

/-- A quantifier with a name that is one is no obstacle. -/
theorem toFormula_quantified (binder : Quantifier) (word : Mark) {name : String}
    (proper : isName name.toList = true) (parens : Enclosure) (body : FormulaPhrase) :
    (quantified binder word (nameLexeme name).mark parens body).tree.toFormula =
      body.tree.toFormula.map (.quantified binder name) := by
  have faultless : (Terminal.name.token (nameLexeme name).mark).fault? = none := by
    rw [Token.fault?_eq_none_iff, proper_iff_named (written_name ⟨nameLexeme name, rfl⟩),
      name_nameLexeme, named_nameLexeme]
    exact proper
  have unhindered : (Terminal.name.token (nameLexeme name).mark).obstacles = [] := by
    rw [Token.obstacles, faultless]
    rfl
  rw [toFormula_tree, toFormula_tree, map_past, obstacles, unhindered, formula, name_nameLexeme]
  rfl

end FormulaPhrase

/-- The parentheses around the operands of a text that is put together. -/
def Enclosure.parens : Enclosure :=
  .of .openParen .closeParen

/-- A name can stand in quotes. -/
theorem wellFormed_nameLexeme {name : String} (proper : isName name.toList = true) :
    (nameLexeme name).WellFormed := by
  intro c member
  have part : isWordPart c = true :=
    List.all_eq_true.mp (Bool.and_eq_true_iff.mp proper).2 c member
  rw [isQuotable, Bool.and_eq_true_iff, bne_iff_ne, bne_iff_ne]
  constructor <;>
  · rintro rfl
    exact absurd part (by decide)

namespace Scan

section
variable {inner behind : List Char} {tokens rest : List Token}

theorem holds_operand (inside : Holds inner (tokens.map Token.written))
    (after : Holds behind (rest.map Token.written)) :
    Holds (' ' :: '(' :: (inner ++ ')' :: behind))
      ((Enclosure.parens.parenthesize tokens ++ rest).map Token.written) := by
  have closed := inside.append (after.delimiter .closeParen) (wordEnds_cons (by decide) behind)
  have written : (Enclosure.parens.parenthesize tokens ++ rest).map Token.written =
      (Lexeme.delimiter .openParen).written :: (tokens.map Token.written ++
        (Lexeme.delimiter .closeParen).written :: rest.map Token.written) := by
    rw [Enclosure.parenthesize, List.cons_append, List.append_assoc, List.map_cons, List.map_append]
    rfl
  rw [written]
  exact (closed.delimiter .openParen).space

theorem holds_last (inside : Holds inner (tokens.map Token.written)) :
    Holds (' ' :: '(' :: (inner ++ [')']))
      ((Enclosure.parens.parenthesize tokens).map Token.written) := by
  have nothing : Holds [] (([] : List Token).map Token.written) := holds_nil
  have operand := holds_operand inside nothing
  rwa [List.append_nil] at operand

theorem holds_keyword (keyword : Keyword) (after : Holds (' ' :: behind) (rest.map Token.written)) :
    Holds (keyword.spelling.toList ++ ' ' :: behind)
      ((Terminal.token (.keyword keyword) (Lexeme.keyword keyword).mark :: rest).map
        Token.written) :=
  after.lexeme (.keyword keyword) trivial fun _ => wordEnds_cons (by decide) behind

theorem holds_name {name : String} (proper : isName name.toList = true)
    (after : Holds behind (rest.map Token.written)) :
    Holds (' ' :: '\x22' :: (name.toList ++ '\x22' :: behind))
      ((Terminal.name.token (nameLexeme name).mark :: rest).map Token.written) := by
  have quoted : '\x22' :: (name.toList ++ '\x22' :: behind) = (nameLexeme name).chars ++ behind := by
    simp [nameLexeme, Lexeme.chars]
  rw [quoted]
  have quotes := after.lexeme (nameLexeme name) (wellFormed_nameLexeme proper)
    fun word => absurd word Bool.false_ne_true
  exact quotes.space

end

end Scan

namespace Reader

section
variable {level : LogLevel} {a b : String} {left right : FormulaPhrase}

theorem derive_negation (holds : Scan.Holds a.toList (left.tokens.map Token.written)) :
    (standard.derive level ("Not (" ++ a ++ ")")).outcome = .ok
      (FormulaPhrase.negation (Lexeme.keyword .negation).mark .parens left).tree := by
  refine standard_derive_iff_phrase.mpr ⟨_, ?_, rfl⟩
  have text : ("Not (" ++ a ++ ")").toList =
      Keyword.negation.spelling.toList ++ ' ' :: '(' :: (a.toList ++ [')']) := by
    simp [Keyword.spelling]
  rw [text]
  exact Scan.holds_keyword .negation (Scan.holds_last holds)

theorem derive_connected (op : Connective)
    (holdsLeft : Scan.Holds a.toList (left.tokens.map Token.written))
    (holdsRight : Scan.Holds b.toList (right.tokens.map Token.written)) :
    (standard.derive level
        ((Keyword.connective op).spelling ++ " (" ++ a ++ ") (" ++ b ++ ")")).outcome =
      .ok (FormulaPhrase.connected op (Lexeme.keyword (.connective op)).mark .parens left
        .parens right).tree := by
  refine standard_derive_iff_phrase.mpr ⟨_, ?_, rfl⟩
  have text : ((Keyword.connective op).spelling ++ " (" ++ a ++ ") (" ++ b ++ ")").toList =
      (Keyword.connective op).spelling.toList ++
        ' ' :: '(' :: (a.toList ++ ')' :: ' ' :: '(' :: (b.toList ++ [')'])) := by
    simp
  rw [text]
  exact Scan.holds_keyword (.connective op) (Scan.holds_operand holdsLeft (Scan.holds_last holdsRight))

theorem derive_quantified (binder : Quantifier) {name : String}
    (proper : isName name.toList = true)
    (holds : Scan.Holds a.toList (left.tokens.map Token.written)) :
    (standard.derive level
        ((Keyword.quantifier binder).spelling ++ " \"" ++ name ++ "\" (" ++ a ++ ")")).outcome =
      .ok (FormulaPhrase.quantified binder (Lexeme.keyword (.quantifier binder)).mark
        (nameLexeme name).mark .parens left).tree := by
  refine standard_derive_iff_phrase.mpr ⟨_, ?_, rfl⟩
  have text : ((Keyword.quantifier binder).spelling ++ " \"" ++ name ++ "\" (" ++ a ++ ")").toList =
      (Keyword.quantifier binder).spelling.toList ++
        ' ' :: '\x22' :: (name.toList ++ '\x22' :: ' ' :: '(' :: (a.toList ++ [')'])) := by
    simp
  rw [text]
  exact Scan.holds_keyword (.quantifier binder) (Scan.holds_name proper (Scan.holds_last holds))

end

end Reader

theorem leaf_keyword (keyword : Keyword) :
    (Terminal.token (.keyword keyword) (Lexeme.keyword keyword).mark).leaf =
      .ofKeyword keyword :=
  congrArg (Tree.leaf keyword.label) String.ofList_toList

theorem group_parens (tree : Tree) : Enclosure.parens.group tree = tree.parenthesized := rfl

theorem nameTree_nameLexeme (name : String) : (nameLexeme name).mark.nameTree = .ofName name := by
  have text : (nameLexeme name).text = "\"" ++ name ++ "\"" :=
    congrArg Prod.snd (written_nameLexeme name)
  exact congrArg (fun text => Tree.branch "name" [.leaf "STRING" text]) text

/-- Reading is compositional. Behind a reserved word, texts that have a tree make a text
whose tree holds theirs. It is read through them: its formula is made of theirs, and a
malformed name in one of them is its own fault, in the left one before the right one. -/
theorem read_composes (level : LogLevel) (a b : String) (treeA treeB : Tree)
    (derivedA : (Reader.standard.derive level a).outcome = .ok treeA)
    (derivedB : (Reader.standard.derive level b).outcome = .ok treeB) :
    (∀ op : Connective,
      let keyword := Keyword.connective op
      let text := keyword.spelling ++ " (" ++ a ++ ") (" ++ b ++ ")"
      (Reader.standard.derive level text).outcome = .ok (.branch keyword.nodeLabel
          [.ofKeyword keyword, treeA.parenthesized, treeB.parenthesized]) ∧
        (∀ left, (Reader.standard.read level a).outcome = .ok left →
          ReadsThrough level text b (.connected op left)) ∧
        ∀ fault : ConversionFault, fault.IsMalformedName →
          (Reader.standard.read level a).outcome = .error (.unconverted fault) →
          (Reader.standard.read level text).outcome = .error (.unconverted fault)) ∧
    (let text := "Not (" ++ a ++ ")"
     (Reader.standard.derive level text).outcome = .ok (.branch "not"
          [.ofKeyword .negation, treeA.parenthesized]) ∧
        ReadsThrough level text a .negation) ∧
    ∀ (binder : Quantifier) (name : String), isName name.toList = true →
      let keyword := Keyword.quantifier binder
      let text := keyword.spelling ++ " \"" ++ name ++ "\" (" ++ a ++ ")"
      (Reader.standard.derive level text).outcome = .ok (.branch keyword.nodeLabel
          [.ofKeyword keyword, .ofName name, treeA.parenthesized]) ∧
        ReadsThrough level text a (.quantified binder name) := by
  obtain ⟨left, holdsLeft, rfl⟩ := Reader.standard_derive_iff_phrase.mp derivedA
  obtain ⟨right, holdsRight, rfl⟩ := Reader.standard_derive_iff_phrase.mp derivedB
  refine ⟨?_, ?_, ?_⟩
  · intro op keyword text
    have derived : (Reader.standard.derive level text).outcome = .ok _ :=
      Reader.derive_connected op holdsLeft holdsRight
    have converted := FormulaPhrase.toFormula_connected op (Lexeme.keyword keyword).mark .parens
      left .parens right
    refine ⟨?_, ?_, ?_⟩
    · rw [derived, FormulaPhrase.tree, leaf_keyword, group_parens, group_parens]
    · intro formula read
      rw [(Reader.read_eq_ok_iff derivedA).mp read] at converted
      exact Reader.readsThrough_of_map derivedB derived converted
    · intro fault malformed read
      rw [(Reader.read_eq_malformed_iff malformed derivedA).mp read] at converted
      exact (Reader.read_eq_malformed_iff malformed derived).mpr converted
  · intro text
    have derived : (Reader.standard.derive level text).outcome = .ok _ :=
      Reader.derive_negation holdsLeft
    refine ⟨?_, ?_⟩
    · rw [derived, FormulaPhrase.tree, leaf_keyword, group_parens]
      rfl
    · exact Reader.readsThrough_of_map derivedA derived (FormulaPhrase.toFormula_negation ..)
  · intro binder name proper keyword text
    have derived : (Reader.standard.derive level text).outcome = .ok _ :=
      Reader.derive_quantified binder proper holdsLeft
    refine ⟨?_, ?_⟩
    · rw [derived, FormulaPhrase.tree, leaf_keyword, nameTree_nameLexeme, group_parens]
    · exact Reader.readsThrough_of_map derivedA derived
        (FormulaPhrase.toFormula_quantified binder _ proper .parens left)

theorem read_composes_improper_right :
    (Reader.standard.derive .silent "T ").outcome =
        .ok (.branch "truth" [.leaf "TRUE" "T"]) ∧
      (Reader.standard.read .silent "Implies (T ) (Rel \"-\" [])").outcome =
        .error (.unconverted ⟨.improperName "\"-\"", "name", ["STRING"]⟩) ∧
      (Reader.standard.read .silent "Forall \"x0\" (T )").outcome =
        .ok (.quantified .universal "x0" (.constant true)) := by
  have derivedA : (Reader.standard.derive .silent "T ").outcome =
      .ok (.branch "truth" [.leaf "TRUE" "T"]) := by
    decide +kernel
  have derivedB : (Reader.standard.derive .silent "Rel \"-\" []").outcome =
      .ok (.branch "relation" [.ofKeyword .relation, .ofName "-", .leaf "LBRACKET" "[",
        .branch "terms" [], .leaf "RBRACKET" "]"]) := by
    decide +kernel
  have readA : (Reader.standard.read .silent "T ").outcome = .ok (.constant true) := by
    decide +kernel
  have readB : (Reader.standard.read .silent "Rel \"-\" []").outcome =
      .error (.unconverted ⟨.improperName "\"-\"", "name", ["STRING"]⟩) := by
    decide +kernel
  obtain ⟨connected, _, quantified⟩ := read_composes .silent _ _ _ _ derivedA derivedB
  obtain ⟨_, through, _⟩ := connected .implication
  obtain ⟨_, bound⟩ := quantified .universal "x0" (by decide)
  exact ⟨derivedA, (through _ readA).fault _ ⟨_, .inr rfl⟩ readB, bound.formula _ readA⟩

/-! Text behind a formula. No sentence goes on behind a whole one, so that a text with a
tree has none any more when more tokens follow it, and the first of these is the one that
is turned down, at its place in the whole text. -/

namespace Scan

/-- Behind a space, the tokens of a text are those that it has alone, moved to their place
in the whole text. -/
theorem result_append_space {a b : String} {first second : List PlacedToken}
    (scanned : (ofText a).result = .ok first) (behind : (ofText b).result = .ok second) :
    (ofText (a ++ " " ++ b)).result = .ok
      (first ++ second.map (.moved (Layout.newlines a.toList) (a.length + 1))) := by
  rw [result_eq_ok_iff] at scanned behind ⊢
  obtain ⟨faultless, rfl⟩ := scanned
  obtain ⟨faultless', rfl⟩ := behind
  have spaced : ∀ c ∈ " ".toList, isLayout c = true := List.all_eq_true.mp (by decide)
  have counted : Layout.newlines (a ++ " ").toList = Layout.newlines a.toList := by
    rw [String.toList_append]
    exact Layout.newlines_append a.toList [' ']
  have length : ((a ++ " ").length : Int) = a.length + 1 := by
    rw [String.length_append]
    rfl
  have whole := run_apart a " " b 1 faultless spaced (by decide)
  rw [counted, length] at whole
  rw [ofText, whole]
  refine ⟨?_, rfl⟩
  exact congrArg (Option.map _) faultless'

end Scan

namespace Reader

section
variable {level : LogLevel} {text : String} {fault : SyntaxFault}

/-- The tokens of a text that are no sentence are turned down with their fault. -/
theorem standard_derive_ungrammatical {tokens : List PlacedToken}
    (scanned : (Scan.ofText text).result = .ok tokens) (some : tokens ≠ [])
    (failed : Grammar.derive (tokens.map PlacedToken.toToken) = .error fault) :
    (standard.derive level text).outcome = .error (.rejected (.ungrammatical fault)) := by
  have present := not_blank_of_tokens scanned some
  rw [derive, present]
  simp only [Bool.false_eq_true, if_false, exceededLimit?, standard, Option.filter_none,
    Engine.standard, Engine.build, scanned, failed, reject]

end

end Reader

/-- The language of formulas is prefix-free: no sentence is a proper beginning of another
one. Behind a text that has a tree, further tokens are therefore turned down, at the first
of them, and the fault lies where that token stands in the whole text. -/
theorem read_trailing (level : LogLevel) :
    (∀ labels more, Grammar.Sentence labels → Grammar.Sentence (labels ++ more) → more = []) ∧
    ∀ (a b : String) (tree : Tree) (token : PlacedToken) (rest : List PlacedToken),
      (Reader.standard.derive level a).outcome = .ok tree →
      (Scan.ofText b).result = .ok (token :: rest) →
      let text := a ++ " " ++ b
      let place : Int := a.length + 1 + token.index
      let fault := SyntaxFault.unexpectedToken ⟨token.kind, token.value, place⟩
      (Reader.standard.derive level text).outcome = .error (.rejected (.ungrammatical fault)) ∧
        Reader.standard.outcome level text =
          .error (.reported (.rejection (fault.message text) (some text) (some place)) none) := by
  refine ⟨fun _ _ => Grammar.sentence_prefix_free, ?_⟩
  intro a b tree token rest derived behind text place fault
  obtain ⟨_, tokens, scanned, derived⟩ := Reader.standard_derive_eq_ok_iff.mp derived
  have whole := Scan.result_append_space scanned behind
  have lexemes := kinds_unmarked (Scan.isLexeme_of_result scanned)
  have unmarked := kinds_unmarked (Scan.isLexeme_of_result whole)
  obtain ⟨phrase, written, rfl⟩ := (Grammar.derive_unmarked_iff lexemes).mp derived
  rw [List.map_append, ← written, List.map_cons, List.map_cons] at unmarked
  have failed := Grammar.derive_behind_formula phrase _ _ unmarked
  have turnedDown : (Reader.standard.derive level text).outcome =
      .error (.rejected (.ungrammatical fault)) := by
    apply Reader.standard_derive_ungrammatical whole (by simp)
    rw [List.map_append, ← written, List.map_cons, List.map_cons, failed]
    simp only [PlacedToken.moved, fault, place, Int.add_comm]
  refine ⟨turnedDown, ?_⟩
  rw [Reader.outcome, Reader.read_of_error turnedDown]
  rfl

theorem read_trailing_next_line :
    (Reader.standard.derive .silent "Not (T)").outcome = .ok (.branch "not"
        [.leaf "NOT" "Not", .branch "group"
          [.leaf "LPAREN" "(", .branch "truth" [.leaf "TRUE" "T"], .leaf "RPAREN" ")"]]) ∧
      (Scan.ofText "\n \"x\" )").result =
        .ok [⟨⟨"STRING", "\"x\"", 2⟩, 2, 5⟩, ⟨⟨"RPAREN", ")", 6⟩, 2, 7⟩] ∧
      Reader.standard.outcome .silent "Not (T) \n \"x\" )" = .error (.reported (.rejection
        "Syntax error at '\"x\"' (type: STRING, index: 10) in formula: Not (T) \n \"x\" )"
        (some "Not (T) \n \"x\" )") (some 10)) none) := by
  have derived : (Reader.standard.derive .silent "Not (T)").outcome = .ok (.branch "not"
      [.leaf "NOT" "Not", .branch "group"
        [.leaf "LPAREN" "(", .branch "truth" [.leaf "TRUE" "T"], .leaf "RPAREN" ")"]]) := by
    decide +kernel
  have behind : (Scan.ofText "\n \"x\" )").result =
      .ok [⟨⟨"STRING", "\"x\"", 2⟩, 2, 5⟩, ⟨⟨"RPAREN", ")", 6⟩, 2, 7⟩] := by
    decide +kernel
  obtain ⟨_, turnedDown⟩ := (read_trailing .silent).2 _ _ _ _ _ derived behind
  exact ⟨derived, behind, turnedDown⟩

end FirstOrderText
