import FirstOrderText.Outcome
import FirstOrderText.Proofs.Phrase

/-! Derivations and phrases describe the same trees. A derivation may end a term
list anywhere, since the grammar grows such a list at its end, while a phrase grows
it at its front; both hold the same terms and commas. Forgetting the texts of a
derivation tree leaves a derivation of its labels, so that sentences are exactly
the labels of phrases. -/
namespace FirstOrderText.Grammar
open FirstOrderText.Tree (leavesAll)

theorem derivesTrees_append {front back : List Symbol} {trees trees' : List Tree}
    (left : DerivesTrees front trees) (right : DerivesTrees back trees') :
    DerivesTrees (front ++ back) (trees ++ trees') := by
  induction left with
  | nil => exact right
  | leaf text _ ih => exact .leaf text ih
  | node rule below _ _ ih => exact .node rule below ih
  | inline rule _ ih => exact .inline rule (by rwa [List.append_assoc] at ih)

theorem derives_append {front back : List Symbol} {kinds kinds' : List Terminal}
    (left : Derives front kinds) (right : Derives back kinds') :
    Derives (front ++ back) (kinds ++ kinds') := by
  induction left with
  | nil => exact right
  | terminal _ ih => exact .terminal ih
  | expand rule _ ih => exact .expand rule (by rwa [List.append_assoc] at ih)

/-- What a sequence derives is divided where the sequence is. -/
theorem derivesTrees_split {front back : List Symbol} {trees : List Tree}
    (derived : DerivesTrees (front ++ back) trees) :
    ∃ left right, trees = left ++ right ∧ DerivesTrees front left ∧ DerivesTrees back right := by
  generalize same : front ++ back = symbols at derived
  induction derived generalizing front with
  | nil =>
    obtain ⟨rfl, rfl⟩ := List.append_eq_nil_iff.mp same
    exact ⟨[], [], rfl, .nil, .nil⟩
  | leaf text rest ih =>
    rcases List.append_eq_cons_iff.mp same with ⟨rfl, rfl⟩ | ⟨front, rfl, within⟩
    · exact ⟨[], _, rfl, .nil, .leaf text rest⟩
    · obtain ⟨left, right, rfl, first, second⟩ := ih within.symm
      exact ⟨_ :: left, right, rfl, .leaf text first, second⟩
  | node rule below rest _ ih =>
    rcases List.append_eq_cons_iff.mp same with ⟨rfl, rfl⟩ | ⟨front, rfl, within⟩
    · exact ⟨[], _, rfl, .nil, .node rule below rest⟩
    · obtain ⟨left, right, rfl, first, second⟩ := ih within.symm
      exact ⟨_ :: left, right, rfl, .node rule below first, second⟩
  | inline rule rest ih =>
    rcases List.append_eq_cons_iff.mp same with ⟨rfl, rfl⟩ | ⟨front, rfl, rfl⟩
    · exact ⟨[], _, rfl, .nil, .inline rule rest⟩
    · obtain ⟨left, right, rfl, first, second⟩ := ih (List.append_assoc ..)
      exact ⟨left, right, rfl, .inline rule first, second⟩

/-- Every derivation of labels has a tree. -/
theorem exists_trees_of_derives {symbols : List Symbol} {kinds : List Terminal}
    (derived : Derives symbols kinds) :
    ∃ trees, DerivesTrees symbols trees ∧
      (leavesAll trees).map Tree.label = kinds.map Terminal.label := by
  induction derived with
  | nil => exact ⟨[], .nil, rfl⟩
  | terminal _ ih =>
    obtain ⟨trees, derived, labels⟩ := ih
    refine ⟨_, .leaf "" derived, ?_⟩
    simp [labels]
  | @expand part production _ _ rule _ ih =>
    obtain ⟨trees, derived, labels⟩ := ih
    rcases production with ⟨_ | label, inner⟩
    · exact ⟨trees, .inline rule derived, labels⟩
    · obtain ⟨children, rest, rfl, below, beside⟩ := derivesTrees_split derived
      exact ⟨_, .node rule below beside, by simpa using labels⟩

/-- Every derivation tree is a derivation of the labels of its leaves. -/
theorem exists_kinds_of_derivesTrees {symbols : List Symbol} {trees : List Tree}
    (derived : DerivesTrees symbols trees) :
    ∃ kinds, Derives symbols kinds ∧
      (leavesAll trees).map Tree.label = kinds.map Terminal.label := by
  induction derived with
  | nil => exact ⟨[], .nil, rfl⟩
  | leaf text _ ih =>
    obtain ⟨kinds, derived, labels⟩ := ih
    refine ⟨_, .terminal derived, ?_⟩
    simp [labels]
  | node rule _ _ below beside =>
    obtain ⟨inner, derivedInner, labelsInner⟩ := below
    obtain ⟨kinds, derived, labels⟩ := beside
    exact ⟨_, .expand rule (derives_append derivedInner derived), by simp [labelsInner, labels]⟩
  | inline rule _ ih =>
    obtain ⟨kinds, derived, labels⟩ := ih
    exact ⟨kinds, .expand rule derived, labels⟩

/-- What a reserved word is followed by in its production. -/
def followingSymbols : Keyword → List Symbol
  | .constant _ => []
  | .relation | .application => .part .name :: arguments
  | .variableName => [.part .name]
  | .negation => [.part .group]
  | .connective _ => [.part .group, .part .group]
  | .quantifier _ => [.part .name, .part .group]

/-- The productions of formulas and of terms are those of their reserved words. -/
theorem mem_productions_formula {label : String} {inner : List Symbol} :
    ⟨some label, inner⟩ ∈ productions .formula ↔
      ∃ keyword : Keyword, keyword.beginsTerm = false ∧ label = keyword.nodeLabel ∧
        inner = word keyword :: followingSymbols keyword := by
  constructor
  · intro rule
    simp only [productions, List.mem_cons, List.not_mem_nil, or_false, Production.mk.injEq,
      Option.some.injEq] at rule
    rcases rule with ⟨rfl, rfl⟩ | ⟨rfl, rfl⟩ | ⟨rfl, rfl⟩ | ⟨rfl, rfl⟩ | ⟨rfl, rfl⟩ | ⟨rfl, rfl⟩ |
      ⟨rfl, rfl⟩ | ⟨rfl, rfl⟩ | ⟨rfl, rfl⟩
    all_goals exact ⟨_, rfl, rfl, rfl⟩
  · rintro ⟨keyword, formula, rfl, rfl⟩
    rcases keyword with (_ | _) | _ | _ | _ | _ | (_ | _ | _) | (_ | _)
    all_goals revert formula; decide

theorem mem_productions_term {label : String} {inner : List Symbol} :
    ⟨some label, inner⟩ ∈ productions .term ↔
      ∃ keyword : Keyword, keyword.beginsTerm = true ∧ label = keyword.nodeLabel ∧
        inner = word keyword :: followingSymbols keyword := by
  constructor
  · intro rule
    simp only [productions, List.mem_cons, List.not_mem_nil, or_false, Production.mk.injEq,
      Option.some.injEq] at rule
    rcases rule with ⟨rfl, rfl⟩ | ⟨rfl, rfl⟩
    all_goals exact ⟨_, rfl, rfl, rfl⟩
  · rintro ⟨keyword, term, rfl, rfl⟩
    cases keyword with
    | variableName | application => decide
    | constant _ | relation | negation | connective _ | quantifier _ => cases term

/-- The trees of the phrases of each part. -/
def IsPhrase : Part → List Tree → Prop
  | .formula, trees => ∃ phrase : FormulaPhrase, trees = [phrase.tree]
  | .group, trees => ∃ (parens : Enclosure) (phrase : FormulaPhrase), trees = [parens.group phrase.tree]
  | .terms, trees => ∃ args : TermsPhrase, trees = [args.tree]
  | .termSeq, trees => ∃ first more, trees = (TermsPhrase.some first more).trees
  | .term, trees => ∃ term : TermPhrase, trees = [term.tree]
  | .name, trees => ∃ mark : Mark, trees = [mark.nameTree]

/-- Trees that are phrases for the parts of a sequence of symbols. -/
def ArePhrases : List Symbol → List Tree → Prop
  | [], trees => trees = []
  | .terminal kind :: symbols, trees =>
    ∃ mark rest, trees = (kind.token mark).leaf :: rest ∧ ArePhrases symbols rest
  | .part part :: symbols, trees =>
    ∃ front rest, trees = front ++ rest ∧ IsPhrase part front ∧ ArePhrases symbols rest

private theorem formula_node_is_phrase {keyword : Keyword} (formula : keyword.beginsTerm = false)
    {children : List Tree}
    (phrases : ArePhrases (word keyword :: followingSymbols keyword) children) :
    IsPhrase .formula [.branch keyword.nodeLabel children] := by
  obtain ⟨mark, rest, rfl, phrases⟩ := phrases
  cases keyword with
  | constant value =>
    obtain rfl := phrases
    exact ⟨.constant value mark, rfl⟩
  | relation =>
    obtain ⟨_, _, rfl, ⟨name, rfl⟩, opened, _, rfl, _, _, rfl, ⟨args, rfl⟩, closed, _, rfl, rfl⟩ :=
      phrases
    exact ⟨.atom mark name ⟨opened, closed⟩ args, rfl⟩
  | negation =>
    obtain ⟨_, _, rfl, ⟨parens, operand, rfl⟩, rfl⟩ := phrases
    exact ⟨.negation mark parens operand, rfl⟩
  | connective op =>
    obtain ⟨_, _, rfl, ⟨parens, left, rfl⟩, _, _, rfl, ⟨parens', right, rfl⟩, rfl⟩ := phrases
    exact ⟨.connected op mark parens left parens' right, rfl⟩
  | quantifier binder =>
    obtain ⟨_, _, rfl, ⟨name, rfl⟩, _, _, rfl, ⟨parens, body, rfl⟩, rfl⟩ := phrases
    exact ⟨.quantified binder mark name parens body, rfl⟩
  | variableName | application => cases formula

private theorem term_node_is_phrase {keyword : Keyword} (term : keyword.beginsTerm = true)
    {children : List Tree}
    (phrases : ArePhrases (word keyword :: followingSymbols keyword) children) :
    IsPhrase .term [.branch keyword.nodeLabel children] := by
  obtain ⟨mark, rest, rfl, phrases⟩ := phrases
  cases keyword with
  | variableName =>
    obtain ⟨_, _, rfl, ⟨name, rfl⟩, rfl⟩ := phrases
    exact ⟨.var mark name, rfl⟩
  | application =>
    obtain ⟨_, _, rfl, ⟨name, rfl⟩, opened, _, rfl, _, _, rfl, ⟨args, rfl⟩, closed, _, rfl, rfl⟩ :=
      phrases
    exact ⟨.app mark name ⟨opened, closed⟩ args, rfl⟩
  | constant _ | relation | negation | connective _ | quantifier _ => cases term

private theorem node_is_phrase {part : Part} {label : String} {inner : List Symbol}
    {children : List Tree} (rule : ⟨some label, inner⟩ ∈ productions part)
    (phrases : ArePhrases inner children) : IsPhrase part [.branch label children] := by
  cases part with
  | formula =>
    obtain ⟨keyword, formula, rfl, rfl⟩ := mem_productions_formula.mp rule
    exact formula_node_is_phrase formula phrases
  | term =>
    obtain ⟨keyword, term, rfl, rfl⟩ := mem_productions_term.mp rule
    exact term_node_is_phrase term phrases
  | group =>
    obtain ⟨rfl, rfl⟩ : label = "group" ∧ _ := by simpa [productions] using rule
    obtain ⟨opened, _, rfl, _, _, rfl, ⟨phrase, rfl⟩, closed, _, rfl, rfl⟩ := phrases
    exact ⟨⟨opened, closed⟩, phrase, rfl⟩
  | terms =>
    simp only [productions, List.mem_cons, List.not_mem_nil, or_false, Production.mk.injEq,
      Option.some.injEq] at rule
    rcases rule with ⟨rfl, rfl⟩ | ⟨rfl, rfl⟩
    · obtain rfl := phrases
      exact ⟨.none, rfl⟩
    · obtain ⟨_, _, rfl, ⟨first, more, rfl⟩, rfl⟩ := phrases
      exact ⟨.some first more, by rw [List.append_nil]; rfl⟩
  | termSeq => simp [productions] at rule
  | name =>
    obtain ⟨rfl, rfl⟩ : label = "name" ∧ _ := by simpa [productions] using rule
    obtain ⟨mark, _, rfl, rfl⟩ := phrases
    exact ⟨mark, rfl⟩

private theorem inline_are_phrases {part : Part} {inner symbols : List Symbol} {trees : List Tree}
    (rule : ⟨none, inner⟩ ∈ productions part) (phrases : ArePhrases (inner ++ symbols) trees) :
    ArePhrases (.part part :: symbols) trees := by
  cases part with
  | termSeq =>
    simp only [productions, List.mem_cons, List.not_mem_nil, or_false, Production.mk.injEq,
      true_and] at rule
    rcases rule with rfl | rfl
    · obtain ⟨_, rest, rfl, ⟨first, rfl⟩, phrases⟩ := phrases
      exact ⟨_, rest, rfl, ⟨first, .done, rfl⟩, phrases⟩
    · obtain ⟨_, _, rfl, ⟨first, more, rfl⟩, comma, _, rfl, _, rest, rfl, ⟨term, rfl⟩, phrases⟩ :=
        phrases
      refine ⟨_, rest, ?_, ⟨first, more.append comma term, rfl⟩, phrases⟩
      simp [TermsPhrase.trees, TailPhrase.trees_append]
  | _ => simp [productions] at rule

/-- Every derivation tree is the tree of a phrase, part by part. -/
theorem arePhrases_of_derivesTrees {symbols : List Symbol} {trees : List Tree}
    (derived : DerivesTrees symbols trees) : ArePhrases symbols trees := by
  induction derived with
  | nil => rfl
  | leaf text _ ih => exact ⟨⟨text, 0⟩, _, rfl, ih⟩
  | node rule _ _ below beside => exact ⟨[_], _, rfl, node_is_phrase rule below, beside⟩
  | inline rule _ ih => exact inline_are_phrases rule ih

theorem derivesTrees_token (kind : Terminal) (mark : Mark) :
    DerivesTrees [.terminal kind] [(kind.token mark).leaf] :=
  .leaf mark.text .nil

theorem derivesTrees_name (mark : Mark) : DerivesTrees [.part .name] [mark.nameTree] :=
  .node (by decide) (derivesTrees_token .name mark) .nil

theorem derivesTrees_bracketed {args : TermsPhrase} (brackets : Enclosure)
    (listed : DerivesTrees [.part .terms] [args.tree]) :
    DerivesTrees arguments [(Terminal.token (.delimiter .openBracket) brackets.opened).leaf,
      args.tree, (Terminal.token (.delimiter .closeBracket) brackets.closed).leaf] :=
  derivesTrees_append (derivesTrees_token (.delimiter .openBracket) brackets.opened)
    (derivesTrees_append listed (derivesTrees_token (.delimiter .closeBracket) brackets.closed))

theorem derivesTrees_group {inner : Tree} (parens : Enclosure)
    (derived : DerivesTrees [.part .formula] [inner]) :
    DerivesTrees [.part .group] [parens.group inner] :=
  .node (by decide) (derivesTrees_append
    (derivesTrees_token (.delimiter .openParen) parens.opened) (derivesTrees_append derived
      (derivesTrees_token (.delimiter .closeParen) parens.closed))) .nil

mutual

theorem derivesTrees_term (term : TermPhrase) : DerivesTrees [.part .term] [term.tree] := by
  cases term with
  | var word name =>
    exact .node (mem_productions_term.mpr ⟨.variableName, rfl, rfl, rfl⟩)
      (.leaf word.text (derivesTrees_name name)) .nil
  | app word name brackets args =>
    exact .node (mem_productions_term.mpr ⟨.application, rfl, rfl, rfl⟩)
      (.leaf word.text (derivesTrees_append (derivesTrees_name name)
        (derivesTrees_bracketed brackets (derivesTrees_terms args)))) .nil

theorem derivesTrees_terms (args : TermsPhrase) : DerivesTrees [.part .terms] [args.tree] := by
  cases args with
  | none => exact .node (by decide) .nil .nil
  | some first more =>
    have single : ⟨none, [.part .term]⟩ ∈ productions .termSeq := by decide
    have one : DerivesTrees [.part .termSeq] [first.tree] := .inline single (derivesTrees_term first)
    exact .node (by decide) (derivesTrees_tail more one) .nil

/-- A sequence of terms may be followed by more of them. -/
theorem derivesTrees_tail (tail : TailPhrase) {trees : List Tree}
    (before : DerivesTrees [.part .termSeq] trees) :
    DerivesTrees [.part .termSeq] (trees ++ tail.trees) := by
  cases tail with
  | done => rwa [TailPhrase.trees, List.append_nil]
  | next comma term more =>
    have another : ⟨none, [.part .termSeq, mark .comma, .part .term]⟩ ∈ productions .termSeq := by
      decide
    have longer : DerivesTrees [.part .termSeq, mark .comma, .part .term]
        (trees ++ [(Terminal.token (.delimiter .comma) comma).leaf, term.tree]) :=
      derivesTrees_append before (derivesTrees_append
        (derivesTrees_token (.delimiter .comma) comma) (derivesTrees_term term))
    rw [TailPhrase.trees, List.append_cons, List.append_cons, List.append_assoc trees]
    exact derivesTrees_tail more (.inline another longer)

end

/-- The tree of every phrase is a derivation tree. -/
theorem isDerivation_tree (phrase : FormulaPhrase) : IsDerivation phrase.tree := by
  induction phrase with
  | constant value word =>
    exact .node (mem_productions_formula.mpr ⟨.constant value, rfl, rfl, rfl⟩)
      (.leaf word.text .nil) .nil
  | atom word name brackets args =>
    exact .node (mem_productions_formula.mpr ⟨.relation, rfl, rfl, rfl⟩)
      (.leaf word.text (derivesTrees_append (derivesTrees_name name)
        (derivesTrees_bracketed brackets (derivesTrees_terms args)))) .nil
  | negation word parens operand ih =>
    exact .node (mem_productions_formula.mpr ⟨.negation, rfl, rfl, rfl⟩)
      (.leaf word.text (derivesTrees_group parens ih)) .nil
  | connected op word parens left parens' right onLeft onRight =>
    exact .node (mem_productions_formula.mpr ⟨.connective op, rfl, rfl, rfl⟩)
      (.leaf word.text (derivesTrees_append (derivesTrees_group parens onLeft)
        (derivesTrees_group parens' onRight))) .nil
  | quantified binder word name parens body ih =>
    exact .node (mem_productions_formula.mpr ⟨.quantifier binder, rfl, rfl, rfl⟩)
      (.leaf word.text (derivesTrees_append (derivesTrees_name name)
        (derivesTrees_group parens ih))) .nil

theorem isDerivation_iff {tree : Tree} :
    IsDerivation tree ↔ ∃ phrase : FormulaPhrase, phrase.tree = tree := by
  constructor
  · intro derived
    obtain ⟨front, rest, same, ⟨phrase, rfl⟩, rfl⟩ := arePhrases_of_derivesTrees derived
    exact ⟨phrase, (List.singleton_inj.mp same).symm⟩
  · rintro ⟨phrase, rfl⟩
    exact isDerivation_tree phrase

private theorem map_label_leaves (phrase : FormulaPhrase) :
    phrase.tree.leaves.map Tree.label = phrase.tokens.map Token.kind := by
  rw [phrase.leaves_tree, List.map_map]
  rfl

/-- Sentences are the labels of phrases. -/
theorem sentence_iff {labels : List String} :
    Sentence labels ↔ ∃ phrase : FormulaPhrase, phrase.tokens.map Token.kind = labels := by
  constructor
  · rintro ⟨kinds, derived, rfl⟩
    obtain ⟨trees, derived, labels⟩ := exists_trees_of_derives derived
    obtain ⟨front, rest, rfl, ⟨phrase, rfl⟩, rfl⟩ := arePhrases_of_derivesTrees derived
    refine ⟨phrase, ?_⟩
    rw [← map_label_leaves, ← labels]
    simp
  · rintro ⟨phrase, rfl⟩
    obtain ⟨kinds, derived, labels⟩ := exists_kinds_of_derivesTrees (isDerivation_tree phrase)
    refine ⟨kinds, derived, ?_⟩
    rw [← map_label_leaves, ← labels]
    simp

/-! What meets each goal, one goal at a time. Every statement says exactly which
tokens a goal takes before it hands the rest to the goals behind it, so that nothing
later looks into the steps of an outline. -/

section

open FirstOrderText.Tree (Event outlineAll)

variable {goals : List Goal} {tokens rest : List Token} {events : List Event}

@[simp] theorem outline_leaf (token : Token) : token.leaf.outline = [token.event] := rfl

@[simp] theorem outline_branch (label : String) (children : List Tree) :
    (Tree.branch label children).outline = .opening label :: (outlineAll children ++ [.closing]) := by
  rw [Tree.branch, Tree.outline]

@[simp] theorem outlineAll_nil : outlineAll [] = [] := by
  rw [outlineAll]

@[simp] theorem outlineAll_cons (tree : Tree) (trees : List Tree) :
    outlineAll (tree :: trees) = tree.outline ++ outlineAll trees := by
  rw [outlineAll]

theorem outline_nil_iff : outline goals [] = .ok events ↔ finish? goals = some events := by
  unfold outline
  cases finish? goals <;> simp

theorem outline_cons_iff {token : Token} :
    outline goals (token :: rest) = .ok events ↔ ∃ step more, advance? token goals = some step ∧
      events = step.events ++ more ∧ outline step.goals rest = .ok more := by
  rw [outline]
  cases advance? token goals with
  | none => simp
  | some step => simp [map_eq_ok_iff, and_comm]

/-- An open node that needs no more is closed without a token. -/
theorem outline_close_iff : outline (.close :: goals) tokens = .ok events ↔
    ∃ more, events = .closing :: more ∧ outline goals tokens = .ok more := by
  cases tokens with
  | nil =>
    simp only [outline_nil_iff, finish?, Option.map_eq_some_iff]
    apply exists_congr
    intro more
    rw [and_comm, eq_comm]
  | cons token rest =>
    simp only [outline_cons_iff, advance?, Option.map_eq_some_iff]
    constructor
    · rintro ⟨_, more, ⟨step, advanced, rfl⟩, rfl, ran⟩
      exact ⟨_, rfl, step, more, advanced, rfl, ran⟩
    · rintro ⟨_, rfl, step, more, advanced, rfl, ran⟩
      exact ⟨_, more, ⟨step, advanced, rfl⟩, rfl, ran⟩

/-- A goal that nothing can finish takes a token. -/
theorem outline_needing_iff (goal : Goal) (needs : finish? (goal :: goals) = none) :
    outline (goal :: goals) tokens = .ok events ↔ ∃ token rest step more, tokens = token :: rest ∧
      advance? token (goal :: goals) = some step ∧ events = step.events ++ more ∧
        outline step.goals rest = .ok more := by
  cases tokens with
  | nil => simp [outline_nil_iff, needs]
  | cons token rest =>
    rw [outline_cons_iff]
    constructor
    · rintro ⟨step, more, advanced, rfl, ran⟩
      exact ⟨token, rest, step, more, rfl, advanced, rfl, ran⟩
    · rintro ⟨_, _, step, more, same, advanced, rfl, ran⟩
      cases same
      exact ⟨step, more, advanced, rfl, ran⟩

theorem outline_expect_iff {kind : Terminal} :
    outline (.expect kind :: goals) tokens = .ok events ↔ ∃ mark rest more,
      tokens = kind.token mark :: rest ∧ events = (kind.token mark).event :: more ∧
        outline goals rest = .ok more := by
  simp only [outline_needing_iff (.expect kind) rfl, advance?,
    Option.ite_none_right_eq_some, Token.isKind_iff]
  constructor
  · rintro ⟨_, rest, _, more, rfl, ⟨⟨mark, rfl⟩, met⟩, rfl, ran⟩
    cases met
    exact ⟨mark, rest, more, rfl, rfl, ran⟩
  · rintro ⟨mark, rest, more, rfl, rfl, ran⟩
    exact ⟨_, rest, _, more, rfl, ⟨⟨mark, rfl⟩, rfl⟩, rfl, ran⟩

theorem outline_name_iff : outline (.name :: goals) tokens = .ok events ↔ ∃ mark rest more,
    tokens = Terminal.name.token mark :: rest ∧ events = mark.nameTree.outline ++ more ∧
      outline goals rest = .ok more := by
  simp only [outline_needing_iff .name rfl, advance?, Option.ite_none_right_eq_some,
    Token.isKind_iff]
  constructor
  · rintro ⟨_, rest, _, _, rfl, ⟨⟨mark, rfl⟩, met⟩, rfl, closed⟩
    cases met
    obtain ⟨more, rfl, ran⟩ := outline_close_iff.mp closed
    exact ⟨mark, rest, more, rfl, rfl, ran⟩
  · rintro ⟨mark, rest, more, rfl, rfl, ran⟩
    exact ⟨_, rest, _, _, rfl, ⟨⟨mark, rfl⟩, rfl⟩, rfl, outline_close_iff.mpr ⟨more, rfl, ran⟩⟩

theorem outline_group_iff : outline (.group :: goals) tokens = .ok events ↔ ∃ mark rest more,
    tokens = Terminal.token (.delimiter .openParen) mark :: rest ∧
      events = .opening "group" :: (Terminal.token (.delimiter .openParen) mark).event :: more ∧
        outline (.formula :: .expect (.delimiter .closeParen) :: .close :: goals) rest = .ok more := by
  simp only [outline_needing_iff .group rfl, advance?, Option.ite_none_right_eq_some,
    Token.isKind_iff]
  constructor
  · rintro ⟨_, rest, _, more, rfl, ⟨⟨mark, rfl⟩, met⟩, rfl, ran⟩
    cases met
    exact ⟨mark, rest, more, rfl, rfl, ran⟩
  · rintro ⟨mark, rest, more, rfl, rfl, ran⟩
    exact ⟨_, rest, _, more, rfl, ⟨⟨mark, rfl⟩, rfl⟩, rfl, ran⟩

theorem keyword_of_label_iff {token : Token} {keyword : Keyword} :
    Keyword.ofLabel? token.kind = some keyword ↔
      ∃ mark, token = Terminal.token (.keyword keyword) mark := by
  rw [Keyword.ofLabel?_eq_some_iff, ← Token.isKind_iff, Token.isKind, beq_iff_eq]
  exact eq_comm

theorem formulaWord?_eq_some_iff {token : Token} {keyword : Keyword} :
    token.formulaWord? = some keyword ↔
      keyword.beginsTerm = false ∧ ∃ mark, token = Terminal.token (.keyword keyword) mark := by
  rw [Token.formulaWord?, Option.filter_eq_some_iff, keyword_of_label_iff, and_comm,
    Bool.not_eq_true']

theorem termWord?_eq_some_iff {token : Token} {keyword : Keyword} :
    token.termWord? = some keyword ↔
      keyword.beginsTerm = true ∧ ∃ mark, token = Terminal.token (.keyword keyword) mark := by
  rw [Token.termWord?, Option.filter_eq_some_iff, keyword_of_label_iff, and_comm]

theorem termWord?_delimiter (delimiter : Delimiter) (mark : Mark) :
    (Terminal.token (.delimiter delimiter) mark).termWord? = none := by
  cases delimiter <;> rfl

/-- The goal that the reserved words of terms, or else those of formulas, begin. -/
def worded (asTerm : Bool) : Goal :=
  if asTerm then .term else .formula

/-- A formula or term begins with a word and goes on with what that word asks for. -/
theorem outline_worded_iff (asTerm : Bool) :
    outline (worded asTerm :: goals) tokens = .ok events ↔
      ∃ (keyword : Keyword) (mark : Mark) (rest : List Token) (more : List Event),
        keyword.beginsTerm = asTerm ∧ tokens = Terminal.token (.keyword keyword) mark :: rest ∧
          events = .opening keyword.nodeLabel ::
            (Terminal.token (.keyword keyword) mark).event :: more ∧
              outline (keyword.followers ++ .close :: goals) rest = .ok more := by
  have advanced (token : Token) (step : Advance) :
      advance? token (worded asTerm :: goals) = some step ↔ ∃ keyword : Keyword,
        (keyword.beginsTerm = asTerm ∧ ∃ mark, token = Terminal.token (.keyword keyword) mark) ∧
          openNode keyword token goals = step := by
    cases asTerm with
    | true => simp only [worded, if_true, advance?, Option.map_eq_some_iff, termWord?_eq_some_iff]
    | false =>
      simp only [worded, Bool.false_eq_true, if_false, advance?, Option.map_eq_some_iff,
        formulaWord?_eq_some_iff]
  have needs : finish? (worded asTerm :: goals) = none := by cases asTerm <;> rfl
  simp only [outline_needing_iff _ needs, advanced]
  constructor
  · rintro ⟨_, rest, _, more, rfl, ⟨keyword, ⟨begins, mark, rfl⟩, rfl⟩, rfl, ran⟩
    exact ⟨keyword, mark, rest, more, begins, rfl, rfl, ran⟩
  · rintro ⟨keyword, mark, rest, more, begins, rfl, rfl, ran⟩
    exact ⟨_, rest, _, more, rfl, ⟨keyword, ⟨begins, mark, rfl⟩, rfl⟩, rfl, ran⟩

/-- A term list is empty unless its first token begins a term. -/
theorem outline_terms_iff : outline (.terms :: goals) tokens = .ok events ↔
    (∃ more, (∀ token ∈ tokens.head?, token.termWord? = none) ∧
      events = .opening "terms" :: .closing :: more ∧ outline goals tokens = .ok more) ∨
    ∃ more, events = .opening "terms" :: more ∧
      outline (.term :: .tail :: .close :: goals) tokens = .ok more := by
  cases tokens with
  | nil =>
    constructor
    · intro ran
      obtain ⟨more, finished, rfl⟩ := Option.map_eq_some_iff.mp (outline_nil_iff.mp ran)
      exact Or.inl ⟨more, by simp, rfl, outline_nil_iff.mpr finished⟩
    · rintro (⟨more, _, rfl, ran⟩ | ⟨more, _, ran⟩)
      · rw [outline_nil_iff] at ran ⊢
        rw [finish?, ran]
        rfl
      · simp [outline_nil_iff, finish?] at ran
  | cons token rest =>
    simp only [outline_cons_iff, advance?, List.head?_cons, Option.mem_some, forall_eq']
    cases word : token.termWord? with
    | none =>
      simp only [Option.map_eq_some_iff, Option.map_none, reduceCtorEq, false_and, exists_false,
        and_false, or_false, true_and]
      constructor
      · rintro ⟨_, more, ⟨step, advanced, rfl⟩, rfl, ran⟩
        exact ⟨_, rfl, step, more, advanced, rfl, ran⟩
      · rintro ⟨_, rfl, step, more, advanced, rfl, ran⟩
        exact ⟨_, more, ⟨step, advanced, rfl⟩, rfl, ran⟩
    | some keyword =>
      simp only [reduceCtorEq, false_and, exists_false, false_or, Option.map_some]
      constructor
      · rintro ⟨_, more, met, rfl, ran⟩
        cases met
        exact ⟨_, rfl, _, more, rfl, rfl, ran⟩
      · rintro ⟨_, rfl, _, more, met, rfl, ran⟩
        cases met
        exact ⟨_, more, rfl, rfl, ran⟩

/-- A term list goes on exactly when a comma is next. -/
theorem outline_tail_iff : outline (.tail :: goals) tokens = .ok events ↔
    ((∀ mark rest, tokens ≠ Terminal.token (.delimiter .comma) mark :: rest) ∧
      outline goals tokens = .ok events) ∨
    ∃ mark rest more, tokens = Terminal.token (.delimiter .comma) mark :: rest ∧
      events = (Terminal.token (.delimiter .comma) mark).event :: more ∧
        outline (.term :: .tail :: goals) rest = .ok more := by
  cases tokens with
  | nil => simp [outline_nil_iff, finish?]
  | cons token rest =>
    rw [outline_cons_iff, advance?]
    by_cases comma : token.isKind (.delimiter .comma) = true
    · obtain ⟨mark, rfl⟩ := Token.isKind_iff.mp comma
      rw [if_pos comma]
      constructor
      · rintro ⟨_, more, met, rfl, ran⟩
        cases met
        exact Or.inr ⟨mark, rest, more, rfl, rfl, ran⟩
      · rintro (⟨other, _⟩ | ⟨_, _, more, same, rfl, ran⟩)
        · exact absurd rfl (other mark rest)
        · obtain ⟨samePlace, rfl⟩ := List.cons.inj same
          exact ⟨_, more, rfl, by rw [samePlace]; rfl, ran⟩
    · have other : ∀ mark back, token :: rest ≠ Terminal.token (.delimiter .comma) mark :: back := by
        intro mark back same
        exact comma (Token.isKind_iff.mpr ⟨mark, (List.cons.inj same).1⟩)
      rw [if_neg comma, ← outline_cons_iff]
      constructor
      · intro ran
        exact Or.inl ⟨other, ran⟩
      · rintro (⟨_, ran⟩ | ⟨mark, back, _, same, _⟩)
        · exact ran
        · exact absurd same (other mark back)

end

end FirstOrderText.Grammar
