import FirstOrderText.Grammar
import FirstOrderText.Proofs.Tree

/-! Phrases: formulas as they are written, with the text and the place of every
token. A phrase has one list of tokens and one concrete tree. Deriving, converting
and spelling are each described on phrases, so that what ties one to another is an
induction over phrases and never mentions a stack. -/
namespace FirstOrderText

/-- The text and the place of a token whose kind is known. -/
structure Mark where
  text : String
  index : Int

/-- A token of a known kind. -/
def Terminal.token (kind : Terminal) (mark : Mark) : Token :=
  ⟨kind.label, mark.text, mark.index⟩

theorem Terminal.token_kind_injective {kind kind' : Terminal} {mark mark' : Mark}
    (same : kind.token mark = kind'.token mark') : kind = kind' :=
  Terminal.label_injective (congrArg Token.kind same)

/-- The leaf that a token becomes. -/
def Token.leaf (token : Token) : Tree :=
  .leaf token.kind token.value

@[simp] theorem Token.leaves_leaf (token : Token) : token.leaf.leaves = [token.leaf] :=
  Tree.leaves_leaf ..

/-- A token is of a kind exactly when it is that kind's token at some mark. -/
theorem Token.isKind_iff {token : Token} {kind : Terminal} :
    token.isKind kind = true ↔ ∃ mark, token = kind.token mark := by
  constructor
  · intro labelled
    exact ⟨⟨token.value, token.index⟩, by rw [Terminal.token, ← beq_iff_eq.mp labelled]⟩
  · rintro ⟨mark, rfl⟩
    exact beq_self_eq_true _

/-- The marks of an opening and of its closing delimiter. -/
structure Enclosure where
  opened : Mark
  closed : Mark

namespace Enclosure

/-- Tokens between parentheses. -/
def parenthesize (parens : Enclosure) (inner : List Token) : List Token :=
  Terminal.token (.delimiter .openParen) parens.opened ::
    (inner ++ [Terminal.token (.delimiter .closeParen) parens.closed])

/-- Tokens between brackets. -/
def bracket (brackets : Enclosure) (inner : List Token) : List Token :=
  Terminal.token (.delimiter .openBracket) brackets.opened ::
    (inner ++ [Terminal.token (.delimiter .closeBracket) brackets.closed])

/-- The tree of what is in parentheses. -/
def group (parens : Enclosure) (inner : Tree) : Tree :=
  .branch "group" [(Terminal.token (.delimiter .openParen) parens.opened).leaf, inner,
    (Terminal.token (.delimiter .closeParen) parens.closed).leaf]

theorem leaves_group {parens : Enclosure} {inner : Tree} {tokens : List Token}
    (within : inner.leaves = tokens.map Token.leaf) :
    (parens.group inner).leaves = (parens.parenthesize tokens).map Token.leaf := by
  simp [group, parenthesize, within]

end Enclosure

/-- The tree of a name. -/
def Mark.nameTree (mark : Mark) : Tree :=
  .branch "name" [(Terminal.name.token mark).leaf]

@[simp] theorem Mark.leaves_nameTree (mark : Mark) :
    mark.nameTree.leaves = [(Terminal.name.token mark).leaf] := by
  simp [nameTree]

mutual

/-- A term as it is written. -/
inductive TermPhrase where
  | var (word name : Mark)
  | app (word name : Mark) (brackets : Enclosure) (args : TermsPhrase)

/-- A list of terms as it is written, without its brackets. -/
inductive TermsPhrase where
  | none
  | some (first : TermPhrase) (more : TailPhrase)

/-- The rest of a list of terms behind one of them. -/
inductive TailPhrase where
  | done
  | next (comma : Mark) (term : TermPhrase) (more : TailPhrase)

end

mutual

/-- The tokens of a term. -/
def TermPhrase.tokens : TermPhrase → List Token
  | .var word name => [Terminal.token (.keyword .variableName) word, Terminal.name.token name]
  | .app word name brackets args =>
    Terminal.token (.keyword .application) word :: Terminal.name.token name ::
      brackets.bracket args.tokens

/-- The tokens of a list of terms. -/
def TermsPhrase.tokens : TermsPhrase → List Token
  | .none => []
  | .some first more => first.tokens ++ more.tokens

/-- The tokens of the rest of a list of terms. -/
def TailPhrase.tokens : TailPhrase → List Token
  | .done => []
  | .next comma term more =>
    Terminal.token (.delimiter .comma) comma :: (term.tokens ++ more.tokens)

end

mutual

/-- The tree of a term. -/
def TermPhrase.tree : TermPhrase → Tree
  | .var word name =>
    .branch (Keyword.nodeLabel .variableName)
      [(Terminal.token (.keyword .variableName) word).leaf, name.nameTree]
  | .app word name brackets args =>
    .branch (Keyword.nodeLabel .application)
      [(Terminal.token (.keyword .application) word).leaf, name.nameTree,
        (Terminal.token (.delimiter .openBracket) brackets.opened).leaf,
        .branch "terms" args.trees,
        (Terminal.token (.delimiter .closeBracket) brackets.closed).leaf]

/-- The trees of a list of terms and of the commas between them. -/
def TermsPhrase.trees : TermsPhrase → List Tree
  | .none => []
  | .some first more => first.tree :: more.trees

/-- The trees of the rest of a list of terms, the comma before it included. -/
def TailPhrase.trees : TailPhrase → List Tree
  | .done => []
  | .next comma term more =>
    (Terminal.token (.delimiter .comma) comma).leaf :: term.tree :: more.trees

end

/-- The rest of a list of terms, with one more term at its end. -/
def TailPhrase.append (tail : TailPhrase) (comma : Mark) (last : TermPhrase) : TailPhrase :=
  match tail with
  | .done => .next comma last .done
  | .next comma' term more => .next comma' term (more.append comma last)

theorem TailPhrase.trees_append (tail : TailPhrase) (comma : Mark) (last : TermPhrase) :
    (tail.append comma last).trees =
      tail.trees ++ [(Terminal.token (.delimiter .comma) comma).leaf, last.tree] := by
  cases tail with
  | done => rfl
  | next _ _ more => simp [append, trees, more.trees_append comma last]

/-- The tree of a list of terms. -/
def TermsPhrase.tree (args : TermsPhrase) : Tree :=
  .branch "terms" args.trees

mutual

theorem TermPhrase.leaves_tree (term : TermPhrase) :
    term.tree.leaves = term.tokens.map Token.leaf := by
  cases term with
  | var _ _ => simp [TermPhrase.tree, TermPhrase.tokens]
  | app _ _ _ args =>
    simp [TermPhrase.tree, TermPhrase.tokens, Enclosure.bracket, args.leaves_trees]

theorem TermsPhrase.leaves_trees (args : TermsPhrase) :
    Tree.leavesAll args.trees = args.tokens.map Token.leaf := by
  cases args with
  | none => rfl
  | some first more =>
    simp [TermsPhrase.trees, TermsPhrase.tokens, first.leaves_tree, more.leaves_trees]

theorem TailPhrase.leaves_trees (tail : TailPhrase) :
    Tree.leavesAll tail.trees = tail.tokens.map Token.leaf := by
  cases tail with
  | done => rfl
  | next _ term more =>
    simp [TailPhrase.trees, TailPhrase.tokens, term.leaves_tree, more.leaves_trees]

end

/-- A formula as it is written. -/
inductive FormulaPhrase where
  | constant (value : Bool) (word : Mark)
  | atom (word name : Mark) (brackets : Enclosure) (args : TermsPhrase)
  | negation (word : Mark) (parens : Enclosure) (operand : FormulaPhrase)
  | connected (op : Connective) (word : Mark) (parens : Enclosure) (left : FormulaPhrase)
      (parens' : Enclosure) (right : FormulaPhrase)
  | quantified (binder : Quantifier) (word name : Mark) (parens : Enclosure) (body : FormulaPhrase)

namespace FormulaPhrase

/-- The tokens of a formula. -/
def tokens : FormulaPhrase → List Token
  | .constant value word => [Terminal.token (.keyword (.constant value)) word]
  | .atom word name brackets args =>
    Terminal.token (.keyword .relation) word :: Terminal.name.token name ::
      brackets.bracket args.tokens
  | .negation word parens operand =>
    Terminal.token (.keyword .negation) word :: parens.parenthesize operand.tokens
  | .connected op word parens left parens' right =>
    Terminal.token (.keyword (.connective op)) word ::
      (parens.parenthesize left.tokens ++ parens'.parenthesize right.tokens)
  | .quantified binder word name parens body =>
    Terminal.token (.keyword (.quantifier binder)) word :: Terminal.name.token name ::
      parens.parenthesize body.tokens

/-- The tree of a formula. -/
def tree : FormulaPhrase → Tree
  | .constant value word =>
    .branch (Keyword.nodeLabel (.constant value))
      [(Terminal.token (.keyword (.constant value)) word).leaf]
  | .atom word name brackets args =>
    .branch (Keyword.nodeLabel .relation)
      [(Terminal.token (.keyword .relation) word).leaf, name.nameTree,
        (Terminal.token (.delimiter .openBracket) brackets.opened).leaf, args.tree,
        (Terminal.token (.delimiter .closeBracket) brackets.closed).leaf]
  | .negation word parens operand =>
    .branch (Keyword.nodeLabel .negation)
      [(Terminal.token (.keyword .negation) word).leaf, parens.group operand.tree]
  | .connected op word parens left parens' right =>
    .branch (Keyword.nodeLabel (.connective op))
      [(Terminal.token (.keyword (.connective op)) word).leaf, parens.group left.tree,
        parens'.group right.tree]
  | .quantified binder word name parens body =>
    .branch (Keyword.nodeLabel (.quantifier binder))
      [(Terminal.token (.keyword (.quantifier binder)) word).leaf, name.nameTree,
        parens.group body.tree]

/-- The leaves of the tree of a phrase are those of its tokens, in order. -/
theorem leaves_tree (phrase : FormulaPhrase) :
    phrase.tree.leaves = phrase.tokens.map Token.leaf := by
  induction phrase with
  | constant _ _ => simp [tree, tokens]
  | atom _ _ _ args =>
    simp [tree, tokens, TermsPhrase.tree, Enclosure.bracket, args.leaves_trees]
  | negation _ _ _ operand => simp [tree, tokens, Enclosure.leaves_group operand]
  | connected _ _ _ _ _ _ left right =>
    simp [tree, tokens, Enclosure.leaves_group left, Enclosure.leaves_group right]
  | quantified _ _ _ _ _ body => simp [tree, tokens, Enclosure.leaves_group body]

end FormulaPhrase

end FirstOrderText
