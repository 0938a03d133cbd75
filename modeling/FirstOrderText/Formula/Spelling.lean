import FirstOrderText.Formula
import FirstOrderText.Token.Scan

/-! How a formula is written: the lexemes of its text in order. Operands are
parenthesized, arguments stand in brackets with commas between them, and names
are quoted. -/
namespace FirstOrderText

/-- A name is one or more ASCII letters and digits. -/
def isName (chars : List Char) : Bool :=
  !chars.isEmpty && chars.all isWordPart

/-- The quoted form of a name. -/
def nameLexeme (name : String) : Lexeme :=
  .quoted name.toList

/-- A sequence in parentheses. -/
def parenthesized (inner : List Lexeme) : List Lexeme :=
  .delimiter .openParen :: (inner ++ [.delimiter .closeParen])

/-- A sequence in brackets. -/
def bracketed (inner : List Lexeme) : List Lexeme :=
  .delimiter .openBracket :: (inner ++ [.delimiter .closeBracket])

namespace Term

mutual

/-- The lexemes of a term. -/
def spelling : Term → List Lexeme
  | .var name => [.keyword .variableName, nameLexeme name]
  | .app symbol args =>
    .keyword .application :: nameLexeme symbol :: bracketed (spellingAll args)

/-- The lexemes of terms with commas between them. -/
def spellingAll : List Term → List Lexeme
  | [] => []
  | [only] => only.spelling
  | term :: next :: rest =>
    term.spelling ++ .delimiter .comma :: spellingAll (next :: rest)

end

mutual

/-- Every symbol and variable of a term is a name. -/
def WellNamed : Term → Prop
  | .var name => isName name.toList = true
  | .app symbol args => isName symbol.toList = true ∧ WellNamedAll args

/-- Every symbol and variable of every term of a list is a name. -/
def WellNamedAll : List Term → Prop
  | [] => True
  | term :: rest => term.WellNamed ∧ WellNamedAll rest

end

end Term

namespace Formula

/-- The lexemes of a formula. -/
def spelling : Formula → List Lexeme
  | .constant value => [.keyword (.constant value)]
  | .atom name args => .keyword .relation :: nameLexeme name :: bracketed (Term.spellingAll args)
  | .negation operand => .keyword .negation :: parenthesized operand.spelling
  | .connected op left right =>
    .keyword (.connective op) :: (parenthesized left.spelling ++ parenthesized right.spelling)
  | .quantified binder name body =>
    .keyword (.quantifier binder) :: nameLexeme name :: parenthesized body.spelling

/-- Every relation, function, variable and bound variable of a formula is a name. -/
def WellNamed : Formula → Prop
  | .constant _ => True
  | .atom name args => isName name.toList = true ∧ Term.WellNamedAll args
  | .negation operand => operand.WellNamed
  | .connected _ left right => left.WellNamed ∧ right.WellNamed
  | .quantified _ name body => isName name.toList = true ∧ body.WellNamed

end Formula

end FirstOrderText
