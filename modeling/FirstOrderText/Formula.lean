import FirstOrderText.Text
import FirstOrderText.Token

/-! The terms and formulas of first-order logic, and their constructor forms. A term is a
variable or a function applied to arguments in order, where a constant is a function without
arguments. Formulas and terms share no constructor, so that the form tells the two apart. -/
namespace FirstOrderText

/-- A variable, or a function applied to arguments. -/
inductive Term where
  | var (name : String)
  | app (symbol : String) (args : List Term)
  deriving Inhabited

namespace Term

/-- Induction over a term with a hypothesis for each of its arguments. -/
@[elab_as_elim]
theorem argInduction {motive : Term → Prop} (var : ∀ name, motive (.var name))
    (app : ∀ symbol args, (∀ arg ∈ args, motive arg) → motive (.app symbol args))
    (term : Term) : motive term :=
  match term with
  | .var name => var name
  | .app symbol args => app symbol args fun arg _ => argInduction var app arg

mutual

/-- The variables of a term, in the order in which they occur. -/
def varNames : Term → List String
  | .var name => [name]
  | .app _ args => varNamesAll args

/-- The variables of a list of terms, in the order in which they occur. -/
def varNamesAll : List Term → List String
  | [] => []
  | term :: rest => term.varNames ++ varNamesAll rest

end

mutual

/-- How many applications enclose one another at most. -/
def nesting : Term → Nat
  | .var _ => 0
  | .app _ args => nestingAll args + 1

/-- The deepest nesting among a list of terms. -/
def nestingAll : List Term → Nat
  | [] => 0
  | term :: rest => max term.nesting (nestingAll rest)

end

theorem varNamesAll_eq_flatMap (terms : List Term) :
    varNamesAll terms = terms.flatMap varNames := by
  induction terms with
  | nil => rfl
  | cons term rest ih => simp [varNamesAll, ih]

/-- Elements in brackets, separated by commas, as the constructor form shows arguments. -/
def renderArgs (elements : List String) : String :=
  "[" ++ String.intercalate ", " elements ++ "]"

mutual

/-- The constructor form of a term, with symbols as string literals. -/
def render : Term → String
  | .var name => "Var(" ++ quoted name ++ ")"
  | .app symbol args => "Fun(" ++ quoted symbol ++ ", " ++ renderArgs (renderAll args) ++ ")"

/-- The constructor forms of a list of terms. -/
def renderAll : List Term → List String
  | [] => []
  | term :: rest => term.render :: renderAll rest

end

end Term

/-! Formulas of first-order logic over named relations. The connectives and the
quantifiers are those of the keywords. -/

/-- A truth constant, a relation of terms, or a compound formula. -/
inductive Formula where
  | constant (value : Bool)
  | atom (name : String) (args : List Term)
  | negation (operand : Formula)
  | connected (op : Connective) (left right : Formula)
  | quantified (binder : Quantifier) (name : String) (body : Formula)
  deriving Inhabited

namespace Formula

/-- The formulas directly below a formula, in the order of the text. -/
def operands : Formula → List Formula
  | .constant _ | .atom _ _ => []
  | .negation operand => [operand]
  | .connected _ left right => [left, right]
  | .quantified _ _ body => [body]

/-- The formula at every position of a formula, the formula itself first. -/
def positions : Formula → List Formula
  | .constant value => [.constant value]
  | .atom name args => [.atom name args]
  | .negation operand => .negation operand :: operand.positions
  | .connected op left right => .connected op left right :: (left.positions ++ right.positions)
  | .quantified binder name body => .quantified binder name body :: body.positions

/-- The number of positions of a formula. -/
def size : Formula → Nat
  | .constant _ | .atom _ _ => 1
  | .negation operand => operand.size + 1
  | .connected _ left right => left.size + right.size + 1
  | .quantified _ _ body => body.size + 1

/-- The number of positions on the longest way down from the root. -/
def height : Formula → Nat
  | .constant _ | .atom _ _ => 1
  | .negation operand => operand.height + 1
  | .connected _ left right => max left.height right.height + 1
  | .quantified _ _ body => body.height + 1

/-- The deepest nesting of applications in any atom. -/
def nesting : Formula → Nat
  | .constant _ => 0
  | .atom _ args => Term.nestingAll args
  | .negation operand => operand.nesting
  | .connected _ left right => max left.nesting right.nesting
  | .quantified _ _ body => body.nesting

/-- The number of arguments of an atom. -/
def arity? : Formula → Option Nat
  | .atom _ args => some args.length
  | _ => none

end Formula

/-- The constructor of a connective in the constructor form. -/
def Connective.constructorName : Connective → String
  | .conjunction => "Conjunction"
  | .disjunction => "Disjunction"
  | .implication => "Implication"

/-- The constructor of a quantifier in the constructor form. -/
def Quantifier.constructorName : Quantifier → String
  | .existential => "Exists"
  | .universal => "Forall"

/-- The constructor form of a formula. -/
def Formula.render : Formula → String
  | .constant true => "TrueConstant()"
  | .constant false => "FalseConstant()"
  | .atom name args =>
    "Relation(" ++ quoted name ++ ", " ++ Term.renderArgs (Term.renderAll args) ++ ")"
  | .negation operand => "Negation(" ++ operand.render ++ ")"
  | .connected op left right =>
    op.constructorName ++ "(" ++ left.render ++ ", " ++ right.render ++ ")"
  | .quantified binder name body =>
    binder.constructorName ++ "(" ++ quoted name ++ ", " ++ body.render ++ ")"

end FirstOrderText
