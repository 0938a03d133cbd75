import FirstOrderText.Formula

/-! Formulas and terms taken together, and their flat form: one node for each
formula and term, the outermost first. A node knows how many nodes stand directly
below it, so the form can be read back. -/
namespace FirstOrderText

/-- A formula or a term. -/
inductive Expression where
  | formula (value : Formula)
  | term (value : Term)

/-- A formula or term without what stands below it. -/
inductive Node where
  | constant (value : Bool)
  | atom (name : String) (arity : Nat)
  | negation
  | connected (op : Connective)
  | quantified (binder : Quantifier) (name : String)
  | var (name : String)
  | app (symbol : String) (arity : Nat)
  deriving DecidableEq

namespace Expression

/-- The constructor form of either. -/
def render : Expression → String
  | .formula value => value.render
  | .term value => value.render

/-- The term that an expression is, if it is one. -/
def term? : Expression → Option Term
  | .formula _ => none
  | .term value => some value

end Expression

mutual

/-- The flat form of a term. -/
def Term.nodes : Term → List Node
  | .var name => [.var name]
  | .app symbol args => .app symbol args.length :: Term.nodesAll args

/-- The flat forms of a list of terms, one after another. -/
def Term.nodesAll : List Term → List Node
  | [] => []
  | term :: rest => term.nodes ++ Term.nodesAll rest

end

/-- The flat form of a formula. -/
def Formula.nodes : Formula → List Node
  | .constant value => [.constant value]
  | .atom name args => .atom name args.length :: Term.nodesAll args
  | .negation operand => .negation :: operand.nodes
  | .connected op left right => .connected op :: (left.nodes ++ right.nodes)
  | .quantified binder name body => .quantified binder name :: body.nodes

namespace Node

/-- Takes as many terms as wanted from the front of a list of expressions. -/
def takeTerms? (arity : Nat) (below : List Expression) : Option (List Term × List Expression) :=
  if arity ≤ below.length then
    ((below.take arity).mapM Expression.term?).map fun terms => (terms, below.drop arity)
  else none

/-- Puts a node on top of the expressions that follow it, taking those that
belong below it. -/
def attach? (node : Node) (below : List Expression) : Option (List Expression) :=
  match node, below with
  | .constant value, rest => some (.formula (.constant value) :: rest)
  | .var name, rest => some (.term (.var name) :: rest)
  | .negation, .formula operand :: rest => some (.formula (.negation operand) :: rest)
  | .connected op, .formula left :: .formula right :: rest =>
    some (.formula (.connected op left right) :: rest)
  | .quantified binder name, .formula body :: rest =>
    some (.formula (.quantified binder name body) :: rest)
  | .atom name arity, rest =>
    (takeTerms? arity rest).map fun (args, after) => .formula (.atom name args) :: after
  | .app symbol arity, rest =>
    (takeTerms? arity rest).map fun (args, after) => .term (.app symbol args) :: after
  | _, _ => none

end Node

namespace Expression

/-- The flat form of either. -/
def nodes : Expression → List Node
  | .formula value => value.nodes
  | .term value => value.nodes

/-- The expression that a flat form describes, if it describes exactly one. -/
def ofNodes? (nodes : List Node) : Option Expression :=
  match nodes.foldr (fun node below => below.bind node.attach?) (some []) with
  | some [expression] => some expression
  | _ => none

end Expression

end FirstOrderText
