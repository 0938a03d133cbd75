import FirstOrderText.Conversion

/-! Conversion told in other ways: by what a tree stands for, by what of a tree it looks at, and
with a table in place of a stack. -/
namespace FirstOrderText

/-! Which tree stands for which formula, said without converting it. Labels decide, and so does
the text of the leaves in `name` and `truth` nodes; all other text, and whatever is below a
keyword or a delimiter, is free. -/

/-- A `name` node holds its name in quotes. -/
inductive StandsForName : Tree → String → Prop where
  | quoted {text : Option String} {below : List Tree} {name : String}
      (proper : isName name.toList = true) :
      StandsForName (.node "name" text [.node "STRING" (some ("\"" ++ name ++ "\"")) below]) name

mutual

/-- A `var` or `fun` node stands for a term. -/
inductive StandsForTerm : Tree → Term → Prop where
  | var {text : Option String} {keyword name : Tree} {variableName : String}
      (labelled : keyword.label = "VAR") (named : StandsForName name variableName) :
      StandsForTerm (.node "var" text [keyword, name]) (.var variableName)
  | app {text : Option String} {keyword name left terms right : Tree} {symbol : String}
      {args : List Term} (labelled : keyword.label = "FUN") (named : StandsForName name symbol)
      (opened : left.label = "LBRACKET") (listed : StandsForTerms terms args)
      (closed : right.label = "RBRACKET") :
      StandsForTerm (.node "fun" text [keyword, name, left, terms, right]) (.app symbol args)

/-- A `terms` node stands for a list of terms. -/
inductive StandsForTerms : Tree → List Term → Prop where
  | none {text : Option String} : StandsForTerms (.node "terms" text []) []
  | some {text : Option String} {items : List Tree} {args : List Term}
      (separated : StandForItems items args) : StandsForTerms (.node "terms" text items) args

/-- Terms with commas between them. -/
inductive StandForItems : List Tree → List Term → Prop where
  | last {item : Tree} {arg : Term} (stands : StandsForTerm item arg) :
      StandForItems [item] [arg]
  | cons {item separator : Tree} {rest : List Tree} {arg : Term} {args : List Term}
      (stands : StandsForTerm item arg) (comma : separator.label = "COMMA")
      (more : StandForItems rest args) : StandForItems (item :: separator :: rest) (arg :: args)

end

/-- A `group` node encloses a tree in parentheses. -/
inductive Encloses : Tree → Tree → Prop where
  | group {text : Option String} {left inner right : Tree} (opened : left.label = "LPAREN")
      (closed : right.label = "RPAREN") : Encloses (.node "group" text [left, inner, right]) inner

/-- The node label of a connective. -/
def Connective.nodeLabel : Connective → String
  | .conjunction => "and"
  | .disjunction => "or"
  | .implication => "implies"

/-- The node label of a quantifier. -/
def Quantifier.nodeLabel : Quantifier → String
  | .existential => "exists"
  | .universal => "forall"

/-- A tree stands for a formula. -/
inductive StandsFor : Tree → Formula → Prop where
  | truth {text : Option String} {below : List Tree} :
      StandsFor (.node "truth" text [.node "TRUE" (some "T") below]) (.constant true)
  | falsity {text : Option String} {below : List Tree} :
      StandsFor (.node "truth" text [.node "FALSE" (some "F") below]) (.constant false)
  | atom {text : Option String} {keyword name left terms right : Tree} {symbol : String}
      {args : List Term} (labelled : keyword.label = "REL") (named : StandsForName name symbol)
      (opened : left.label = "LBRACKET") (listed : StandsForTerms terms args)
      (closed : right.label = "RBRACKET") :
      StandsFor (.node "relation" text [keyword, name, left, terms, right]) (.atom symbol args)
  | negation {text : Option String} {keyword group inner : Tree} {operand : Formula}
      (labelled : keyword.label = "NOT") (grouped : Encloses group inner)
      (below : StandsFor inner operand) :
      StandsFor (.node "not" text [keyword, group]) (.negation operand)
  | connected {text : Option String} {keyword group inner group' inner' : Tree} {op : Connective}
      {left right : Formula} (labelled : keyword.label = (Keyword.connective op).label)
      (groupedLeft : Encloses group inner) (belowLeft : StandsFor inner left)
      (groupedRight : Encloses group' inner') (belowRight : StandsFor inner' right) :
      StandsFor (.node op.nodeLabel text [keyword, group, group']) (.connected op left right)
  | quantified {text : Option String} {keyword name group inner : Tree} {binder : Quantifier}
      {bound : String} {body : Formula}
      (labelled : keyword.label = (Keyword.quantifier binder).label)
      (named : StandsForName name bound) (grouped : Encloses group inner)
      (below : StandsFor inner body) :
      StandsFor (.node binder.nodeLabel text [keyword, name, group]) (.quantified binder bound body)

/-! What conversion looks at in a tree. It reads the texts below `name` and `truth` nodes
only. Of a keyword or a delimiter it sees the label, and nothing below, unless such a node
stands where a formula or a term should. -/

/-- How much of a child is looked at. -/
inductive Regard where
  | label
  | text
  | whole
  deriving DecidableEq

namespace Regard

/-- Whether a label is that of a token. -/
def isTerminal (label : String) : Bool :=
  Terminal.all.any fun kind => kind.label == label

/-- How much is looked at of the child of a label, at an index among the children of a
parent. A formula in a group and the items of a term list may have any label. -/
def ofChild (parent : String) (i : Nat) (child : String) : Regard :=
  if parent = "truth" ∨ parent = "name" then .text
  else if parent = "group" ∧ i = 1 ∨ parent = "terms" ∧ i % 2 = 0 then .whole
  else if isTerminal child then .label
  else .whole

end Regard

namespace Tree

mutual

/-- A tree without all that is not looked at. -/
def essence : Tree → Tree
  | .node label _ children => .node label none (essences label 0 children)

/-- Children from an index on, without all that is not looked at. -/
def essences (parent : String) (i : Nat) : List Tree → List Tree
  | [] => []
  | child :: rest =>
    (match Regard.ofChild parent i child.label with
      | .label => .node child.label none []
      | .text => .node child.label child.text []
      | .whole => child.essence) :: essences parent (i + 1) rest

end

end Tree

/-! Converting the tree of a formula with a table. Every node is checked in the order of
the text, and then, from the last node to the first, the formula made of each is entered
in a table, in which the nodes above it look it up. A node is found by its name, and one
node may stand at several places of a tree. -/

/-- Where a node stands in a tree: which operand is taken at each node on the way down to
it, the last step first. -/
abbrev Place := List Nat

/-- What is kept of a node that was checked. -/
structure Visit where
  place : Place
  former : Former
  operands : List Place

/-- The formula made of exactly the formulas of the operands. -/
def Former.formula? (made : Former) (formulas : List Formula) : Option Formula :=
  match made.apply formulas with
  | [formula] => some formula
  | _ => none

namespace Tree

/-- The operands of a checked node; one that fails its check has none. -/
def operands (tree : Tree) : List Tree :=
  match tree.former with
  | .ok (_, operands) => operands
  | .error _ => []

/-- The node at a place, if there is one. -/
def at? (tree : Tree) : Place → Option Tree
  | [] => some tree
  | i :: place => (tree.at? place).bind fun node => node.operands[i]?

/-- The operands of the node at a place, each at its own place. -/
def atPlaces (place : Place) (operands : List Tree) : List (Place × Tree) :=
  operands.zipIdx.map fun (operand, i) => (i :: place, operand)

theorem map_snd_atPlaces (place : Place) (operands : List Tree) :
    (atPlaces place operands).map Prod.snd = operands := by
  rw [atPlaces, List.map_map]
  exact List.zipIdx_map_fst 0 operands

/-- The visits of the pending nodes, each before those of its operands. -/
def visits (pending : List (Place × Tree)) : Converted (List Visit) :=
  match pending with
  | [] => .ok []
  | (place, tree) :: rest =>
    match _checked : tree.former with
    | .error obstacle => .error obstacle
    | .ok (made, operands) =>
      (visits (atPlaces place operands ++ rest)).map
        (⟨place, made, (atPlaces place operands).map Prod.fst⟩ :: ·)
termination_by sizeAll (pending.map Prod.snd)
decreasing_by
  have := sizeAll_former _checked
  simp only [List.map_append, map_snd_atPlaces, sizeAll_append, List.map_cons, sizeAll]
  omega

section
variable {κ : Type} [DecidableEq κ] (name : Place → κ)

/-- Enters the formula of a visited node under its name, in place of an earlier entry. -/
def enter (visit : Visit) (table : κ → Option Formula) : κ → Option Formula :=
  fun key =>
    if key = name visit.place then
      (visit.operands.mapM fun place => table (name place)).bind visit.former.formula?
    else table key

/-- The formula of a tree: every node is checked in the order of the text, then the
formulas are entered in a table from the last node to the first, and that of the root is
looked up. -/
def toFormulaByTable (tree : Tree) : Converted Formula :=
  match visits [([], tree)] with
  | .error obstacle => .error obstacle
  | .ok visited =>
    match visited.foldr (enter name) (fun _ => none) (name []) with
    | some formula => .ok formula
    | none => tree.refuse .notFormula

end

end Tree

end FirstOrderText
