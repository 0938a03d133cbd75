import FirstOrderText.Comparison
import FirstOrderText.Formula.Spelling
import FirstOrderText.Outcome

/-! Converting trees into names, terms and formulas, and why they do not convert. -/
namespace FirstOrderText

/-! A fault is the problem found at one node, with the labels of that node and of its children,
and says nothing of the rest. -/

/-- What each child of a node must be labelled, from left to right; a slot
without a label takes any child. -/
abbrev Shape := List (Option String)

namespace Shape

/-- Whether the children fill the slots one for one. -/
def fits : Shape → List Tree → Bool
  | [], [] => true
  | slot :: slots, child :: children =>
    slot.all (fun label => label == child.label) && fits slots children
  | _, _ => false

/-- The slots between commas; a slot for any child is shown as a star. -/
def describe (shape : Shape) : String :=
  String.intercalate ", " (shape.map fun slot => slot.getD "*")

end Shape

/-- What is wrong with a node. -/
inductive Problem where
  | children (expected : Shape)
  | notName
  | notString
  | malformedName (text : String)
  | improperName (text : String)
  | notGroup
  | notTerms
  | danglingSeparator
  | wrongSeparator
  | notTerm
  | notConstant
  | unknownConstant (text : String)
  | notFormula
  | tooDeep
  deriving DecidableEq

namespace Problem

/-- What a problem is called. -/
def message : Problem → String
  | .children expected => "Expected children (" ++ expected.describe ++ ")"
  | .notName => "Expected a quoted name"
  | .notString => "Expected a STRING token"
  | .malformedName text => "Malformed quoted name " ++ quoted text
  | .improperName text => "Quoted name must be alphanumeric, got " ++ text
  | .notGroup => "Expected a parenthesized sub-formula"
  | .notTerms => "Expected a term list"
  | .danglingSeparator => "Dangling separator in term list"
  | .wrongSeparator => "Term list items must be separated by commas"
  | .notTerm => "Unexpected term node"
  | .notConstant => "Expected a truth constant token"
  | .unknownConstant text => "Unknown truth constant " ++ quoted text
  | .notFormula => "Unexpected formula node"
  | .tooDeep => "Nesting too deep to convert"

end Problem

/-- The report of a problem at a node: its label, and its context unless that is
empty. -/
def conversionMessage (problem label context : String) : String :=
  problem ++ " (node '" ++ label ++ "'" ++
    (if context.isEmpty then "" else ", children: " ++ context) ++ ")"

/-- A problem at a node. -/
structure ConversionFault where
  problem : Problem
  label : String
  childLabels : List String
  deriving DecidableEq

namespace ConversionFault

/-- The labels of the children between commas. -/
def context (fault : ConversionFault) : String :=
  String.intercalate ", " fault.childLabels

/-- The report of a fault. -/
def message (fault : ConversionFault) : String :=
  conversionMessage fault.problem.message fault.label fault.context

end ConversionFault

/-- A problem at a tree's root. -/
def Tree.fault (tree : Tree) (problem : Problem) : ConversionFault :=
  ⟨problem, tree.label, tree.childLabels⟩

/-- Why a conversion stopped: a faulty node, or applications nested beyond the
limit, wherever they are. -/
inductive Obstacle where
  | fault (fault : ConversionFault)
  | overflow
  deriving DecidableEq

/-- The outcome of a conversion. -/
abbrev Converted := Except Obstacle

/-- A conversion that fails at a tree's root. -/
def Tree.refuse {α : Type} (tree : Tree) (problem : Problem) : Converted α :=
  .error (.fault (tree.fault problem))

/-! In names, terms and term lists a node is checked before anything below it, and what is below
it is converted from left to right. -/

/-- What a pair of quotes encloses. -/
def unquote? : List Char → Option (List Char)
  | [] => none
  | c :: rest =>
    if c = '\x22' ∧ rest.getLast? = some '\x22' then some rest.dropLast else none

namespace Tree

/-- The name in a `name` node: its only child is a leaf that holds the name in
quotes. -/
def toName (tree : Tree) : Converted String :=
  let shape : Shape := [some "STRING"]
  if tree.label ≠ "name" then tree.refuse .notName
  else
    match tree.children, shape.fits tree.children with
    | [literal], true =>
      match literal.text with
      | none => tree.refuse .notString
      | some text =>
        match unquote? text.toList with
        | none => tree.refuse (.malformedName text)
        | some content =>
          if isName content then .ok (String.ofList content) else tree.refuse (.improperName text)
    | _, _ => tree.refuse (.children shape)

/-- Whether every second tree of a list, from its second on, is a comma. -/
def separated : List Tree → Bool
  | _ :: separator :: rest => separator.label == "COMMA" && separated rest
  | _ => true

/-- Why the children of a `terms` node do not make a term list, if they do not. -/
def separatorProblem? (items : List Tree) : Option Problem :=
  if !items.isEmpty && items.length % 2 == 0 then some .danglingSeparator
  else if !separated items then some .wrongSeparator
  else none

/-- How many applications may enclose one another. Each takes a call of its own, and the number
stands for how many calls the stack has room for, which is not the program's to decide. All
that results use of it are the two bounds below. -/
def nestingLimit : Nat := 246

theorem le_nestingLimit : 200 ≤ nestingLimit := by decide

theorem nestingLimit_lt : nestingLimit < 300 := by decide

mutual

/-- The term of a `var` or `fun` node. The room is how many more applications may
be entered. -/
def toTermWithin (room : Nat) : Tree → Converted Term
  | .node label text children =>
    let tree := Tree.node label text children
    if label = "var" then
      let shape : Shape := [some "VAR", some "name"]
      match children, shape.fits children with
      | [_, name], true => name.toName.map .var
      | _, _ => tree.refuse (.children shape)
    else if label = "fun" then
      match room with
      | 0 => .error .overflow
      | room + 1 =>
        let shape : Shape :=
          [some "FUN", some "name", some "LBRACKET", some "terms", some "RBRACKET"]
        match children, shape.fits children with
        | [_, name, _, terms, _], true =>
          match name.toName with
          | .error obstacle => .error obstacle
          | .ok symbol => (toTermsWithin room terms).map (.app symbol)
        | _, _ => tree.refuse (.children shape)
    else tree.refuse .notTerm

/-- The terms of a `terms` node, in order. -/
def toTermsWithin (room : Nat) : Tree → Converted (List Term)
  | .node label text items =>
    let tree := Tree.node label text items
    if label ≠ "terms" then tree.refuse .notTerms
    else
      match separatorProblem? items with
      | some problem => tree.refuse problem
      | none => itemsWithin room items

/-- The terms of a list of items in which every second one is a separator. -/
def itemsWithin (room : Nat) : List Tree → Converted (List Term)
  | [] => .ok []
  | [item] => (toTermWithin room item).map ([·])
  | item :: _ :: rest =>
    match toTermWithin room item with
    | .error obstacle => .error obstacle
    | .ok term => (itemsWithin room rest).map (term :: ·)

end

/-- The term of a tree. -/
def toTerm (tree : Tree) : Converted Term :=
  tree.toTermWithin nestingLimit

/-- The terms of a tree. -/
def toTerms (tree : Tree) : Converted (List Term) :=
  tree.toTermsWithin nestingLimit

end Tree

/-! In the tree of a formula every node is checked, with its name and the
parentheses around its operands, before any operand is entered; an atom is
converted whole. Pending operands are kept on a stack, so that no nesting of
connectives and quantifiers is too deep. -/

/-- The nodes that stand for formulas. -/
inductive FormulaNode where
  | truth
  | relation
  | negation
  | connective (op : Connective)
  | quantifier (binder : Quantifier)
  deriving DecidableEq

/-- The formula node of a label, if it has one. -/
def FormulaNode.ofLabel? (label : String) : Option FormulaNode :=
  if label = "truth" then some .truth
  else if label = "relation" then some .relation
  else if label = "not" then some .negation
  else if label = "and" then some (.connective .conjunction)
  else if label = "or" then some (.connective .disjunction)
  else if label = "implies" then some (.connective .implication)
  else if label = "exists" then some (.quantifier .existential)
  else if label = "forall" then some (.quantifier .universal)
  else none

/-- What a node makes of the formulas of its operands. -/
inductive Former where
  | whole (formula : Formula)
  | negation
  | connected (op : Connective)
  | quantified (binder : Quantifier) (name : String)
  deriving DecidableEq

namespace Former

/-- Replaces the operands at the front of a list by the formula made of them. -/
def apply : Former → List Formula → List Formula
  | .whole formula, rest => formula :: rest
  | .negation, operand :: rest => .negation operand :: rest
  | .connected op, left :: right :: rest => .connected op left right :: rest
  | .quantified binder name, body :: rest => .quantified binder name body :: rest
  | _, _ => []

end Former

namespace Tree

/-- The tree inside the parentheses of a `group` node. -/
def grouped (tree : Tree) : Converted Tree :=
  let shape : Shape := [some "LPAREN", none, some "RPAREN"]
  if tree.label ≠ "group" then tree.refuse .notGroup
  else
    match tree.children, shape.fits tree.children with
    | [_, inner, _], true => .ok inner
    | _, _ => tree.refuse (.children shape)

/-- The truth constant in a `truth` node: a leaf whose label and text agree. -/
def toConstant (tree : Tree) : Converted Bool :=
  let shape : Shape := [none]
  match tree.children, shape.fits tree.children with
  | [constant], true =>
    match constant.text with
    | none => tree.refuse .notConstant
    | some text =>
      if constant.label = "TRUE" ∧ text = "T" then .ok true
      else if constant.label = "FALSE" ∧ text = "F" then .ok false
      else tree.refuse (.unknownConstant text)
  | _, _ => tree.refuse (.children shape)

/-- The atom in a `relation` node. -/
def toAtom (tree : Tree) : Converted Formula :=
  let shape : Shape := [some "REL", some "name", some "LBRACKET", some "terms", some "RBRACKET"]
  match tree.children, shape.fits tree.children with
  | [_, name, _, terms, _], true =>
    match name.toName with
    | .error obstacle => .error obstacle
    | .ok symbol => terms.toTerms.map (.atom symbol)
  | _, _ => tree.refuse (.children shape)

/-- The former of a tree's root and the operands below it. -/
def former (tree : Tree) : Converted (Former × List Tree) :=
  match FormulaNode.ofLabel? tree.label with
  | none => tree.refuse .notFormula
  | some .truth => tree.toConstant.map fun value => (.whole (.constant value), [])
  | some .relation => tree.toAtom.map fun atom => (.whole atom, [])
  | some .negation =>
    let shape : Shape := [some "NOT", some "group"]
    match tree.children, shape.fits tree.children with
    | [_, group], true => group.grouped.map fun operand => (.negation, [operand])
    | _, _ => tree.refuse (.children shape)
  | some (.connective op) =>
    let shape : Shape := [some (Keyword.connective op).label, some "group", some "group"]
    match tree.children, shape.fits tree.children with
    | [_, group, group'], true =>
      match group.grouped with
      | .error obstacle => .error obstacle
      | .ok left => group'.grouped.map fun right => (.connected op, [left, right])
    | _, _ => tree.refuse (.children shape)
  | some (.quantifier binder) =>
    let shape : Shape := [some (Keyword.quantifier binder).label, some "name", some "group"]
    match tree.children, shape.fits tree.children with
    | [_, name, group], true =>
      match name.toName with
      | .error obstacle => .error obstacle
      | .ok bound => group.grouped.map fun body => (.quantified binder bound, [body])
    | _, _ => tree.refuse (.children shape)

/-- What is inside a group is smaller than the group. -/
theorem size_grouped {tree inner : Tree} (opened : tree.grouped = .ok inner) :
    inner.size < tree.size := by
  rcases tree with ⟨label, text, children⟩
  simp only [grouped, refuse, Tree.children] at opened
  split at opened
  · cases opened
  · split at opened
    · obtain rfl := Except.ok.inj opened
      simp only [size, sizeAll]
      omega
    · cases opened

/-- The operands of a node together are smaller than the node. -/
theorem sizeAll_former {tree : Tree} {made : Former} {operands : List Tree}
    (checked : tree.former = .ok (made, operands)) : sizeAll operands < tree.size := by
  rcases tree with ⟨label, text, children⟩
  simp only [former, refuse, Tree.children] at checked
  split at checked
  · cases checked
  · obtain ⟨_, _, pair⟩ := map_eq_ok_iff.mp checked
    cases pair
    simp [size, sizeAll]
  · obtain ⟨_, _, pair⟩ := map_eq_ok_iff.mp checked
    cases pair
    simp [size, sizeAll]
  · split at checked
    · obtain ⟨_, opened, pair⟩ := map_eq_ok_iff.mp checked
      cases pair
      have := size_grouped opened
      simp only [size, sizeAll]
      omega
    · cases checked
  · split at checked
    · split at checked
      · cases checked
      · rename_i openedLeft
        obtain ⟨_, openedRight, pair⟩ := map_eq_ok_iff.mp checked
        cases pair
        have := size_grouped openedLeft
        have := size_grouped openedRight
        simp only [size, sizeAll]
        omega
    · cases checked
  · split at checked
    · split at checked
      · cases checked
      · obtain ⟨_, opened, pair⟩ := map_eq_ok_iff.mp checked
        cases pair
        have := size_grouped opened
        simp only [size, sizeAll]
        omega
    · cases checked

/-- The formers of the pending trees, each before those of its operands. -/
def formers (pending : List Tree) : Converted (List Former) :=
  match pending with
  | [] => .ok []
  | tree :: rest =>
    match _checked : tree.former with
    | .error obstacle => .error obstacle
    | .ok (made, operands) => (formers (operands ++ rest)).map (made :: ·)
termination_by sizeAll pending
decreasing_by
  have := sizeAll_former _checked
  simp only [sizeAll_append, sizeAll]
  omega

/-- The formula of a tree: every node is checked in the order of the text, then
the formulas are made from the last node to the first. The formers of one tree
always make one formula. -/
def toFormula (tree : Tree) : Converted Formula :=
  match formers [tree] with
  | .error obstacle => .error obstacle
  | .ok made =>
    match made.foldr Former.apply [] with
    | [formula] => .ok formula
    | _ => tree.refuse .notFormula

/-- The formula of a tree by recursion: the root is checked, its operands are
converted from left to right, and the root's former is applied to them. -/
def toFormulaByRecursion (tree : Tree) : Converted Formula :=
  match _checked : tree.former with
  | .error obstacle => .error obstacle
  | .ok (made, operands) => do
    let formulas ← operands.attach.mapM fun operand => operand.val.toFormulaByRecursion
    match made.apply formulas with
    | [formula] => .ok formula
    | _ => tree.refuse .notFormula
termination_by tree.size
decreasing_by
  have := sizeAll_former _checked
  have := size_le_sizeAll operand.property
  omega

/-- The formula of a whole text's tree. Nesting beyond the limit, wherever it is,
is a fault of the root. -/
def convert (tree : Tree) : Except ConversionFault Formula :=
  match tree.toFormula with
  | .ok formula => .ok formula
  | .error (.fault fault) => .error fault
  | .error .overflow => .error (tree.fault .tooDeep)

end Tree

end FirstOrderText
