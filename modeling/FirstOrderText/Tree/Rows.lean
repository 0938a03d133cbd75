import FirstOrderText.Tree

/-! Walking a tree, measuring its depth, and writing it in rows. Walk and depth are driven by a
stack of pending nodes, so that no nesting is too deep for them; beside each stands the
definition by recursion over the tree that it computes. The rows are those of the walk. -/
namespace FirstOrderText

namespace Tree

/-- The nodes of the pending trees, each before its children, from left to right.
The next tree to visit is the first of the stack. -/
def walkPending (pending : List Tree) : List Tree :=
  match pending with
  | [] => []
  | tree :: rest => tree :: walkPending (tree.children ++ rest)
termination_by sizeAll pending
decreasing_by
  simp only [sizeAll_append, sizeAll, sizeAll_children tree]
  omega

/-- Every node of a tree, the tree itself first. -/
def walk (tree : Tree) : List Tree :=
  walkPending [tree]

/-- The number of nodes in a stack whose trees are each paired with a level. -/
def pendingSize (pending : List (Tree × Nat)) : Nat :=
  sizeAll (pending.map Prod.fst)

/-- The deepest level among those met so far and those of the pending trees. The
children of a node are visited from the last to the first. -/
def depthPending (deepest : Nat) (pending : List (Tree × Nat)) : Nat :=
  match pending with
  | [] => deepest
  | (tree, level) :: rest =>
    depthPending (max deepest level)
      (tree.children.reverse.map (fun child => (child, level + 1)) ++ rest)
termination_by pendingSize pending
decreasing_by
  have reversed : sizeAll tree.children.reverse = sizeAll tree.children := by
    induction tree.children with
    | nil => rfl
    | cons child children ih => simp [sizeAll_append, sizeAll, ih, Nat.add_comm]
  simp only [pendingSize, List.map_append, List.map_map, Function.comp_def, List.map_id',
    sizeAll_append, reversed, List.map_cons, sizeAll, sizeAll_children tree]
  omega

/-- The number of nodes on the longest way from the root down to a leaf. -/
def depth (tree : Tree) : Nat :=
  depthPending 0 [(tree, 1)]

mutual

/-- The nodes of a tree in pre-order: the tree, then those of its children. -/
def preorder : Tree → List Tree
  | .node label text children => .node label text children :: preorderAll children

/-- The nodes of a list of trees in pre-order. -/
def preorderAll : List Tree → List Tree
  | [] => []
  | tree :: rest => tree.preorder ++ preorderAll rest

end

mutual

/-- One more than the height of the highest child. -/
def height : Tree → Nat
  | .node _ _ children => heightAll children + 1

/-- The height of the highest tree of a list, or zero if it is empty. -/
def heightAll : List Tree → Nat
  | [] => 0
  | tree :: rest => max tree.height (heightAll rest)

end

/-- The labels of the nodes in the order of the walk. -/
def walkLabels (tree : Tree) : List String :=
  tree.walk.map label

end Tree

/-! The flat form of a tree: one row for each node, in the order of the walk, with
the number of its children. The numbers alone tell where each tree ends, so the
form can be read back. -/

/-- A node without its children, but with their number. -/
structure Row where
  label : String
  text : Option String
  arity : Nat
  deriving DecidableEq

namespace Tree

/-- The row of the root of a tree. -/
def row (tree : Tree) : Row :=
  ⟨tree.label, tree.text, tree.children.length⟩

/-- The flat form of a tree. -/
def rows (tree : Tree) : List Row :=
  tree.walk.map row

/-- The trees written one after another in a flat form. Each row takes as many of
the trees behind it as it has children. -/
def forestOfRows? : List Row → Option (List Tree)
  | [] => some []
  | row :: rest =>
    match forestOfRows? rest with
    | none => none
    | some trees =>
      if row.arity ≤ trees.length then
        some (.node row.label row.text (trees.take row.arity) :: trees.drop row.arity)
      else none

/-- The tree that a flat form describes, if it describes exactly one. -/
def ofRows? (rows : List Row) : Option Tree :=
  match forestOfRows? rows with
  | some [tree] => some tree
  | _ => none

end Tree

end FirstOrderText
