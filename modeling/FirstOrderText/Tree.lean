/-! Concrete trees. A node has a label, optionally the text that it matched, and
children in the order of the text. Nothing ties the three together: the grammar
gives text to leaves only, but a tree made by hand may have both. -/
namespace FirstOrderText

/-- A node over its children. -/
inductive Tree where
  | node (label : String) (text : Option String) (children : List Tree)
  deriving Inhabited

namespace Tree

/-- The tree of a token: its kind as a label over the text it matched. -/
def leaf (label text : String) : Tree :=
  .node label (some text) []

/-- The tree of a production over the trees of its parts. -/
def branch (label : String) (children : List Tree) : Tree :=
  .node label none children

def label : Tree → String
  | .node label _ _ => label

def text : Tree → Option String
  | .node _ text _ => text

def children : Tree → List Tree
  | .node _ _ children => children

@[simp] theorem label_node (label : String) (text : Option String) (children : List Tree) :
    (node label text children).label = label := rfl

@[simp] theorem text_node (label : String) (text : Option String) (children : List Tree) :
    (node label text children).text = text := rfl

@[simp] theorem children_node (label : String) (text : Option String) (children : List Tree) :
    (node label text children).children = children := rfl

/-- Leaves are told by their text, not by having no children. -/
def isLeaf (tree : Tree) : Bool :=
  tree.text.isSome

/-- The labels of the children from left to right. -/
def childLabels (tree : Tree) : List String :=
  tree.children.map label

mutual

/-- The number of nodes of a tree. -/
def size : Tree → Nat
  | .node _ _ children => sizeAll children + 1

/-- The number of nodes of a list of trees. -/
def sizeAll : List Tree → Nat
  | [] => 0
  | tree :: rest => tree.size + sizeAll rest

end

theorem sizeAll_append (front back : List Tree) :
    sizeAll (front ++ back) = sizeAll front + sizeAll back := by
  induction front with
  | nil => simp [sizeAll]
  | cons tree front ih => simp [sizeAll, ih, Nat.add_assoc]

theorem sizeAll_children (tree : Tree) : tree.size = sizeAll tree.children + 1 := by
  cases tree
  rfl

theorem size_le_sizeAll {tree : Tree} {trees : List Tree} (member : tree ∈ trees) :
    tree.size ≤ sizeAll trees := by
  induction trees with
  | nil => cases member
  | cons head rest ih =>
    rcases List.mem_cons.mp member with rfl | member
    · simp [sizeAll]
    · have := ih member
      simp only [sizeAll]
      omega

/-- Induction over a tree with a hypothesis for each of its children. -/
@[elab_as_elim]
theorem childInduction {motive : Tree → Prop}
    (node : ∀ label text children, (∀ child ∈ children, motive child) →
      motive (.node label text children)) (tree : Tree) : motive tree :=
  match tree with
  | .node label text children =>
    node label text children fun child _ => childInduction node child

end Tree

end FirstOrderText
