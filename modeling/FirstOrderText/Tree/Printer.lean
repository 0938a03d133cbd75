import FirstOrderText.Text
import FirstOrderText.Tree

/-! Trees written out. The outline of a tree is its nodes opened and closed around its leaves,
in the order of the text, and a tree whose nodes have either text or children is recovered
from it. The constructor form shows every field by its name, strings as literals and children
in parentheses. -/
namespace FirstOrderText.Tree

/-- What is met on the way around a tree. -/
inductive Event where
  | opening (label : String)
  | leaf (label text : String)
  | closing
  deriving DecidableEq

mutual

/-- The outline of a tree. -/
def outline : Tree → List Event
  | .node label (some text) _ => [.leaf label text]
  | .node label none children => .opening label :: (outlineAll children ++ [.closing])

/-- The outlines of a list of trees, one after another. -/
def outlineAll : List Tree → List Event
  | [] => []
  | tree :: rest => tree.outline ++ outlineAll rest

end

/-- The trees that an outline completes, innermost open node first: the trees at
the end of each node that it closes without opening it, then those outside all
nodes. Reading from the end, a closing begins a new list of children, and the
opening before it takes that list. -/
def openForests : List Event → List (List Tree)
  | [] => [[]]
  | .closing :: rest => [] :: openForests rest
  | .leaf label text :: rest =>
    match openForests rest with
    | trees :: outer => (Tree.leaf label text :: trees) :: outer
    | [] => []
  | .opening label :: rest =>
    match openForests rest with
    | children :: trees :: outer => (Tree.branch label children :: trees) :: outer
    | _ => []

/-- The tree of an outline, if it is the outline of exactly one. -/
def ofOutline? (events : List Event) : Option Tree :=
  match openForests events with
  | [[tree]] => some tree
  | _ => none

/-- Absent text is told apart from any text by the lack of quotes. -/
def renderText : Option String → String
  | none => "None"
  | some text => quoted text

/-- Elements in parentheses, separated by commas. A comma also follows a single
element, which parentheses alone would not make a sequence. -/
def renderSequence : List String → String
  | [] => "()"
  | [only] => "(" ++ only ++ ",)"
  | elements => "(" ++ String.intercalate ", " elements ++ ")"

mutual

/-- The constructor form of a tree. -/
def render : Tree → String
  | .node label text children =>
    "ParseTree(label=" ++ quoted label ++ ", children=" ++ renderSequence (renderAll children) ++
      ", text=" ++ renderText text ++ ")"

/-- The constructor forms of a list of trees. -/
def renderAll : List Tree → List String
  | [] => []
  | tree :: rest => tree.render :: renderAll rest

end

end FirstOrderText.Tree
