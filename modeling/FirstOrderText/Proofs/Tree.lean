import FirstOrderText.Proofs.Text
import FirstOrderText.Tree.Printer
import FirstOrderText.Tree.Rows

/-! The walk of a tree is its pre-order, whatever else is pending on the stack.
Its leaves in that order are therefore those of its children, one child after
another, which is how every statement about the text of a tree is proved. -/
namespace FirstOrderText.Tree

theorem preorderAll_append (front back : List Tree) :
    preorderAll (front ++ back) = preorderAll front ++ preorderAll back := by
  induction front with
  | nil => rfl
  | cons tree front ih => rw [List.cons_append, preorderAll, ih, preorderAll, List.append_assoc]

theorem preorder_eq_cons (tree : Tree) : tree.preorder = tree :: preorderAll tree.children := by
  cases tree
  rfl

/-- The stack is emptied in the order in which its trees are pending. -/
theorem walkPending_eq_preorderAll (pending : List Tree) :
    walkPending pending = preorderAll pending := by
  fun_induction walkPending pending with
  | case1 => rfl
  | case2 tree rest ih =>
    rw [ih, preorderAll_append, preorderAll, preorder_eq_cons]
    rfl

theorem walk_eq_preorder (tree : Tree) : tree.walk = tree.preorder := by
  rw [walk, walkPending_eq_preorderAll, preorderAll, preorderAll, List.append_nil]

theorem mem_preorderAll_iff {node : Tree} {trees : List Tree} :
    node ∈ preorderAll trees ↔ ∃ tree ∈ trees, node ∈ tree.walk := by
  induction trees with
  | nil => simp [preorderAll]
  | cons tree rest ih => simp [preorderAll, ih, walk_eq_preorder]

/-- The walk of a tree leads to the tree and to all that the walks of its children lead to. -/
theorem mem_walk_iff {node tree : Tree} :
    node ∈ tree.walk ↔ node = tree ∨ ∃ child ∈ tree.children, node ∈ child.walk := by
  rw [walk_eq_preorder, preorder_eq_cons, List.mem_cons, mem_preorderAll_iff]

/-- The leaves of a tree in the order of the walk. -/
def leaves (tree : Tree) : List Tree :=
  tree.walk.filter isLeaf

/-- The leaves of a list of trees, one tree after another. -/
def leavesAll (trees : List Tree) : List Tree :=
  (preorderAll trees).filter isLeaf

@[simp] theorem leavesAll_nil : leavesAll [] = [] := rfl

@[simp] theorem leavesAll_cons (tree : Tree) (rest : List Tree) :
    leavesAll (tree :: rest) = tree.leaves ++ leavesAll rest := by
  rw [leaves, walk_eq_preorder, leavesAll, preorderAll, List.filter_append]
  rfl

@[simp] theorem leavesAll_append (front back : List Tree) :
    leavesAll (front ++ back) = leavesAll front ++ leavesAll back := by
  rw [leavesAll, preorderAll_append, List.filter_append]
  rfl

@[simp] theorem label_leaf (label text : String) : (leaf label text).label = label := rfl

@[simp] theorem leaves_leaf (label text : String) : (leaf label text).leaves = [leaf label text] := by
  rw [leaves, walk_eq_preorder]
  rfl

@[simp] theorem leaves_branch (label : String) (children : List Tree) :
    (branch label children).leaves = leavesAll children := by
  rw [leaves, walk_eq_preorder]
  rfl

/-! The depth of a tree is its height. The stack holds each pending tree with its level, and
the deepest level that is met is the lowest that the pending trees reach, in whatever order
they are visited. Walk and depth are therefore what the recursion over a tree says. -/

theorem heightAll_perm {trees trees' : List Tree} (arranged : trees.Perm trees') :
    heightAll trees = heightAll trees' := by
  induction arranged with
  | nil => rfl
  | cons tree _ ih => rw [heightAll, heightAll, ih]
  | swap first second rest =>
    rw [heightAll, heightAll, heightAll, heightAll]
    exact Nat.max_left_comm ..
  | trans _ _ first second => exact first.trans second

theorem height_eq (tree : Tree) : tree.height = heightAll tree.children + 1 := by
  cases tree
  rfl

/-- The lowest level that pending trees reach. -/
def reach (pending : List (Tree × Nat)) : Nat :=
  (pending.map fun (tree, level) => level + heightAll tree.children).foldr max 0

theorem reach_cons (tree : Tree) (level : Nat) (rest : List (Tree × Nat)) :
    reach ((tree, level) :: rest) = max (level + heightAll tree.children) (reach rest) := rfl

theorem reach_append (front back : List (Tree × Nat)) :
    reach (front ++ back) = max (reach front) (reach back) := by
  induction front with
  | nil => exact (Nat.zero_max _).symm
  | cons pair front ih =>
    rw [List.cons_append, reach_cons, ih, reach_cons, Nat.max_assoc]

/-- Trees below a level reach as far below it as the highest of them. -/
theorem max_reach_below (level : Nat) (trees : List Tree) :
    max level (reach (trees.map fun tree => (tree, level + 1))) = level + heightAll trees := by
  induction trees with
  | nil => exact Nat.max_zero _
  | cons tree rest ih =>
    rw [List.map_cons, reach_cons, heightAll, height_eq]
    omega

/-- The stack is emptied with the lowest level that was met or is reached. -/
theorem depthPending_eq_max_reach (deepest : Nat) (pending : List (Tree × Nat)) :
    depthPending deepest pending = max deepest (reach pending) := by
  fun_induction depthPending deepest pending with
  | case1 deepest => exact (Nat.max_zero _).symm
  | case2 deepest tree level rest ih =>
    have below := max_reach_below level tree.children.reverse
    rw [heightAll_perm (List.reverse_perm _)] at below
    rw [ih, reach_append, reach_cons, ← below, Nat.max_assoc, Nat.max_assoc]

theorem depth_eq_height (tree : Tree) : tree.depth = tree.height := by
  rw [depth, depthPending_eq_max_reach, reach_cons, height_eq, Nat.zero_max, Nat.add_comm]
  exact Nat.max_zero _

theorem preorderAll_eq_flatMap (trees : List Tree) : preorderAll trees = trees.flatMap walk := by
  induction trees with
  | nil => rfl
  | cons tree rest ih => rw [preorderAll, ih, List.flatMap_cons, walk_eq_preorder]

theorem heightAll_eq_max (trees : List Tree) :
    heightAll trees = (trees.map depth).max?.getD 0 := by
  induction trees with
  | nil => rfl
  | cons tree rest ih =>
    rw [heightAll, ih, List.map_cons, List.max?_cons, depth_eq_height]
    cases (rest.map depth).max? with
    | none => exact Nat.max_zero _
    | some highest => rfl

/-- The stacks compute what is said by recursion. The walk of a tree is the tree and then
the walks of its children from left to right, and its depth is one more than that of its
deepest child, or one if it has no children. -/
theorem traversals_recursive (tree : Tree) :
    tree.walk = tree :: tree.children.flatMap walk ∧
      tree.depth = match (tree.children.map depth).max? with
        | some deepest => 1 + deepest
        | none => 1 := by
  constructor
  · rw [walk_eq_preorder, preorder_eq_cons, preorderAll_eq_flatMap]
  · rw [depth_eq_height, height_eq, heightAll_eq_max]
    cases (tree.children.map depth).max? with
    | none => rfl
    | some deepest => exact Nat.add_comm ..

/-! A tree and its flat form. Each row tells how many of the trees behind it are its own
children, so that a flat form ends where its tree does. None is continued by another, each
is read back as the tree that it was made from, and nothing else is read. -/

/-- The flat forms of a list of trees, one after another. -/
def rowsAll (trees : List Tree) : List Row :=
  (preorderAll trees).map row

@[simp] theorem rowsAll_nil : rowsAll [] = [] := rfl

theorem rowsAll_append (front back : List Tree) :
    rowsAll (front ++ back) = rowsAll front ++ rowsAll back := by
  rw [rowsAll, preorderAll_append, List.map_append]
  rfl

/-- The first row is that of the first tree, whose children come before the other trees. -/
theorem rowsAll_cons (tree : Tree) (rest : List Tree) :
    rowsAll (tree :: rest) = tree.row :: rowsAll (tree.children ++ rest) := by
  rw [rowsAll_append, rowsAll, preorderAll, preorder_eq_cons, List.cons_append, List.map_cons,
    List.map_append]
  rfl

theorem rows_eq_rowsAll (tree : Tree) : tree.rows = rowsAll [tree] := by
  rw [rows, walk_eq_preorder, rowsAll, preorderAll, preorderAll, List.append_nil]

theorem forestOfRows?_cons (row : Row) (rest : List Row) : forestOfRows? (row :: rest) =
    (forestOfRows? rest).bind fun trees =>
      if row.arity ≤ trees.length then
        some (.node row.label row.text (trees.take row.arity) :: trees.drop row.arity)
      else none := by
  rw [forestOfRows?]
  cases forestOfRows? rest <;> rfl

/-- Trees are read back from their rows, and then whatever stands behind them. -/
theorem forestOfRows?_append (trees : List Tree) (behind : List Row) :
    forestOfRows? (rowsAll trees ++ behind) = (forestOfRows? behind).map (trees ++ ·) := by
  -- As the walk does, the induction puts the children of a tree before the other trees.
  induction trees using walkPending.induct with
  | case1 => simp
  | case2 tree rest ih =>
    rw [rowsAll_cons, List.cons_append, forestOfRows?_cons, ih]
    cases forestOfRows? behind with
    | none => rfl
    | some found =>
      have enough : tree.row.arity ≤ (tree.children ++ rest ++ found).length := by
        simp [row]
      have own : (tree.children ++ rest ++ found).take tree.row.arity = tree.children := by
        simp [row]
      have others : (tree.children ++ rest ++ found).drop tree.row.arity = rest ++ found := by
        simp [row]
      rw [Option.map_some, Option.bind_some, if_pos enough, own, others]
      cases tree
      rfl

/-- Whatever is read as trees are the rows of those trees. -/
theorem rowsAll_of_forestOfRows? {rows : List Row} {trees : List Tree}
    (found : forestOfRows? rows = some trees) : rowsAll trees = rows := by
  induction rows generalizing trees with
  | nil =>
    cases found
    rfl
  | cons row rest ih =>
    rw [forestOfRows?_cons] at found
    obtain ⟨others, behind, taken⟩ := Option.bind_eq_some_iff.mp found
    obtain ⟨enough, same⟩ := Option.ite_none_right_eq_some.mp taken
    cases same
    have arity : (others.take row.arity).length = row.arity := List.length_take_of_le enough
    rw [rowsAll_cons, children_node, List.take_append_drop, ih behind, Tree.row, children_node,
      arity]
    rfl

theorem forestOfRows?_eq_some_iff {rows : List Row} {trees : List Tree} :
    forestOfRows? rows = some trees ↔ rowsAll trees = rows := by
  constructor
  · exact rowsAll_of_forestOfRows?
  · rintro rfl
    have alone := forestOfRows?_append trees []
    rwa [List.append_nil, forestOfRows?, Option.map_some, List.append_nil] at alone

/-- A flat form is read as the tree that has it. -/
theorem ofRows?_eq_some_iff {rows : List Row} {tree : Tree} :
    ofRows? rows = some tree ↔ tree.rows = rows := by
  rw [rows_eq_rowsAll, ← forestOfRows?_eq_some_iff, ofRows?]
  cases forestOfRows? rows with
  | none => simp
  | some trees => rcases trees with _ | ⟨first, _ | ⟨second, more⟩⟩ <;> simp

/-- Behind the flat form of a tree nothing more belongs to a tree. -/
theorem eq_of_rows_begin {tree other : Tree} (continued : tree.rows <+: other.rows) :
    tree = other := by
  obtain ⟨behind, same⟩ := continued
  rw [rows_eq_rowsAll, rows_eq_rowsAll] at same
  have read := forestOfRows?_eq_some_iff.mpr same.symm
  rw [forestOfRows?_append] at read
  obtain ⟨found, _, alone⟩ := Option.map_eq_some_iff.mp read
  exact (List.cons.inj alone).1

/-- The flat form of a tree determines it. Two trees have the same flat form only if they
are the same, and so they are when the flat form of one begins that of the other; and a
list of rows is read as a tree exactly when it is the flat form of that tree. -/
theorem rows_determine (tree other : Tree) :
    (tree.rows = other.rows ↔ tree = other) ∧ (tree.rows <+: other.rows ↔ tree = other) ∧
      ∀ rows, ofRows? rows = some tree ↔ rows = tree.rows := by
  refine ⟨⟨?_, ?_⟩, ⟨eq_of_rows_begin, ?_⟩, ?_⟩
  · intro same
    exact eq_of_rows_begin (same ▸ List.prefix_refl _)
  · rintro rfl
    rfl
  · rintro rfl
    exact List.prefix_refl _
  · intro rows
    rw [ofRows?_eq_some_iff, eq_comm]

/-! Constructor forms identify trees. Labels and texts are literals, which end by themselves,
and so do the forms of the children, however many they are: a closing parenthesis begins no
form, and a comma that closes a single child has no space behind it. -/

/-- The characters of the constructor form of a tree. -/
def form (tree : Tree) : List Char :=
  tree.render.toList

/-- The characters of the constructor forms of children in their parentheses. -/
def formChildren (children : List Tree) : List Char :=
  (renderSequence (renderAll children)).toList

/-- The characters of a text that may be absent. -/
def formText (text : Option String) : List Char :=
  (renderText text).toList

theorem renderAll_eq_map (trees : List Tree) : renderAll trees = trees.map render := by
  induction trees with
  | nil => rfl
  | cons tree rest ih => rw [renderAll, ih, List.map_cons]

/-- The form of a node, part by part. -/
theorem render_node (label : String) (text : Option String) (children : List Tree) :
    (node label text children).render = "ParseTree(label=" ++ quoted label ++ ", children=" ++
      renderSequence (renderAll children) ++ ", text=" ++ renderText text ++ ")" := rfl

theorem form_append (tree : Tree) (rest : List Char) : tree.form ++ rest =
    "ParseTree(label=".toList ++ (Quoted.literal tree.label.toList ++ (", children=".toList ++
      (formChildren tree.children ++ (", text=".toList ++ (formText tree.text ++ ')' :: rest))))) := by
  have closing : ")".toList = [')'] := rfl
  cases tree
  simp only [form, formChildren, formText, render_node, quoted, label_node, text_node, children_node,
    String.toList_append, String.toList_ofList, List.append_assoc, closing, List.singleton_append]

theorem formText_some (text : String) : formText (some text) = Quoted.literal text.toList :=
  String.toList_ofList

/-- Absent text is no literal. -/
theorem formText_append_ne (text : String) (rest rest' : List Char) :
    formText (some text) ++ rest ≠ formText none ++ rest' := by
  intro same
  rw [formText_some, Quoted.literal_append] at same
  have letter : Quoted.enclosing text.toList = 'N' := (List.cons.inj same).1
  rcases Quoted.isQuote_enclosing text.toList with quote | quote <;>
    exact absurd (quote.symm.trans letter) (by decide)

theorem delimited_formText (text : Option String) : Delimited formText text := by
  intro text' rest rest' same
  cases text with
  | none =>
    cases text' with
    | none => exact ⟨rfl, List.append_cancel_left same⟩
    | some other => exact absurd same.symm (formText_append_ne other _ _)
  | some text =>
    cases text' with
    | none => exact absurd same (formText_append_ne text _ _)
    | some other =>
      rw [formText_some, formText_some] at same
      obtain ⟨texts, ended⟩ := Quoted.delimited_literal _ same
      rw [String.toList_injective texts]
      exact ⟨rfl, ended⟩

/-- What stands behind the first child, up to the closing parenthesis and more. -/
def behindFirst (rest : List Char) : List Tree → List Char
  | [] => ',' :: ')' :: rest
  | more => (more.flatMap fun child => ',' :: ' ' :: child.form) ++ ')' :: rest

theorem formChildren_nil_append (rest : List Char) : formChildren [] ++ rest = '(' :: ')' :: rest :=
  rfl

theorem formChildren_cons_append (first : Tree) (more : List Tree) (rest : List Char) :
    formChildren (first :: more) ++ rest = '(' :: (first.form ++ behindFirst rest more) := by
  cases more with
  | nil => simp [formChildren, renderAll, renderSequence, form, behindFirst]
  | cons second more =>
    have elements : renderAll (first :: second :: more) =
        first.render :: (second :: more).map render := renderAll_eq_map _
    have several : renderSequence (renderAll (first :: second :: more)) =
        "(" ++ String.intercalate ", " (renderAll (first :: second :: more)) ++ ")" := rfl
    rw [formChildren, several, elements, String.toList_append, String.toList_append,
      toList_intercalate_cons, List.flatMap_map]
    simp [behindFirst, form]

/-- A closing parenthesis is not the beginning of a tree. -/
theorem form_append_ne (tree : Tree) (rest rest' : List Char) : tree.form ++ rest ≠ ')' :: rest' := by
  rw [form_append]
  intro same
  cases same

theorem behindFirst_inj {more more' : List Tree} {rest rest' : List Char}
    (each : ∀ child ∈ more, Delimited form child)
    (same : behindFirst rest more = behindFirst rest' more') : more = more' ∧ rest = rest' := by
  cases more with
  | nil =>
    cases more' with
    | nil => simpa [behindFirst] using same
    | cons second' more' => simp [behindFirst] at same
  | cons second more =>
    cases more' with
    | nil => simp [behindFirst] at same
    | cons second' more' => exact tail_inj (by decide) each same

theorem formChildren_inj {children children' : List Tree} {rest rest' : List Char}
    (each : ∀ child ∈ children, Delimited form child)
    (same : formChildren children ++ rest = formChildren children' ++ rest') :
    children = children' ∧ rest = rest' := by
  cases children with
  | nil =>
    cases children' with
    | nil => exact ⟨rfl, List.append_cancel_left same⟩
    | cons first' more' =>
      rw [formChildren_nil_append, formChildren_cons_append] at same
      exact absurd (List.cons.inj same).2.symm (first'.form_append_ne _ _)
  | cons first more =>
    cases children' with
    | nil =>
      rw [formChildren_nil_append, formChildren_cons_append] at same
      exact absurd (List.cons.inj same).2 (first.form_append_ne _ _)
    | cons first' more' =>
      rw [formChildren_cons_append, formChildren_cons_append] at same
      obtain ⟨head, later⟩ := List.forall_mem_cons.mp each
      obtain ⟨rfl, behind⟩ := head (List.cons.inj same).2
      obtain ⟨rfl, ended⟩ := behindFirst_inj later behind
      exact ⟨rfl, ended⟩

/-- The form of a tree ends by itself. -/
theorem delimited_form (tree : Tree) : Delimited form tree := by
  induction tree using childInduction with
  | node label text children each =>
    intro other rest rest' same
    rw [form_append, form_append] at same
    cases other with
    | node label' text' children' =>
      obtain ⟨labels, behind⟩ := Quoted.delimited_literal _ (List.append_cancel_left same)
      obtain ⟨rfl, behind⟩ := formChildren_inj each (List.append_cancel_left behind)
      obtain ⟨rfl, ended⟩ := delimited_formText _ (List.append_cancel_left behind)
      obtain rfl : label = label' := String.toList_injective labels
      exact ⟨rfl, (List.cons.inj ended).2⟩

/-- The constructor form identifies a tree, whatever its labels and texts are made of and
however its nodes are grouped. -/
theorem render_identifies (tree other : Tree) : tree.render = other.render ↔ tree = other := by
  constructor
  · intro same
    have forms : tree.form ++ [] = other.form ++ [] := congrArg (String.toList · ++ []) same
    exact (tree.delimited_form forms).1
  · rintro rfl
    rfl

/-- Absent text, empty text and the word for absent text have three forms. -/
example : ([none, some "", some "None"].map renderText).Nodup := by decide

end FirstOrderText.Tree
