import FirstOrderText.Proofs.Conversion.Phrase

/-! Nested applications. Only `fun` nodes use up the room that conversion has, and the
tree of a phrase nests as many as its formula. Within the room, nothing but the texts
of the tokens can be an obstacle. -/
namespace FirstOrderText

namespace Tree

mutual

/-- How many `fun` nodes enclose one another at most. -/
def nesting : Tree → Nat
  | .node label _ children => nestingAll children + if label = "fun" then 1 else 0

/-- The deepest nesting among a list of trees. -/
def nestingAll : List Tree → Nat
  | [] => 0
  | tree :: rest => max tree.nesting (nestingAll rest)

end

@[simp] theorem nestingAll_nil : nestingAll [] = 0 := rfl

@[simp] theorem nestingAll_cons (tree : Tree) (rest : List Tree) :
    nestingAll (tree :: rest) = max tree.nesting (nestingAll rest) := rfl

theorem nesting_le_nestingAll {tree : Tree} {trees : List Tree} (member : tree ∈ trees) :
    tree.nesting ≤ nestingAll trees := by
  induction trees with
  | nil => cases member
  | cons first rest ih =>
    rw [nestingAll_cons]
    rcases List.mem_cons.mp member with rfl | member
    · exact Nat.le_max_left _ _
    · exact Nat.le_trans (ih member) (Nat.le_max_right _ _)

theorem nesting_le_of_mem_children {child tree : Tree} (inside : child ∈ tree.children) :
    child.nesting ≤ tree.nesting := by
  cases tree
  exact Nat.le_trans (nesting_le_nestingAll inside) (Nat.le_add_right _ _)

theorem nesting_branch {label : String} (other : label ≠ "fun") (children : List Tree) :
    (branch label children).nesting = nestingAll children := by
  rw [branch, nesting, if_neg other]
  rfl

@[simp] theorem nesting_token (kind : Terminal) (mark : Mark) :
    (kind.token mark).leaf.nesting = 0 := by
  have other : kind.label ≠ "fun" :=
    (by decide : ∀ kind ∈ Terminal.all, kind.label ≠ "fun") kind (Terminal.mem_all kind)
  rw [Token.leaf, leaf, nesting, nestingAll, Nat.zero_add]
  exact if_neg other

@[simp] theorem nesting_nameTree (name : Mark) : name.nameTree.nesting = 0 := rfl

@[simp] theorem nesting_group (parens : Enclosure) (inner : Tree) :
    (parens.group inner).nesting = inner.nesting := by
  rw [Enclosure.group, nesting_branch (by decide)]
  simp

end Tree

mutual

theorem TermPhrase.nesting_tree (term : TermPhrase) : term.tree.nesting = term.term.nesting := by
  cases term with
  | var word name => rfl
  | app word name brackets args =>
    have inside := args.nesting_trees
    have terms : (Tree.branch "terms" args.trees).nesting = Tree.nestingAll args.trees := rfl
    have node : (TermPhrase.app word name brackets args).tree.nesting =
        Tree.nestingAll [_, name.nameTree, _, Tree.branch "terms" args.trees, _] + 1 := rfl
    rw [node, TermPhrase.term, Term.nesting, ← inside]
    simp [terms]

theorem TermsPhrase.nesting_trees (args : TermsPhrase) :
    Tree.nestingAll args.trees = Term.nestingAll args.terms := by
  cases args with
  | none => rfl
  | some first more =>
    rw [TermsPhrase.trees, TermsPhrase.terms, Tree.nestingAll, Term.nestingAll,
      first.nesting_tree, more.nesting_trees]

theorem TailPhrase.nesting_trees (tail : TailPhrase) :
    Tree.nestingAll tail.trees = Term.nestingAll tail.terms := by
  cases tail with
  | done => rfl
  | next comma term more =>
    rw [TailPhrase.trees, TailPhrase.terms, Term.nestingAll, ← term.nesting_tree,
      ← more.nesting_trees]
    simp

end

/-- The tree of a formula nests as many applications as the formula. -/
theorem FormulaPhrase.nesting_tree (phrase : FormulaPhrase) :
    phrase.tree.nesting = phrase.formula.nesting := by
  induction phrase with
  | constant value word => cases value <;> rfl
  | atom word name brackets args =>
    have terms : args.tree.nesting = Tree.nestingAll args.trees := rfl
    rw [FormulaPhrase.tree, Tree.nesting_branch (by decide)]
    simp [terms, args.nesting_trees, FormulaPhrase.formula, Formula.nesting]
  | negation word parens operand ih =>
    rw [FormulaPhrase.tree, Tree.nesting_branch (by decide)]
    simp [ih, FormulaPhrase.formula, Formula.nesting]
  | connected op word parens left parens' right onLeft onRight =>
    rw [FormulaPhrase.tree, Tree.nesting_branch (by cases op <;> decide)]
    simp [onLeft, onRight, FormulaPhrase.formula, Formula.nesting]
  | quantified binder word name parens body ih =>
    rw [FormulaPhrase.tree, Tree.nesting_branch (by cases binder <;> decide)]
    simp [ih, FormulaPhrase.formula, Formula.nesting]

mutual

/-- Where there is room for a term, its obstacles are its tokens. -/
theorem TermPhrase.obstacles_eq_flatMap (term : TermPhrase) {room : Nat}
    (fits : term.term.nesting ≤ room) :
    term.obstacles room = term.tokens.flatMap Token.obstacles := by
  cases term with
  | var word name => simp [TermPhrase.obstacles, TermPhrase.tokens, Token.obstacles_keyword]
  | app word name brackets args =>
    cases room with
    | zero => exact absurd fits (Nat.not_succ_le_zero _)
    | succ room =>
      have inside := args.obstacles_eq_flatMap (Nat.le_of_succ_le_succ fits)
      simp [TermPhrase.obstacles, TermPhrase.tokens, Token.obstacles_keyword, Enclosure.bracket,
        inside]

theorem TermsPhrase.obstacles_eq_flatMap (args : TermsPhrase) {room : Nat}
    (fits : Term.nestingAll args.terms ≤ room) :
    args.obstacles room = args.tokens.flatMap Token.obstacles := by
  cases args with
  | none => rfl
  | some first more =>
    obtain ⟨head, tail⟩ := Nat.max_le.mp fits
    rw [TermsPhrase.obstacles, TermsPhrase.tokens, List.flatMap_append,
      first.obstacles_eq_flatMap head, more.obstacles_eq_flatMap tail]

theorem TailPhrase.obstacles_eq_flatMap (tail : TailPhrase) {room : Nat}
    (fits : Term.nestingAll tail.terms ≤ room) :
    tail.obstacles room = tail.tokens.flatMap Token.obstacles := by
  cases tail with
  | done => rfl
  | next comma term more =>
    obtain ⟨head, tail⟩ := Nat.max_le.mp fits
    rw [TailPhrase.obstacles, TailPhrase.tokens, List.flatMap_cons, List.flatMap_append,
      term.obstacles_eq_flatMap head, more.obstacles_eq_flatMap tail, Token.obstacles_delimiter,
      List.nil_append]

end

/-- Where there is room for a formula, its obstacles are its tokens. -/
theorem FormulaPhrase.obstacles_eq_flatMap (phrase : FormulaPhrase)
    (fits : phrase.formula.nesting ≤ Tree.nestingLimit) :
    phrase.obstacles = phrase.tokens.flatMap Token.obstacles := by
  induction phrase with
  | constant value word => simp [obstacles, tokens]
  | atom word name brackets args =>
    have inside := args.obstacles_eq_flatMap fits
    simp [obstacles, tokens, Token.obstacles_keyword, Enclosure.bracket, inside]
  | negation word parens operand ih =>
    have inside := ih fits
    simp [obstacles, tokens, Token.obstacles_keyword, Enclosure.parenthesize, inside]
  | connected op word parens left parens' right onLeft onRight =>
    obtain ⟨fitsLeft, fitsRight⟩ := Nat.max_le.mp fits
    simp [obstacles, tokens, Token.obstacles_keyword, Enclosure.parenthesize, onLeft fitsLeft,
      onRight fitsRight]
  | quantified binder word name parens body ih =>
    have inside := ih fits
    simp [obstacles, tokens, Token.obstacles_keyword, Enclosure.parenthesize, inside]

/-! The depth of a token. An application opens a bracket, and so does an atom, so that an
application is nested as deep as brackets are open before its word. Conversion enters the
applications in the order of their words and stops at the first that is too deep, unless
the text of a token stopped it before. -/

/-- How many brackets are open behind a token, when so many are open before it. -/
def Token.depthBehind (depth : Nat) (token : Token) : Nat :=
  if token.kind = "LBRACKET" then depth + 1
  else if token.kind = "RBRACKET" then depth - 1
  else depth

/-- Tokens, each with the number of brackets that are open before it. -/
def atDepths (depth : Nat) : List Token → List (Token × Nat)
  | [] => []
  | token :: rest => (token, depth) :: atDepths (token.depthBehind depth) rest

theorem atDepths_append (depth : Nat) (front back : List Token) :
    atDepths depth (front ++ back) =
      atDepths depth front ++ atDepths (front.foldl Token.depthBehind depth) back := by
  induction front generalizing depth with
  | nil => rfl
  | cons token front ih => rw [List.cons_append, atDepths, ih, atDepths, List.foldl_cons,
      List.cons_append]

theorem map_fst_atDepths (depth : Nat) (tokens : List Token) :
    (atDepths depth tokens).map Prod.fst = tokens := by
  induction tokens generalizing depth with
  | nil => rfl
  | cons token rest ih => rw [atDepths, List.map_cons, ih]

section
variable (mark : Mark) (depth : Nat)

@[simp] theorem depthBehind_keyword (word : Keyword) :
    (Terminal.token (.keyword word) mark).depthBehind depth = depth := by
  rcases word with (_ | _) | _ | _ | _ | _ | (_ | _ | _) | (_ | _) <;> rfl

@[simp] theorem depthBehind_name : (Terminal.name.token mark).depthBehind depth = depth := rfl

@[simp] theorem depthBehind_openBracket :
    (Terminal.token (.delimiter .openBracket) mark).depthBehind depth = depth + 1 := rfl

@[simp] theorem depthBehind_closeBracket :
    (Terminal.token (.delimiter .closeBracket) mark).depthBehind depth = depth - 1 := rfl

@[simp] theorem depthBehind_openParen :
    (Terminal.token (.delimiter .openParen) mark).depthBehind depth = depth := rfl

@[simp] theorem depthBehind_closeParen :
    (Terminal.token (.delimiter .closeParen) mark).depthBehind depth = depth := rfl

@[simp] theorem depthBehind_comma :
    (Terminal.token (.delimiter .comma) mark).depthBehind depth = depth := rfl

end

mutual

/-- Behind a term as many brackets are open as before it. -/
theorem TermPhrase.depthBehind_tokens (term : TermPhrase) (depth : Nat) :
    term.tokens.foldl Token.depthBehind depth = depth := by
  cases term with
  | var word name => simp [TermPhrase.tokens]
  | app word name brackets args =>
    simp [TermPhrase.tokens, Enclosure.bracket, args.depthBehind_tokens (depth + 1)]

theorem TermsPhrase.depthBehind_tokens (args : TermsPhrase) (depth : Nat) :
    args.tokens.foldl Token.depthBehind depth = depth := by
  cases args with
  | none => rfl
  | some first more =>
    rw [TermsPhrase.tokens, List.foldl_append, first.depthBehind_tokens, more.depthBehind_tokens]

theorem TailPhrase.depthBehind_tokens (tail : TailPhrase) (depth : Nat) :
    tail.tokens.foldl Token.depthBehind depth = depth := by
  cases tail with
  | done => rfl
  | next comma term more =>
    rw [TailPhrase.tokens, List.foldl_cons, depthBehind_comma, List.foldl_append,
      term.depthBehind_tokens, more.depthBehind_tokens]

end

theorem FormulaPhrase.depthBehind_tokens (phrase : FormulaPhrase) (depth : Nat) :
    phrase.tokens.foldl Token.depthBehind depth = depth := by
  induction phrase with
  | constant value word => simp [tokens]
  | atom word name brackets args =>
    simp [tokens, Enclosure.bracket, args.depthBehind_tokens (depth + 1)]
  | negation word parens operand ih => simp [tokens, Enclosure.parenthesize, ih]
  | connected op word parens left parens' right onLeft onRight =>
    simp [tokens, Enclosure.parenthesize, onLeft, onRight]
  | quantified binder word name parens body ih => simp [tokens, Enclosure.parenthesize, ih]

/-- Some application among the tokens is nested so deep. -/
def Enters (depth : Nat) (tokens : List Token) (k : Nat) : Prop :=
  ∃ word, (word, k) ∈ atDepths depth tokens ∧ word.kind = "FUN"

section
variable {depth k : Nat} {token : Token} {front back rest : List Token}

@[simp] theorem enters_nil : ¬Enters depth [] k := by
  simp [Enters, atDepths]

theorem enters_cons_iff : Enters depth (token :: rest) k ↔
    token.kind = "FUN" ∧ k = depth ∨ Enters (token.depthBehind depth) rest k := by
  simp only [Enters, atDepths, List.mem_cons, Prod.mk.injEq]
  constructor
  · rintro ⟨word, ⟨rfl, rfl⟩ | later, isFun⟩
    · exact Or.inl ⟨isFun, rfl⟩
    · exact Or.inr ⟨word, later, isFun⟩
  · rintro (⟨isFun, rfl⟩ | ⟨word, later, isFun⟩)
    · exact ⟨token, Or.inl ⟨rfl, rfl⟩, isFun⟩
    · exact ⟨word, Or.inr later, isFun⟩

theorem enters_append_iff : Enters depth (front ++ back) k ↔
    Enters depth front k ∨ Enters (front.foldl Token.depthBehind depth) back k := by
  simp only [Enters, atDepths_append, List.mem_append, or_and_right, exists_or]

end

theorem kind_token_eq_fun_iff {kind : Terminal} {mark : Mark} :
    (kind.token mark).kind = "FUN" ↔ kind = .keyword .application :=
  ⟨fun labelled => Terminal.label_injective labelled, by rintro rfl; rfl⟩

section
variable {depth k : Nat}

theorem enters_token_iff {kind : Terminal} (other : kind ≠ .keyword .application) (mark : Mark)
    (rest : List Token) : Enters depth (kind.token mark :: rest) k ↔
      Enters ((kind.token mark).depthBehind depth) rest k := by
  rw [enters_cons_iff, kind_token_eq_fun_iff, or_iff_right fun here => other here.1]

theorem enters_bracket_iff {brackets : Enclosure} {inner : List Token} :
    Enters depth (brackets.bracket inner) k ↔ Enters (depth + 1) inner k := by
  simp [Enclosure.bracket, enters_token_iff, enters_append_iff]

theorem enters_parenthesize_iff {parens : Enclosure} {inner : List Token} :
    Enters depth (parens.parenthesize inner) k ↔ Enters depth inner k := by
  simp [Enclosure.parenthesize, enters_token_iff, enters_append_iff]

end

mutual

/-- The applications in a term are nested down to the nesting of the term. -/
theorem TermPhrase.enters_tokens_iff (term : TermPhrase) {depth k : Nat} :
    Enters depth term.tokens k ↔ depth ≤ k ∧ k < depth + term.term.nesting := by
  cases term with
  | var word name =>
    simp [TermPhrase.tokens, enters_token_iff, TermPhrase.term, Term.nesting]
  | app word name brackets args =>
    have words : Enters depth (TermPhrase.app word name brackets args).tokens k ↔
        k = depth ∨ Enters (depth + 1) args.tokens k := by
      simp [TermPhrase.tokens, enters_cons_iff, kind_token_eq_fun_iff, enters_bracket_iff]
    rw [words, args.enters_tokens_iff, TermPhrase.term, Term.nesting]
    omega

theorem TermsPhrase.enters_tokens_iff (args : TermsPhrase) {depth k : Nat} :
    Enters depth args.tokens k ↔ depth ≤ k ∧ k < depth + Term.nestingAll args.terms := by
  cases args with
  | none => simp [TermsPhrase.tokens, TermsPhrase.terms, Term.nestingAll]
  | some first more =>
    rw [TermsPhrase.tokens, enters_append_iff, first.depthBehind_tokens, first.enters_tokens_iff,
      more.enters_tokens_iff, TermsPhrase.terms, Term.nestingAll]
    omega

theorem TailPhrase.enters_tokens_iff (tail : TailPhrase) {depth k : Nat} :
    Enters depth tail.tokens k ↔ depth ≤ k ∧ k < depth + Term.nestingAll tail.terms := by
  cases tail with
  | done => simp [TailPhrase.tokens, TailPhrase.terms, Term.nestingAll]
  | next comma term more =>
    have words : Enters depth (TailPhrase.next comma term more).tokens k ↔
        Enters depth term.tokens k ∨ Enters depth more.tokens k := by
      simp [TailPhrase.tokens, enters_token_iff, enters_append_iff, term.depthBehind_tokens]
    rw [words, term.enters_tokens_iff, more.enters_tokens_iff, TailPhrase.terms, Term.nestingAll]
    omega

end

/-- The applications in a formula are nested down to the nesting of the formula. -/
theorem FormulaPhrase.enters_tokens_iff (phrase : FormulaPhrase) {k : Nat} :
    Enters 0 phrase.tokens k ↔ 1 ≤ k ∧ k ≤ phrase.formula.nesting := by
  induction phrase with
  | constant value word =>
    have words : ¬Enters 0 (constant value word).tokens k := by
      simp [tokens, enters_token_iff]
    rw [formula, Formula.nesting]
    exact iff_of_false words (by omega)
  | atom word name brackets args =>
    have words : Enters 0 (atom word name brackets args).tokens k ↔ Enters 1 args.tokens k := by
      simp [tokens, enters_token_iff, enters_bracket_iff]
    rw [words, args.enters_tokens_iff, formula, Formula.nesting]
    omega
  | negation word parens operand ih =>
    have words : Enters 0 (negation word parens operand).tokens k ↔ Enters 0 operand.tokens k := by
      simp [tokens, enters_token_iff, enters_parenthesize_iff]
    rw [words, ih, formula, Formula.nesting]
  | connected op word parens left parens' right onLeft onRight =>
    have words : Enters 0 (connected op word parens left parens' right).tokens k ↔
        Enters 0 left.tokens k ∨ Enters 0 right.tokens k := by
      simp [tokens, enters_token_iff, enters_append_iff, Enclosure.parenthesize,
        left.depthBehind_tokens]
    rw [words, onLeft, onRight, formula, Formula.nesting]
    omega
  | quantified binder word name parens body ih =>
    have words : Enters 0 (quantified binder word name parens body).tokens k ↔
        Enters 0 body.tokens k := by
      simp [tokens, enters_token_iff, enters_parenthesize_iff]
    rw [words, ih, formula, Formula.nesting]

/-- What stops conversion at a token, if it comes to it. -/
def obstacleAt? : Token × Nat → Option Obstacle
  | (token, depth) =>
    if token.kind = "FUN" ∧ Tree.nestingLimit < depth then some .overflow
    else token.fault?.map .fault

/-- What stops conversion first on its way through some tokens. -/
def firstObstacle? (depth : Nat) (tokens : List Token) : Option Obstacle :=
  (atDepths depth tokens).findSome? obstacleAt?

theorem firstObstacle?_cons (depth : Nat) (token : Token) (rest : List Token) :
    firstObstacle? depth (token :: rest) =
      (obstacleAt? (token, depth)).or (firstObstacle? (token.depthBehind depth) rest) := by
  rw [firstObstacle?, atDepths, List.findSome?_cons]
  cases obstacleAt? (token, depth) <;> rfl

theorem firstObstacle?_append (depth : Nat) (front back : List Token) :
    firstObstacle? depth (front ++ back) = (firstObstacle? depth front).or
      (firstObstacle? (front.foldl Token.depthBehind depth) back) := by
  rw [firstObstacle?, atDepths_append, List.findSome?_append]
  rfl

section
variable (mark : Mark) (depth : Nat)

theorem obstacleAt?_of_ne {kind : Terminal} (other : kind ≠ .keyword .application) :
    obstacleAt? (kind.token mark, depth) = (kind.token mark).obstacles.head? := by
  rw [obstacleAt?, if_neg fun here => other (kind_token_eq_fun_iff.mp here.1), Token.obstacles]
  cases (kind.token mark).fault? <;> rfl

theorem obstacleAt?_application : obstacleAt? (Terminal.token (.keyword .application) mark, depth) =
    if Tree.nestingLimit < depth then some .overflow else none := by
  have faultless : (Terminal.token (.keyword .application) mark).fault? = none := rfl
  rw [obstacleAt?, faultless]
  simp [kind_token_eq_fun_iff]

@[simp] theorem firstObstacle?_nil : firstObstacle? depth [] = none := rfl

end

mutual

/-- Conversion of a term stops where its way through the tokens stops. The room that is
left and the depth that was reached are the limit together. -/
theorem TermPhrase.head?_obstacles (term : TermPhrase) {room depth : Nat}
    (spent : depth + room = Tree.nestingLimit + 1) :
    (term.obstacles room).head? = firstObstacle? depth term.tokens := by
  cases term with
  | var word name =>
    simp [TermPhrase.obstacles, TermPhrase.tokens, firstObstacle?_cons, obstacleAt?_of_ne,
      Token.obstacles_keyword]
  | app word name brackets args =>
    cases room with
    | zero =>
      -- No room is left exactly where the word itself is deeper than the limit.
      have deep : Tree.nestingLimit < depth := by omega
      rw [TermPhrase.tokens, firstObstacle?_cons, obstacleAt?_application, if_pos deep]
      rfl
    | succ room =>
      have shallow : ¬Tree.nestingLimit < depth := by omega
      have inside : (args.obstacles room).head? = firstObstacle? (depth + 1) args.tokens :=
        args.head?_obstacles (by omega)
      simp [TermPhrase.obstacles, TermPhrase.tokens, Enclosure.bracket, firstObstacle?_cons,
        firstObstacle?_append, obstacleAt?_application, obstacleAt?_of_ne, shallow, inside]

theorem TermsPhrase.head?_obstacles (args : TermsPhrase) {room depth : Nat}
    (spent : depth + room = Tree.nestingLimit + 1) :
    (args.obstacles room).head? = firstObstacle? depth args.tokens := by
  cases args with
  | none => rfl
  | some first more =>
    rw [TermsPhrase.obstacles, TermsPhrase.tokens, List.head?_append, firstObstacle?_append,
      first.depthBehind_tokens, first.head?_obstacles spent, more.head?_obstacles spent]

theorem TailPhrase.head?_obstacles (tail : TailPhrase) {room depth : Nat}
    (spent : depth + room = Tree.nestingLimit + 1) :
    (tail.obstacles room).head? = firstObstacle? depth tail.tokens := by
  cases tail with
  | done => rfl
  | next comma term more =>
    have later := more.head?_obstacles spent
    simp [TailPhrase.obstacles, TailPhrase.tokens, firstObstacle?_cons, firstObstacle?_append,
      obstacleAt?_of_ne, term.depthBehind_tokens, term.head?_obstacles spent, later]

end

/-- Conversion of a formula stops where its way through the tokens stops. -/
theorem FormulaPhrase.head?_obstacles (phrase : FormulaPhrase) :
    phrase.obstacles.head? = firstObstacle? 0 phrase.tokens := by
  induction phrase with
  | constant value word => simp [obstacles, tokens, firstObstacle?_cons, obstacleAt?_of_ne]
  | atom word name brackets args =>
    have inside : (args.obstacles Tree.nestingLimit).head? = firstObstacle? 1 args.tokens :=
      args.head?_obstacles (Nat.add_comm ..)
    simp [obstacles, tokens, Enclosure.bracket, firstObstacle?_cons, firstObstacle?_append,
      obstacleAt?_of_ne, Token.obstacles_keyword, inside]
  | negation word parens operand ih =>
    simp [obstacles, tokens, Enclosure.parenthesize, firstObstacle?_cons, firstObstacle?_append,
      obstacleAt?_of_ne, Token.obstacles_keyword, ih]
  | connected op word parens left parens' right onLeft onRight =>
    simp [obstacles, tokens, Enclosure.parenthesize, firstObstacle?_cons, firstObstacle?_append,
      obstacleAt?_of_ne, Token.obstacles_keyword, left.depthBehind_tokens, onLeft, onRight]
  | quantified binder word name parens body ih =>
    simp [obstacles, tokens, Enclosure.parenthesize, firstObstacle?_cons, firstObstacle?_append,
      obstacleAt?_of_ne, Token.obstacles_keyword, ih]

/-- What a phrase converts to, or its obstacle, is found on the way through its tokens. -/
theorem FormulaPhrase.convert_eq (phrase : FormulaPhrase) : phrase.tree.convert =
    match firstObstacle? 0 phrase.tokens with
    | none => .ok phrase.formula
    | some (.fault fault) => .error fault
    | some .overflow => .error (phrase.tree.fault .tooDeep) := by
  rw [Tree.convert, phrase.toFormula_tree, ← phrase.head?_obstacles]
  rcases phrase.obstacles with _ | ⟨_ | _, _⟩ <;> rfl

section
variable {depth : Nat} {tokens : List Token}

/-- Conversion does not pass an application that is too deep. -/
theorem firstObstacle?_ne_none_of_enters {k : Nat} (deep : Tree.nestingLimit < k)
    (enters : Enters depth tokens k) : firstObstacle? depth tokens ≠ none := by
  obtain ⟨word, member, isFun⟩ := enters
  intro passed
  have here := List.findSome?_eq_none_iff.mp passed _ member
  rw [obstacleAt?, if_pos ⟨isFun, deep⟩] at here
  cases here

/-- Behind tokens that conversion passes, it stops where it would stop first. -/
theorem firstObstacle?_eq_of_passed {front back : List (Token × Nat)} {placed : Token × Nat}
    {obstacle : Obstacle} (split : atDepths depth tokens = front ++ placed :: back)
    (passed : ∀ earlier ∈ front, obstacleAt? earlier = none ∨ obstacleAt? earlier = some obstacle)
    (here : obstacleAt? placed = some obstacle) : firstObstacle? depth tokens = some obstacle := by
  rw [firstObstacle?, split, List.findSome?_append, List.findSome?_cons, here]
  cases found : front.findSome? obstacleAt? with
  | none => rfl
  | some first =>
    obtain ⟨earlier, member, stopped⟩ := List.exists_of_findSome?_eq_some found
    rcases passed earlier member with none | same
    · rw [none] at stopped
      cases stopped
    · rw [same] at stopped
      exact stopped.symm

end

end FirstOrderText
