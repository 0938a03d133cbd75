import FirstOrderText.Proofs.Conversion.Shapes

/-! What the check of one node finds. A node of a formula is checked without entering its
operands, and what the check finds is said by one rule for each kind of node. -/
namespace FirstOrderText

namespace Tree

variable {tree : Tree}

theorem grouped_eq_ok_iff {inner : Tree} : tree.grouped = .ok inner ↔ Encloses tree inner := by
  constructor
  · intro opened
    by_cases grouped : tree.label = "group"
    · cases fits : Shape.parenthesized.fits tree.children with
      | false =>
        rw [grouped_of_misfit grouped fits] at opened
        cases opened
      | true =>
        rcases tree with ⟨label, text, children⟩
        obtain ⟨left, inner, right, rfl⟩ : ∃ left inner right, children = [left, inner, right] :=
          exists_of_fits_three fits
        obtain rfl : label = "group" := grouped
        rw [grouped_of_fits fits] at opened
        cases opened
        have delimited : left.label = "LPAREN" ∧ right.label = "RPAREN" := by simpa using fits
        exact .group delimited.1 delimited.2
    · rw [grouped_of_other grouped] at opened
      cases opened
  · rintro ⟨opened, closed⟩
    exact grouped_of_fits (by simp [opened, closed])

theorem label_of_encloses {inner : Tree} (encloses : Encloses tree inner) :
    tree.label = "group" := by
  cases encloses
  rfl

/-- What the texts below a `truth` node must be for a constant to come of it. -/
theorem toConstant_eq_ok_iff {label : String} {text : Option String} {children : List Tree}
    {value : Bool} : (node label text children).toConstant = .ok value ↔
      ∃ below, children =
        [node (Keyword.constant value).label (some (Keyword.constant value).spelling) below] := by
  constructor
  · intro converted
    unfold toConstant at converted
    simp only [children_node, refuse] at converted
    split at converted
    · rename_i constant fits
      cases held : constant.text with
      | none =>
        rw [held] at converted
        cases converted
      | some spelling =>
        simp only [held] at converted
        by_cases truth : constant.label = "TRUE" ∧ spelling = "T"
        · rw [if_pos truth] at converted
          cases converted
          refine ⟨constant.children, ?_⟩
          rw [Keyword.label, Keyword.spelling, ← truth.1, ← truth.2, ← held, eta]
        · by_cases falsity : constant.label = "FALSE" ∧ spelling = "F"
          · rw [if_neg truth, if_pos falsity] at converted
            cases converted
            refine ⟨constant.children, ?_⟩
            rw [Keyword.label, Keyword.spelling, ← falsity.1, ← falsity.2, ← held, eta]
          · rw [if_neg truth, if_neg falsity] at converted
            cases converted
    · cases converted
  · rintro ⟨below, rfl⟩
    cases value <;> rfl

/-- What a `relation` node must be for an atom to come of it. -/
theorem toAtom_eq_ok_iff {text : Option String} {children : List Tree} {formula : Formula} :
    (node "relation" text children).toAtom = .ok formula ↔
      ∃ keyword name left terms right symbol args,
        children = [keyword, name, left, terms, right] ∧ keyword.label = "REL" ∧
        name.toName = .ok symbol ∧ left.label = "LBRACKET" ∧ terms.toTerms = .ok args ∧
        right.label = "RBRACKET" ∧ formula = .atom symbol args := by
  constructor
  · intro converted
    cases fits : (Shape.application "REL").fits children with
    | false =>
      rw [@toAtom_of_misfit (node "relation" text children) fits] at converted
      cases converted
    | true =>
      obtain ⟨keyword, name, left, terms, right, rfl⟩ :
          ∃ keyword name left terms right, children = [keyword, name, left, terms, right] :=
        exists_of_fits_five fits
      rw [toAtom_of_fits fits] at converted
      obtain ⟨symbol, named, converted⟩ := bind_eq_ok_iff.mp converted
      obtain ⟨args, listed, rfl⟩ := map_eq_ok_iff.mp converted
      simp only [fits_labelled_iff, fits_nil, and_true] at fits
      obtain ⟨isRel, _, opened, _, closed⟩ := fits
      exact ⟨keyword, name, left, terms, right, symbol, args, rfl, isRel, named, opened, listed,
        closed, rfl⟩
  · rintro ⟨keyword, name, left, terms, right, symbol, args, rfl, isRel, named, opened, listed,
      closed, rfl⟩
    have isName := label_of_standsForName (toName_eq_ok_iff.mp named)
    have isTerms := label_of_toTermsWithin listed
    rw [toAtom_of_fits (by simp [isRel, isName, opened, isTerms, closed]), named, Except.bind, listed]
    rfl

end Tree

/-- A node makes a formula of the formulas of its operands. An atom is converted whole, so
that its terms must have room. -/
inductive Forms : Tree → Former → List Tree → Prop where
  | constant {text : Option String} {below : List Tree} {value : Bool} :
      Forms (.node "truth" text [.node (Keyword.constant value).label
        (some (Keyword.constant value).spelling) below]) (.whole (.constant value)) []
  | atom {text : Option String} {keyword name left terms right : Tree} {symbol : String}
      {args : List Term} (labelled : keyword.label = "REL") (named : StandsForName name symbol)
      (opened : left.label = "LBRACKET") (listed : StandsForTerms terms args)
      (closed : right.label = "RBRACKET") (within : Term.nestingAll args ≤ Tree.nestingLimit) :
      Forms (.node "relation" text [keyword, name, left, terms, right])
        (.whole (.atom symbol args)) []
  | negation {text : Option String} {keyword group inner : Tree}
      (labelled : keyword.label = "NOT") (grouped : Encloses group inner) :
      Forms (.node "not" text [keyword, group]) .negation [inner]
  | connected {text : Option String} {keyword group inner group' inner' : Tree} {op : Connective}
      (labelled : keyword.label = (Keyword.connective op).label) (grouped : Encloses group inner)
      (grouped' : Encloses group' inner') :
      Forms (.node op.nodeLabel text [keyword, group, group']) (.connected op) [inner, inner']
  | quantified {text : Option String} {keyword name group inner : Tree} {binder : Quantifier}
      {bound : String} (labelled : keyword.label = (Keyword.quantifier binder).label)
      (named : StandsForName name bound) (grouped : Encloses group inner) :
      Forms (.node binder.nodeLabel text [keyword, name, group]) (.quantified binder bound) [inner]

namespace Tree

/-- The check of a node finds what the node makes of its operands. -/
theorem former_eq_ok_iff {tree : Tree} {made : Former} {operands : List Tree} :
    tree.former = .ok (made, operands) ↔ Forms tree made operands := by
  constructor
  · intro checked
    cases found : FormulaNode.ofLabel? tree.label with
    | none =>
      rw [former_of_other found] at checked
      cases checked
    | some kind =>
      cases fits : kind.shape.fits tree.children with
      | false =>
        rw [former_of_misfit found fits] at checked
        cases checked
      | true =>
        rcases tree with ⟨label, text, children⟩
        obtain rfl := FormulaNode.ofLabel?_eq_some_iff.mp found
        cases kind with
        | truth =>
          rw [FormulaNode.label, former_truth (label_node ..)] at checked
          obtain ⟨value, converted, same⟩ := map_eq_ok_iff.mp checked
          obtain ⟨below, rfl⟩ := toConstant_eq_ok_iff.mp converted
          cases same
          exact .constant
        | relation =>
          rw [FormulaNode.label, former_relation (label_node ..)] at checked
          obtain ⟨atom, converted, same⟩ := map_eq_ok_iff.mp checked
          obtain ⟨_, _, _, terms, _, _, _, rfl, labelled, named, opened, listed, closed, rfl⟩ :=
            toAtom_eq_ok_iff.mp converted
          obtain ⟨listed, within⟩ := (toTermsWithin_iff terms).mp listed
          cases same
          exact .atom labelled (toName_eq_ok_iff.mp named) opened listed closed within
        | negation =>
          obtain ⟨keyword, group, rfl⟩ : ∃ keyword group, children = [keyword, group] :=
            exists_of_fits_two fits
          rw [FormulaNode.label, former_negation_of_fits fits] at checked
          obtain ⟨inner, opened, same⟩ := map_eq_ok_iff.mp checked
          cases same
          exact .negation (fits_labelled_iff.mp fits).1 (grouped_eq_ok_iff.mp opened)
        | connective op =>
          obtain ⟨keyword, group, group', rfl⟩ :
              ∃ keyword group group', children = [keyword, group, group'] :=
            exists_of_fits_three fits
          rw [FormulaNode.label, former_connective_of_fits fits] at checked
          obtain ⟨left, openedLeft, checked⟩ := bind_eq_ok_iff.mp checked
          obtain ⟨right, openedRight, same⟩ := map_eq_ok_iff.mp checked
          cases same
          exact .connected (fits_labelled_iff.mp fits).1 (grouped_eq_ok_iff.mp openedLeft)
            (grouped_eq_ok_iff.mp openedRight)
        | quantifier binder =>
          obtain ⟨keyword, name, group, rfl⟩ :
              ∃ keyword name group, children = [keyword, name, group] :=
            exists_of_fits_three fits
          rw [FormulaNode.label, former_quantifier_of_fits fits] at checked
          obtain ⟨bound, named, checked⟩ := bind_eq_ok_iff.mp checked
          obtain ⟨inner, opened, same⟩ := map_eq_ok_iff.mp checked
          cases same
          exact .quantified (fits_labelled_iff.mp fits).1 (toName_eq_ok_iff.mp named)
            (grouped_eq_ok_iff.mp opened)
  · intro forms
    cases forms with
    | constant =>
      rw [former_truth (label_node ..), toConstant_eq_ok_iff.mpr ⟨_, rfl⟩]
      rfl
    | atom labelled named opened listed closed within =>
      have named := toName_eq_ok_iff.mpr named
      have listed := (toTermsWithin_iff _).mpr ⟨listed, within⟩
      rw [former_relation (label_node ..), toAtom_eq_ok_iff.mpr
        ⟨_, _, _, _, _, _, _, rfl, labelled, named, opened, listed, closed, rfl⟩]
      rfl
    | negation labelled grouped =>
      have isGroup := label_of_encloses grouped
      rw [former_negation_of_fits (by simp [FormulaNode.shape, labelled, isGroup]),
        grouped_eq_ok_iff.mpr grouped]
      rfl
    | connected labelled grouped grouped' =>
      have isGroup := label_of_encloses grouped
      have isGroup' := label_of_encloses grouped'
      rw [former_connective_of_fits (by simp [FormulaNode.shape, labelled, isGroup, isGroup']),
        grouped_eq_ok_iff.mpr grouped, Except.bind, grouped_eq_ok_iff.mpr grouped']
      rfl
    | quantified labelled named grouped =>
      have isName := label_of_standsForName named
      have isGroup := label_of_encloses grouped
      rw [former_quantifier_of_fits (by simp [FormulaNode.shape, labelled, isName, isGroup]),
        toName_eq_ok_iff.mpr named, Except.bind, grouped_eq_ok_iff.mpr grouped]
      rfl

end Tree

/-! Converting without recursion is converting by recursion. The nodes of a tree are
checked in the same order either way, so that the first fault is the same, and each node
finds the formulas of its operands, whether they are kept in a list or in a table under
the names of the nodes. -/

section

variable {tree : Tree} {made : Former} {operands : List Tree}

/-- A node makes one formula of as many formulas as it has operands, and leaves the rest. -/
theorem Forms.apply_append (forms : Forms tree made operands) {formulas : List Formula}
    (matched : formulas.length = operands.length) :
    ∃ formula, ∀ rest, made.apply (formulas ++ rest) = formula :: rest := by
  cases forms with
  | constant | atom =>
    match formulas, matched with
    | [], _ => exact ⟨_, fun _ => rfl⟩
  | negation | quantified =>
    match formulas, matched with
    | [operand], _ => exact ⟨_, fun _ => rfl⟩
  | connected =>
    match formulas, matched with
    | [left, right], _ => exact ⟨_, fun _ => rfl⟩

theorem Forms.exists_formula (forms : Forms tree made operands) {formulas : List Formula}
    (matched : formulas.length = operands.length) :
    ∃ formula, made.formula? formulas = some formula ∧
      ∀ rest, made.apply (formulas ++ rest) = formula :: rest := by
  obtain ⟨formula, applied⟩ := forms.apply_append matched
  refine ⟨formula, ?_, applied⟩
  have alone := applied []
  rw [List.append_nil] at alone
  rw [Former.formula?, alone]

namespace Tree

theorem toFormulaByRecursion_of_error {obstacle : Obstacle}
    (failed : tree.former = .error obstacle) : tree.toFormulaByRecursion = .error obstacle := by
  rw [toFormulaByRecursion]
  split
  · rename_i failed'
    rw [failed] at failed'
    rw [Except.error.inj failed']
  · rename_i checked
    rw [failed] at checked
    cases checked

/-- A checked tree converts when its operands convert one after another. -/
theorem toFormulaByRecursion_of_ok (checked : tree.former = .ok (made, operands)) :
    tree.toFormulaByRecursion = (operands.mapM toFormulaByRecursion).bind fun formulas =>
      match made.formula? formulas with
      | some formula => .ok formula
      | none => tree.refuse .notFormula := by
  rw [toFormulaByRecursion]
  split
  · rename_i failed
    rw [checked] at failed
    cases failed
  · rename_i made' operands' checked'
    rw [checked] at checked'
    cases checked'
    rw [mapM_attach_val]
    cases operands.mapM toFormulaByRecursion with
    | error obstacle => rfl
    | ok formulas =>
      simp only [bind, Except.bind, Former.formula?]
      rcases made.apply formulas with _ | ⟨formula, _ | _⟩ <;> rfl

/-- Pending trees are checked and put together as each is by recursion. -/
theorem formers_eq_mapM (pending : List Tree) :
    (formers pending).map (fun made => made.foldr Former.apply []) =
      pending.mapM toFormulaByRecursion := by
  fun_induction formers pending with
  | case1 => rfl
  | case2 tree rest obstacle failed =>
    rw [mapM_cons_eq_bind, toFormulaByRecursion_of_error failed]
    rfl
  | case3 tree rest made operands checked ih =>
    have forms := former_eq_ok_iff.mp checked
    rw [mapM_append_eq_bind] at ih
    rw [mapM_cons_eq_bind, toFormulaByRecursion_of_ok checked]
    cases converted : operands.mapM toFormulaByRecursion with
    | error obstacle =>
      rw [converted] at ih
      rw [map_eq_error_iff.mp ih]
      rfl
    | ok formulas =>
      obtain ⟨formula, alone, applied⟩ := forms.exists_formula (length_of_mapM converted)
      rw [converted, Except.bind] at ih
      simp only [Except.bind, alone]
      cases later : formers (operands ++ rest) with
      | error obstacle =>
        rw [later] at ih
        rw [map_eq_error_iff.mp ih.symm]
        rfl
      | ok formers =>
        rw [later] at ih
        obtain ⟨values, computed, same⟩ : ∃ values, rest.mapM toFormulaByRecursion = .ok values ∧
            formers.foldr Former.apply [] = formulas ++ values := map_eq_ok_iff.mp ih.symm
        rw [computed, Except.map, Except.map, Except.map, List.foldr_cons, same, applied]

/-- A tree is converted from the list of its nodes as it is by recursion. -/
theorem toFormula_eq_toFormulaByRecursion (tree : Tree) :
    tree.toFormula = tree.toFormulaByRecursion := by
  have together : (formers [tree]).map (fun made => made.foldr Former.apply []) =
      tree.toFormulaByRecursion.map ([·]) := by
    rw [formers_eq_mapM, mapM_cons_eq_bind]
    cases tree.toFormulaByRecursion <;> rfl
  rw [toFormula]
  cases converted : tree.toFormulaByRecursion with
  | error obstacle =>
    rw [converted] at together
    rw [map_eq_error_iff.mp together]
  | ok formula =>
    rw [converted] at together
    obtain ⟨made, checked, same⟩ : ∃ made, formers [tree] = .ok made ∧
        [formula] = made.foldr Former.apply [] := map_eq_ok_iff.mp together
    simp only [checked, ← same]

section
variable {κ : Type} {name : Place → κ} {root : Tree}

/-- Nodes of one name are one node. -/
def Names (name : Place → κ) (root : Tree) : Prop :=
  ∀ place place' node node', root.at? place = some node → root.at? place' = some node' →
    name place = name place' → node = node'

/-- The visits of pending nodes are their formers, with places. -/
theorem formers_of_visits (pending : List (Place × Tree)) :
    (visits pending).map (List.map Visit.former) = formers (pending.map Prod.snd) := by
  fun_induction visits pending with
  | case1 =>
    rw [List.map_nil, formers]
    rfl
  | case2 place tree rest obstacle failed =>
    rw [List.map_cons, formers_cons, failed]
    rfl
  | case3 place tree rest made operands checked ih =>
    rw [List.map_append, map_snd_atPlaces] at ih
    rw [List.map_cons, formers_cons, checked, Except.bind, ← ih]
    cases visits (atPlaces place operands ++ rest) <;> rfl

theorem at?_of_mem_atPlaces {place place' : Place} {node : Tree} (there : root.at? place = some tree)
    (checked : tree.former = .ok (made, operands)) (member : (place', node) ∈ atPlaces place operands) :
    root.at? place' = some node := by
  obtain ⟨⟨operand, i⟩, among, same⟩ := List.mem_map.mp member
  cases same
  have here : tree.operands = operands := by
    rw [Tree.operands, checked]
  rw [at?, there, Option.bind_some, here]
  exact List.mk_mem_zipIdx_iff_getElem?.mp among

/-- Where every node finds its formula, so does a list of nodes. -/
theorem exists_lookups {table : κ → Option Formula} {nodes : List (Place × Tree)}
    (found : ∀ place node, (place, node) ∈ nodes → ∃ formula,
      node.toFormulaByRecursion = .ok formula ∧ table (name place) = some formula) :
    ∃ formulas, (nodes.map Prod.snd).mapM toFormulaByRecursion = .ok formulas ∧
      (nodes.map Prod.fst).mapM (fun place => table (name place)) = some formulas := by
  induction nodes with
  | nil => exact ⟨[], rfl, rfl⟩
  | cons node nodes ih =>
    obtain ⟨place, node⟩ := node
    obtain ⟨formula, converted, entry⟩ := found place node List.mem_cons_self
    obtain ⟨formulas, convertedAll, entries⟩ :=
      ih fun place node member => found place node (List.mem_cons_of_mem _ member)
    refine ⟨formula :: formulas, ?_, ?_⟩
    · rw [List.map_cons, mapM_cons_eq_bind, converted, Except.bind, convertedAll]
      rfl
    · rw [List.map_cons, List.mapM_cons, entry, entries]
      rfl

variable [DecidableEq κ]

/-- When the visited nodes are entered from the last to the first, each pending node is
found in the table with its formula. -/
theorem lookup_of_visits (named : Names name root) {pending : List (Place × Tree)}
    (there : ∀ place node, (place, node) ∈ pending → root.at? place = some node)
    {visited : List Visit} (checked : visits pending = .ok visited) :
    ∀ place node, (place, node) ∈ pending → ∃ formula, node.toFormulaByRecursion = .ok formula ∧
      visited.foldr (enter name) (fun _ => none) (name place) = some formula := by
  fun_induction visits pending generalizing visited with
  | case1 => exact fun _ _ member => absurd member List.not_mem_nil
  | case2 place tree rest obstacle failed => cases checked
  | case3 place tree rest made operands found ih =>
    have here := there place tree List.mem_cons_self
    obtain ⟨later, ran, rfl⟩ := map_eq_ok_iff.mp checked
    have thereBelow : ∀ place' node, (place', node) ∈ atPlaces place operands ++ rest →
        root.at? place' = some node := by
      intro place' node member
      rcases List.mem_append.mp member with below | behind
      · exact at?_of_mem_atPlaces here found below
      · exact there place' node (List.mem_cons_of_mem _ behind)
    have lookup := ih thereBelow ran
    obtain ⟨formulas, converted, entries⟩ := exists_lookups fun place' node member =>
      lookup place' node (List.mem_append_left rest member)
    rw [map_snd_atPlaces] at converted
    obtain ⟨formula, alone, _⟩ := (former_eq_ok_iff.mp found).exists_formula (length_of_mapM converted)
    have convertedHere : tree.toFormulaByRecursion = .ok formula := by
      rw [toFormulaByRecursion_of_ok found, converted, Except.bind, alone]
    rintro place' node member
    rcases List.mem_cons.mp member with same | behind
    · cases same
      refine ⟨formula, convertedHere, ?_⟩
      rw [List.foldr_cons, enter, if_pos rfl, entries, Option.bind_some, alone]
    · obtain ⟨formula', converted', entry⟩ := lookup place' node (List.mem_append_right _ behind)
      refine ⟨formula', converted', ?_⟩
      -- One node may stand at both places, and then its entry is made anew, but no other.
      by_cases same : name place' = name place
      · have node_eq := named place' place node tree (there place' node member) here same
        rw [node_eq, convertedHere] at converted'
        rw [List.foldr_cons, enter, if_pos same, entries, Option.bind_some, alone,
          Except.ok.inj converted']
      · rw [List.foldr_cons, enter, if_neg same, entry]

/-- In a table under the names of the nodes, a tree is converted as it is by recursion. -/
theorem toFormulaByTable_eq_toFormulaByRecursion (named : Names name tree) :
    tree.toFormulaByTable name = tree.toFormulaByRecursion := by
  have checks : (visits [([], tree)]).map (List.map Visit.former) = formers [tree] :=
    formers_of_visits [([], tree)]
  rw [toFormulaByTable]
  cases ran : visits [([], tree)] with
  | error obstacle =>
    rw [ran] at checks
    rw [← toFormula_eq_toFormulaByRecursion, toFormula, ← checks]
    rfl
  | ok visited =>
    have there : ∀ place node, (place, node) ∈ [(([] : Place), tree)] → tree.at? place = some node := by
      intro place node member
      cases List.mem_singleton.mp member
      rfl
    obtain ⟨formula, converted, entry⟩ := lookup_of_visits named there ran [] tree List.mem_cons_self
    rw [converted]
    simp only [entry]

end

/-- Converting a tree takes its nodes from a stack and puts the formulas together from the
last node to the first. It comes to what recursion comes to, which checks a node, converts
the operands from left to right and then forms the formula: to the same formula, or to the
same obstacle. So it does when the formulas are kept in a table under the names of their
nodes, where equal nodes may have two names and one node may stand at many places. -/
theorem conversions_agree (tree : Tree) :
    tree.toFormula = tree.toFormulaByRecursion ∧
    ∀ {κ : Type} [DecidableEq κ] (name : Place → κ), Names name tree →
      tree.toFormulaByTable name = tree.toFormulaByRecursion :=
  ⟨toFormula_eq_toFormulaByRecursion tree, fun _ => toFormulaByTable_eq_toFormulaByRecursion⟩

/-- One node for both operands of a conjunction, named by how deep it stands. -/
theorem conversions_agree_shared_operand :
    let truth := branch "truth" [leaf "TRUE" "T"]
    let group := branch "group" [leaf "LPAREN" "(", truth, leaf "RPAREN" ")"]
    let tree := branch "and" [leaf "AND" "And", group, group]
    Names List.length tree ∧
      tree.toFormulaByTable List.length =
        .ok (.connected .conjunction (.constant true) (.constant true)) := by
  intro truth group tree
  have operand : ∀ place node, place ≠ [] → tree.at? place = some node → node = truth := by
    intro place
    induction place with
    | nil => exact fun _ root => absurd rfl root
    | cons i place ih =>
      intro node _ there
      obtain ⟨above, thereAbove, here⟩ := Option.bind_eq_some_iff.mp there
      cases place with
      | nil =>
        cases thereAbove
        have among : node ∈ [truth, truth] := List.mem_of_getElem? here
        simpa using among
      | cons j place =>
        obtain rfl := ih above (List.cons_ne_nil j place) thereAbove
        have none : ([] : List Tree)[i]? = some node := here
        cases none
  have named : Names List.length tree := by
    intro place place' node node' there there' same
    cases place with
    | nil =>
      obtain rfl := List.length_eq_zero_iff.mp same.symm
      exact Option.some.inj (there.symm.trans there')
    | cons i place =>
      have below : place' ≠ [] := by
        rintro rfl
        cases same
      rw [operand _ node (List.cons_ne_nil i place) there, operand _ node' below there']
  obtain ⟨listed, tabled⟩ := conversions_agree tree
  refine ⟨named, ?_⟩
  rw [tabled List.length named, ← listed]
  exact FormulaPhrase.toFormula_tree (.connected .conjunction ⟨"And", 0⟩ ⟨⟨"(", 4⟩, ⟨")", 6⟩⟩
    (.constant true ⟨"T", 5⟩) ⟨⟨"(", 8⟩, ⟨")", 10⟩⟩ (.constant true ⟨"T", 9⟩))

end Tree

end

end FirstOrderText
