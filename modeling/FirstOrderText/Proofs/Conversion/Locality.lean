import FirstOrderText.Proofs.Conversion.Nesting
import FirstOrderText.Proofs.Conversion.Recursion

/-! Where a conversion fails. Every check looks at one node and the labels below it, so that
what it finds is found again when that node is converted alone. A tree that does not convert
has such a node, and the fault names it. -/
namespace FirstOrderText

namespace Tree

variable {tree : Tree} {obstacle : Obstacle}

/-- A node converted alone, as one of the kinds of nodes that conversion knows, fails. -/
inductive FailsAlone (node : Tree) (fault : ConversionFault) : Prop where
  | name (failed : node.toName = .error (.fault fault))
  | group (failed : node.grouped = .error (.fault fault))
  | terms (failed : node.toTerms = .error (.fault fault))
  | term (failed : node.toTerm = .error (.fault fault))
  | formula (failed : node.toFormula = .error (.fault fault))

/-- An obstacle in a tree is a fault that names a node of the tree by its label and those of
its children, and that this node has when it is converted alone. -/
def Located (tree : Tree) (obstacle : Obstacle) : Prop :=
  ∃ fault, obstacle = .fault fault ∧ ∃ node ∈ tree.walk, node.label = fault.label ∧
    String.intercalate ", " node.childLabels = fault.context ∧ node.FailsAlone fault

theorem Located.here {problem : Problem} (alone : tree.FailsAlone (tree.fault problem)) :
    tree.Located (.fault (tree.fault problem)) :=
  ⟨tree.fault problem, rfl, tree, mem_walk_iff.mpr (Or.inl rfl), rfl, rfl, alone⟩

/-- What is located in a child is located in the tree. -/
theorem Located.below {child : Tree} (located : child.Located obstacle)
    (inside : child ∈ tree.children) : tree.Located obstacle := by
  obtain ⟨fault, same, node, visited, named⟩ := located
  exact ⟨fault, same, node, mem_walk_iff.mpr (Or.inr ⟨child, inside, visited⟩), named⟩

theorem refuse_eq_error_iff {α : Type} {problem : Problem} :
    (tree.refuse problem : Converted α) = .error obstacle ↔
      obstacle = .fault (tree.fault problem) := by
  rw [refuse, Except.error.injEq, eq_comm]

/-- A name is checked at its own node. -/
theorem exists_problem_of_toName (failed : tree.toName = .error obstacle) :
    ∃ problem, obstacle = .fault (tree.fault problem) := by
  by_cases named : tree.label = "name"
  · cases fits : Shape.quotedName.fits tree.children with
    | false =>
      rw [toName_of_misfit named fits] at failed
      exact ⟨_, refuse_eq_error_iff.mp failed⟩
    | true =>
      rcases tree with ⟨label, text, children⟩
      obtain ⟨⟨kind, held, below⟩, rfl⟩ : ∃ child, children = [child] := exists_of_fits_one fits
      obtain rfl : label = "name" := named
      obtain rfl : kind = "STRING" := by simpa using fits
      cases held with
      | none => exact ⟨.notString, refuse_eq_error_iff.mp failed⟩
      | some held =>
        rw [toName_of_fits] at failed
        cases unquoted : unquote? held.toList with
        | none =>
          rw [unquoted] at failed
          exact ⟨_, refuse_eq_error_iff.mp failed⟩
        | some content =>
          by_cases proper : isName content = true
          · simp only [unquoted, if_pos proper, reduceCtorEq] at failed
          · simp only [unquoted, if_neg proper] at failed
            exact ⟨_, refuse_eq_error_iff.mp failed⟩
  · rw [toName_of_other named] at failed
    exact ⟨_, refuse_eq_error_iff.mp failed⟩

theorem located_of_toName (failed : tree.toName = .error obstacle) : tree.Located obstacle := by
  obtain ⟨problem, rfl⟩ := exists_problem_of_toName failed
  exact .here (.name failed)

/-- The parentheses of a group are checked at its own node. -/
theorem located_of_grouped (failed : tree.grouped = .error obstacle) : tree.Located obstacle := by
  by_cases isGroup : tree.label = "group"
  · cases fits : Shape.parenthesized.fits tree.children with
    | false =>
      have refused := grouped_of_misfit isGroup fits
      obtain rfl := refuse_eq_error_iff.mp (refused.symm.trans failed)
      exact .here (.group refused)
    | true =>
      rcases tree with ⟨label, text, children⟩
      obtain ⟨left, inner, right, rfl⟩ : ∃ left inner right, children = [left, inner, right] :=
        exists_of_fits_three fits
      obtain rfl : label = "group" := isGroup
      rw [grouped_of_fits fits] at failed
      cases failed
  · have refused := grouped_of_other isGroup
    obtain rfl := refuse_eq_error_iff.mp (refused.symm.trans failed)
    exact .here (.group refused)

mutual

/-- Where there is room for a term, nothing but a fault of a node is an obstacle to it. -/
theorem located_of_toTermWithin (tree : Tree) {room : Nat} {obstacle : Obstacle}
    (nested : tree.nesting ≤ room) (failed : tree.toTermWithin room = .error obstacle) :
    tree.Located obstacle := by
  by_cases isVar : tree.label = "var"
  · cases fits : Shape.variableTerm.fits tree.children with
    | false =>
      rw [toTermWithin_var_of_misfit isVar fits] at failed
      obtain rfl := refuse_eq_error_iff.mp failed
      exact .here (.term (toTermWithin_var_of_misfit isVar fits))
    | true =>
      rcases tree with ⟨label, text, children⟩
      obtain rfl : label = "var" := isVar
      obtain ⟨keyword, name, rfl⟩ : ∃ keyword name, children = [keyword, name] :=
        exists_of_fits_two fits
      rw [toTermWithin_var_of_fits fits] at failed
      exact (located_of_toName (map_eq_error_iff.mp failed)).below (by simp)
  · by_cases isFun : tree.label = "fun"
    · rcases tree with ⟨label, text, children⟩
      obtain rfl : label = "fun" := isFun
      cases room with
      | zero => exact absurd nested (Nat.not_succ_le_zero _)
      | succ room =>
        cases fits : (Shape.application "FUN").fits children with
        | false =>
          rw [toTermWithin_fun_of_misfit (label_node ..) fits] at failed
          obtain rfl := refuse_eq_error_iff.mp failed
          exact .here (.term (toTermWithin_fun_of_misfit (label_node ..) fits))
        | true =>
          obtain ⟨keyword, name, left, terms, right, rfl⟩ :
              ∃ keyword name left terms right, children = [keyword, name, left, terms, right] :=
            exists_of_fits_five fits
          rw [toTermWithin_fun_of_fits fits] at failed
          rcases bind_eq_error_iff.mp failed with unnamed | ⟨symbol, _, failed⟩
          · exact (located_of_toName unnamed).below (by simp)
          · have within : terms.nesting ≤ room := by
              simp only [nesting, nestingAll_cons, if_true] at nested
              omega
            exact (located_of_toTermsWithin terms within (map_eq_error_iff.mp failed)).below
              (by simp)
    · rw [toTermWithin_of_other isVar isFun] at failed
      obtain rfl := refuse_eq_error_iff.mp failed
      exact .here (.term (toTermWithin_of_other isVar isFun))

theorem located_of_toTermsWithin (tree : Tree) {room : Nat} {obstacle : Obstacle}
    (nested : tree.nesting ≤ room) (failed : tree.toTermsWithin room = .error obstacle) :
    tree.Located obstacle := by
  by_cases listed : tree.label = "terms"
  · cases found : separatorProblem? tree.children with
    | some problem =>
      rw [toTermsWithin_of_problem listed found] at failed
      obtain rfl := refuse_eq_error_iff.mp failed
      exact .here (.terms (toTermsWithin_of_problem listed found))
    | none =>
      rw [toTermsWithin_of_separated listed found] at failed
      rcases tree with ⟨label, text, items⟩
      have within : nestingAll items ≤ room := Nat.le_trans (Nat.le_add_right _ _) nested
      obtain ⟨item, inside, located⟩ := located_of_itemsWithin items within failed
      exact located.below inside
  · rw [toTermsWithin_of_other listed] at failed
    obtain rfl := refuse_eq_error_iff.mp failed
    exact .here (.terms (toTermsWithin_of_other listed))

theorem located_of_itemsWithin (items : List Tree) {room : Nat} {obstacle : Obstacle}
    (nested : nestingAll items ≤ room) (failed : itemsWithin room items = .error obstacle) :
    ∃ item ∈ items, item.Located obstacle := by
  match items with
  | [] => cases failed
  | [item] =>
    rw [itemsWithin] at failed
    have within : item.nesting ≤ room := (Nat.max_le.mp nested).1
    exact ⟨item, List.mem_cons_self,
      located_of_toTermWithin item within (map_eq_error_iff.mp failed)⟩
  | item :: separator :: rest =>
    obtain ⟨within, nested⟩ := Nat.max_le.mp nested
    rw [itemsWithin_cons] at failed
    rcases bind_eq_error_iff.mp failed with first | ⟨term, _, failed⟩
    · exact ⟨item, List.mem_cons_self, located_of_toTermWithin item within first⟩
    · obtain ⟨item', member, located⟩ := located_of_itemsWithin rest (Nat.max_le.mp nested).2
        (map_eq_error_iff.mp failed)
      exact ⟨item', List.mem_cons_of_mem _ (List.mem_cons_of_mem _ member), located⟩

end

/-- A fault found by the check of a node is found when the node is converted alone. -/
theorem toFormula_of_former (failed : tree.former = .error obstacle) :
    tree.toFormula = .error obstacle := by
  rw [toFormula_eq_toFormulaByRecursion, toFormulaByRecursion_of_error failed]

/-- A truth constant is checked at its own node. -/
theorem exists_problem_of_toConstant (failed : tree.toConstant = .error obstacle) :
    ∃ problem, obstacle = .fault (tree.fault problem) := by
  cases fits : Shape.fits [none] tree.children with
  | false =>
    rw [toConstant_of_misfit fits] at failed
    exact ⟨_, refuse_eq_error_iff.mp failed⟩
  | true =>
    rcases tree with ⟨label, text, children⟩
    obtain ⟨⟨kind, held, below⟩, rfl⟩ : ∃ child, children = [child] := exists_of_fits_one fits
    cases held with
    | none => exact ⟨.notConstant, refuse_eq_error_iff.mp failed⟩
    | some held =>
      rw [toConstant_of_fits] at failed
      split at failed
      · cases failed
      · split at failed
        · cases failed
        · exact ⟨_, refuse_eq_error_iff.mp failed⟩

/-- What the check of a node of a formula finds is located in it. -/
theorem located_of_former (nested : tree.nesting ≤ nestingLimit)
    (failed : tree.former = .error obstacle) : tree.Located obstacle := by
  cases found : FormulaNode.ofLabel? tree.label with
  | none =>
    obtain rfl := refuse_eq_error_iff.mp ((former_of_other found).symm.trans failed)
    exact .here (.formula (toFormula_of_former failed))
  | some kind =>
    cases fits : kind.shape.fits tree.children with
    | false =>
      obtain rfl := refuse_eq_error_iff.mp ((former_of_misfit found fits).symm.trans failed)
      exact .here (.formula (toFormula_of_former failed))
    | true =>
      have alone := toFormula_of_former failed
      rcases tree with ⟨label, text, children⟩
      obtain rfl := FormulaNode.ofLabel?_eq_some_iff.mp found
      cases kind with
      | truth =>
        rw [FormulaNode.label, former_truth (label_node ..)] at failed
        obtain ⟨problem, rfl⟩ := exists_problem_of_toConstant (map_eq_error_iff.mp failed)
        exact .here (.formula alone)
      | relation =>
        obtain ⟨keyword, name, left, terms, right, rfl⟩ :
            ∃ keyword name left terms right, children = [keyword, name, left, terms, right] :=
          exists_of_fits_five fits
        rw [FormulaNode.label, former_relation (label_node ..)] at failed
        have failed := map_eq_error_iff.mp failed
        rw [toAtom_of_fits fits] at failed
        rcases bind_eq_error_iff.mp failed with unnamed | ⟨symbol, _, failed⟩
        · exact (located_of_toName unnamed).below (by simp)
        · have inside : terms ∈ [keyword, name, left, terms, right] := by simp
          have within := Nat.le_trans (nesting_le_of_mem_children inside) nested
          exact (located_of_toTermsWithin terms within (map_eq_error_iff.mp failed)).below inside
      | negation =>
        obtain ⟨keyword, group, rfl⟩ : ∃ keyword group, children = [keyword, group] :=
          exists_of_fits_two fits
        rw [FormulaNode.label, former_negation_of_fits fits] at failed
        exact (located_of_grouped (map_eq_error_iff.mp failed)).below (by simp)
      | connective op =>
        obtain ⟨keyword, group, group', rfl⟩ :
            ∃ keyword group group', children = [keyword, group, group'] :=
          exists_of_fits_three fits
        rw [FormulaNode.label, former_connective_of_fits fits] at failed
        rcases bind_eq_error_iff.mp failed with left | ⟨inner, _, right⟩
        · exact (located_of_grouped left).below (by simp)
        · exact (located_of_grouped (map_eq_error_iff.mp right)).below (by simp)
      | quantifier binder =>
        obtain ⟨keyword, name, group, rfl⟩ :
            ∃ keyword name group, children = [keyword, name, group] :=
          exists_of_fits_three fits
        rw [FormulaNode.label, former_quantifier_of_fits fits] at failed
        rcases bind_eq_error_iff.mp failed with unnamed | ⟨bound, _, body⟩
        · exact (located_of_toName unnamed).below (by simp)
        · exact (located_of_grouped (map_eq_error_iff.mp body)).below (by simp)

end Tree

theorem Encloses.mem_children {group inner : Tree} (encloses : Encloses group inner) :
    inner ∈ group.children := by
  cases encloses
  simp

/-- The operands of a node are inside its groups. -/
theorem Forms.exists_group {tree : Tree} {made : Former} {operands : List Tree}
    (forms : Forms tree made operands) {operand : Tree} (member : operand ∈ operands) :
    ∃ group ∈ tree.children, operand ∈ group.children := by
  cases forms with
  | constant | atom => cases member
  | negation _ grouped =>
    obtain rfl := List.mem_singleton.mp member
    exact ⟨_, by simp, grouped.mem_children⟩
  | connected _ grouped grouped' =>
    rcases List.mem_cons.mp member with rfl | member
    · exact ⟨_, by simp, grouped.mem_children⟩
    · obtain rfl := List.mem_singleton.mp member
      exact ⟨_, by simp, grouped'.mem_children⟩
  | quantified _ _ grouped =>
    obtain rfl := List.mem_singleton.mp member
    exact ⟨_, by simp, grouped.mem_children⟩

namespace Tree

/-- Where there is room for all terms, nothing but a fault of a node is an obstacle. -/
theorem located_of_toFormulaByRecursion (tree : Tree) {obstacle : Obstacle}
    (nested : tree.nesting ≤ nestingLimit) (failed : tree.toFormulaByRecursion = .error obstacle) :
    tree.Located obstacle := by
  cases checked : tree.former with
  | error found =>
    rw [toFormulaByRecursion_of_error checked] at failed
    cases failed
    exact located_of_former nested checked
  | ok found =>
    obtain ⟨made, operands⟩ := found
    have forms := former_eq_ok_iff.mp checked
    rw [toFormulaByRecursion_of_ok checked] at failed
    rcases bind_eq_error_iff.mp failed with below | ⟨formulas, converted, unformed⟩
    · obtain ⟨operand, member, there⟩ := exists_of_mapM_eq_error below
      obtain ⟨group, child, inside⟩ := forms.exists_group member
      have within : operand.nesting ≤ nestingLimit :=
        calc operand.nesting
          _ ≤ group.nesting := nesting_le_of_mem_children inside
          _ ≤ tree.nesting := nesting_le_of_mem_children child
          _ ≤ nestingLimit := nested
      have smaller := sizeAll_former checked
      have small := size_le_sizeAll member
      exact ((located_of_toFormulaByRecursion operand within there).below inside).below child
    · obtain ⟨formula, formed, _⟩ := forms.exists_formula (length_of_mapM converted)
      rw [formed] at unformed
      cases unformed
termination_by tree.size

/-- Whatever is an obstacle to converting a tree, as a formula, a term or a term list, is a
fault of one of its nodes: one that has the labels that the fault gives, and that has the
same fault when it is converted alone. -/
theorem failure_located {tree : Tree} (nested : tree.nesting ≤ 200) (obstacle : Obstacle) :
    (tree.toFormula = .error obstacle → tree.Located obstacle) ∧
    (tree.toTerm = .error obstacle → tree.Located obstacle) ∧
    (tree.toTerms = .error obstacle → tree.Located obstacle) := by
  have within : tree.nesting ≤ nestingLimit := Nat.le_trans nested le_nestingLimit
  refine ⟨?_, located_of_toTermWithin tree within, located_of_toTermsWithin tree within⟩
  intro failed
  rw [toFormula_eq_toFormulaByRecursion] at failed
  exact located_of_toFormulaByRecursion tree within failed

/-- A wrong separator among the arguments of an atom, below a negation. -/
theorem failure_located_separator :
    let name := branch "name" [leaf "STRING" "\"a\""]
    let term := branch "var" [leaf "VAR" "Var", name]
    let terms := branch "terms" [term, leaf "SEMICOLON" ";", term]
    let atom := branch "relation" [leaf "REL" "Rel", name, leaf "LBRACKET" "[", terms,
      leaf "RBRACKET" "]"]
    let tree := branch "not" [leaf "NOT" "Not",
      branch "group" [leaf "LPAREN" "(", atom, leaf "RPAREN" ")"]]
    let fault : ConversionFault := ⟨.wrongSeparator, "terms", ["var", "SEMICOLON", "var"]⟩
    tree.nesting ≤ 200 ∧ tree.toFormula = .error (.fault fault) ∧ tree.Located (.fault fault) := by
  intro name term terms atom tree fault
  have nested : tree.nesting ≤ 200 := by decide
  have root : tree.former = .ok (.negation, [atom]) := rfl
  have refused : terms.toTerms = .error (.fault fault) := toTermsWithin_of_problem rfl (by decide)
  have converted : atom.toAtom = name.toName.bind fun symbol => terms.toTerms.map (.atom symbol) :=
    toAtom_of_fits rfl
  have below : atom.former = .error (.fault fault) := by
    rw [former_relation rfl, converted, refused]
    rfl
  have failed : tree.toFormula = .error (.fault fault) := by
    rw [toFormula_eq_toFormulaByRecursion, toFormulaByRecursion_of_ok root, mapM_cons_eq_bind,
      toFormulaByRecursion_of_error below]
    rfl
  exact ⟨nested, failed, (failure_located nested _).1 failed⟩

end Tree

end FirstOrderText
