import FirstOrderText.Proofs.Conversion.Nesting
import FirstOrderText.Proofs.Conversion.Recursion

/-! What conversion does not look at has no influence. A tree without it converts to the
same formula, or fails with the same fault at the same node. -/
namespace FirstOrderText

namespace Tree

theorem label_essence (tree : Tree) : tree.essence.label = tree.label := by
  cases tree
  rw [essence]
  rfl

theorem map_label_essences (parent : String) (i : Nat) (children : List Tree) :
    (essences parent i children).map label = children.map label := by
  induction children generalizing i with
  | nil => rw [essences]
  | cons child rest ih =>
    rw [essences, List.map_cons, List.map_cons, ih]
    split
    · rfl
    · rfl
    · rw [label_essence]

theorem childLabels_essence (tree : Tree) : tree.essence.childLabels = tree.childLabels := by
  cases tree
  rw [essence]
  exact map_label_essences ..

theorem refuse_essence {α : Type} (tree : Tree) (problem : Problem) :
    (tree.essence.refuse problem : Converted α) = tree.refuse problem := by
  rw [refuse, refuse, fault, fault, label_essence, childLabels_essence]

/-- A shape is that of the labels. -/
theorem fits_congr {shape : Shape} {children children' : List Tree}
    (same : children'.map label = children.map label) :
    shape.fits children' = shape.fits children := by
  induction children generalizing shape children' with
  | nil => rw [List.map_eq_nil_iff.mp same]
  | cons child rest ih =>
    obtain ⟨child', rest', rfl, labels, sameRest⟩ := List.map_eq_cons_iff.mp same
    cases shape with
    | nil => rfl
    | cons slot slots => rw [Shape.fits, Shape.fits, labels, ih sameRest]

theorem separated_congr {items items' : List Tree} (same : items'.map label = items.map label) :
    separated items' = separated items := by
  match items with
  | [] => rw [List.map_eq_nil_iff.mp same]
  | [item] =>
    obtain ⟨item', rfl, _⟩ := List.map_eq_singleton_iff.mp same
    rfl
  | item :: separator :: rest =>
    obtain ⟨item', rest', rfl, _, sameRest⟩ := List.map_eq_cons_iff.mp same
    obtain ⟨separator', rest', rfl, labels, sameRest⟩ := List.map_eq_cons_iff.mp sameRest
    rw [separated, separated, labels, separated_congr sameRest]

theorem separatorProblem?_congr {items items' : List Tree}
    (same : items'.map label = items.map label) :
    separatorProblem? items' = separatorProblem? items := by
  have length : items'.length = items.length := by simpa using congrArg List.length same
  have empty : items'.isEmpty = items.isEmpty := by simpa using congrArg List.isEmpty same
  rw [separatorProblem?, separatorProblem?, length, empty, separated_congr same]

theorem fits_essence (shape : Shape) (tree : Tree) :
    shape.fits tree.essence.children = shape.fits tree.children :=
  fits_congr (childLabels_essence tree)

theorem toName_essence (tree : Tree) : tree.essence.toName = tree.toName := by
  have relabelled := label_essence tree
  by_cases named : tree.label = "name"
  · have shaped := fits_essence .quotedName tree
    cases fits : Shape.quotedName.fits tree.children with
    | false =>
      rw [toName_of_misfit named fits,
        toName_of_misfit (relabelled.trans named) (shaped.trans fits), refuse_essence]
    | true =>
      rcases tree with ⟨label, text, children⟩
      obtain ⟨⟨kind, held, below⟩, rfl⟩ : ∃ child, children = [child] := exists_of_fits_one fits
      obtain rfl : label = "name" := named
      obtain rfl : kind = "STRING" := by simpa using fits
      -- The literal keeps its text, and nothing below it is looked at.
      simp only [essence, essences, Regard.ofChild, or_true, if_true]
      cases held <;> rfl
  · rw [toName_of_other named, toName_of_other (relabelled ▸ named), refuse_essence]

theorem grouped_essence (tree : Tree) : tree.essence.grouped = tree.grouped.map essence := by
  have relabelled := label_essence tree
  by_cases grouped : tree.label = "group"
  · have shaped := fits_essence .parenthesized tree
    cases fits : Shape.parenthesized.fits tree.children with
    | false =>
      rw [grouped_of_misfit grouped fits,
        grouped_of_misfit (relabelled.trans grouped) (shaped.trans fits), refuse_essence]
      rfl
    | true =>
      rcases tree with ⟨label, text, children⟩
      obtain ⟨left, inner, right, rfl⟩ : ∃ left inner right, children = [left, inner, right] :=
        exists_of_fits_three fits
      obtain rfl : label = "group" := grouped
      obtain ⟨left', right', same⟩ : ∃ left' right',
          (node "group" text [left, inner, right]).essence =
            node "group" none [left', inner.essence, right'] := by
        simp [essence, essences, Regard.ofChild]
      rw [same] at shaped ⊢
      rw [grouped_of_fits fits, grouped_of_fits (shaped.trans fits)]
      rfl
  · rw [grouped_of_other grouped, grouped_of_other (relabelled ▸ grouped), refuse_essence]
    rfl

theorem isTerminal_name : Regard.isTerminal "name" = false := by decide

theorem isTerminal_terms : Regard.isTerminal "terms" = false := by decide

theorem isTerminal_group : Regard.isTerminal "group" = false := by decide

section
variable {text : Option String} {keyword name left terms right group group' : Tree}

theorem essence_application {label : String} (other : ¬(label = "truth" ∨ label = "name"))
    (isName : name.label = "name") (isTerms : terms.label = "terms") :
    ∃ keyword' left' right', (node label text [keyword, name, left, terms, right]).essence =
      node label none [keyword', name.essence, left', terms.essence, right'] := by
  simp [essence, essences, Regard.ofChild, other, isName, isTerms, isTerminal_name,
    isTerminal_terms]

theorem essence_negation (isGroup : group.label = "group") :
    ∃ keyword', (node "not" text [keyword, group]).essence =
      node "not" none [keyword', group.essence] := by
  simp [essence, essences, Regard.ofChild, isGroup, isTerminal_group]

theorem essence_connective (op : Connective) (isGroup : group.label = "group")
    (isGroup' : group'.label = "group") :
    ∃ keyword', (node op.nodeLabel text [keyword, group, group']).essence =
      node op.nodeLabel none [keyword', group.essence, group'.essence] := by
  cases op <;> simp [essence, essences, Regard.ofChild, Connective.nodeLabel, isGroup, isGroup',
    isTerminal_group]

theorem essence_quantifier (binder : Quantifier) (isName : name.label = "name")
    (isGroup : group.label = "group") :
    ∃ keyword', (node binder.nodeLabel text [keyword, name, group]).essence =
      node binder.nodeLabel none [keyword', name.essence, group.essence] := by
  cases binder <;> simp [essence, essences, Regard.ofChild, Quantifier.nodeLabel, isName, isGroup,
    isTerminal_name, isTerminal_group]

end

mutual

/-- What is not looked at in a tree does not change the term, nor the obstacle. -/
theorem toTermWithin_essence (tree : Tree) (room : Nat) :
    tree.essence.toTermWithin room = tree.toTermWithin room := by
  have relabelled := label_essence tree
  by_cases isVar : tree.label = "var"
  · have shaped := fits_essence .variableTerm tree
    cases fits : Shape.variableTerm.fits tree.children with
    | false =>
      rw [toTermWithin_var_of_misfit isVar fits,
        toTermWithin_var_of_misfit (relabelled.trans isVar) (shaped.trans fits), refuse_essence]
    | true =>
      rcases tree with ⟨label, text, children⟩
      obtain ⟨keyword, name, rfl⟩ : ∃ keyword name, children = [keyword, name] :=
        exists_of_fits_two fits
      obtain rfl : label = "var" := isVar
      have labelled : keyword.label = "VAR" ∧ name.label = "name" := by simpa using fits
      obtain ⟨keyword', same⟩ : ∃ keyword', (node "var" text [keyword, name]).essence =
          node "var" none [keyword', name.essence] := by
        simp [essence, essences, Regard.ofChild, labelled.2, isTerminal_name]
      rw [same] at shaped ⊢
      rw [toTermWithin_var_of_fits fits, toTermWithin_var_of_fits (shaped.trans fits),
        toName_essence]
  · by_cases isFun : tree.label = "fun"
    · have shaped := fits_essence (.application "FUN") tree
      cases room with
      | zero => rw [toTermWithin_fun_zero (relabelled.trans isFun), toTermWithin_fun_zero isFun]
      | succ room =>
        cases fits : (Shape.application "FUN").fits tree.children with
        | false =>
          rw [toTermWithin_fun_of_misfit isFun fits,
            toTermWithin_fun_of_misfit (relabelled.trans isFun) (shaped.trans fits), refuse_essence]
        | true =>
          rcases tree with ⟨label, text, children⟩
          obtain ⟨keyword, name, left, terms, right, rfl⟩ :
              ∃ keyword name left terms right, children = [keyword, name, left, terms, right] :=
            exists_of_fits_five fits
          obtain rfl : label = "fun" := isFun
          have labelled := fits
          simp only [children_node, fits_labelled_iff, fits_nil, and_true] at labelled
          obtain ⟨_, isName, _, isTerms, _⟩ := labelled
          obtain ⟨keyword', left', right', same⟩ : ∃ keyword' left' right',
              (node "fun" text [keyword, name, left, terms, right]).essence =
                node "fun" none [keyword', name.essence, left', terms.essence, right'] :=
            essence_application (by decide) isName isTerms
          rw [same] at shaped ⊢
          rw [toTermWithin_fun_of_fits fits, toTermWithin_fun_of_fits (shaped.trans fits),
            toName_essence, toTermsWithin_essence terms]
    · rw [toTermWithin_of_other isVar isFun,
        toTermWithin_of_other (relabelled ▸ isVar) (relabelled ▸ isFun), refuse_essence]

theorem toTermsWithin_essence (tree : Tree) (room : Nat) :
    tree.essence.toTermsWithin room = tree.toTermsWithin room := by
  have relabelled := label_essence tree
  by_cases listed : tree.label = "terms"
  · have same := separatorProblem?_congr (childLabels_essence tree)
    cases found : separatorProblem? tree.children with
    | some problem =>
      rw [toTermsWithin_of_problem listed found,
        toTermsWithin_of_problem (relabelled.trans listed) (same.trans found), refuse_essence]
    | none =>
      rw [toTermsWithin_of_separated listed found,
        toTermsWithin_of_separated (relabelled.trans listed) (same.trans found)]
      rcases tree with ⟨label, text, items⟩
      obtain rfl : label = "terms" := listed
      rw [essence]
      exact itemsWithin_essences items rfl
  · rw [toTermsWithin_of_other listed, toTermsWithin_of_other (relabelled ▸ listed),
      refuse_essence]

theorem itemsWithin_essences (items : List Tree) {i room : Nat} (even : i % 2 = 0) :
    itemsWithin room (essences "terms" i items) = itemsWithin room items := by
  -- An item has an even index and is kept whole; of a separator, the label stays.
  match items with
  | [] => rw [essences]
  | [item] =>
    have whole : Regard.ofChild "terms" i item.label = .whole := by
      simp [Regard.ofChild, even]
    rw [essences, essences, whole, itemsWithin, itemsWithin, toTermWithin_essence item]
  | item :: separator :: rest =>
    have whole : Regard.ofChild "terms" i item.label = .whole := by
      simp [Regard.ofChild, even]
    have even' : (i + 1 + 1) % 2 = 0 := by omega
    rw [essences, essences, whole, itemsWithin_cons, itemsWithin_cons, toTermWithin_essence item,
      itemsWithin_essences rest even']

end

section
variable {tree : Tree}

theorem toConstant_essence (isTruth : tree.label = "truth") :
    tree.essence.toConstant = tree.toConstant := by
  have shaped := fits_essence [none] tree
  cases fits : Shape.fits [none] tree.children with
  | false => rw [toConstant_of_misfit fits, toConstant_of_misfit (shaped.trans fits), refuse_essence]
  | true =>
    rcases tree with ⟨label, text, children⟩
    obtain ⟨⟨kind, held, below⟩, rfl⟩ : ∃ child, children = [child] := exists_of_fits_one fits
    obtain rfl : label = "truth" := isTruth
    simp only [essence, essences, Regard.ofChild, true_or, if_true]
    cases held <;> rfl

theorem toAtom_essence (isRelation : tree.label = "relation") :
    tree.essence.toAtom = tree.toAtom := by
  have shaped := fits_essence (.application "REL") tree
  cases fits : (Shape.application "REL").fits tree.children with
  | false => rw [toAtom_of_misfit fits, toAtom_of_misfit (shaped.trans fits), refuse_essence]
  | true =>
    rcases tree with ⟨label, text, children⟩
    obtain ⟨keyword, name, left, terms, right, rfl⟩ :
        ∃ keyword name left terms right, children = [keyword, name, left, terms, right] :=
      exists_of_fits_five fits
    obtain rfl : label = "relation" := isRelation
    have labelled := fits
    simp only [children_node, fits_labelled_iff, fits_nil, and_true] at labelled
    obtain ⟨_, isName, _, isTerms, _⟩ := labelled
    obtain ⟨keyword', left', right', same⟩ : ∃ keyword' left' right',
        (node "relation" text [keyword, name, left, terms, right]).essence =
          node "relation" none [keyword', name.essence, left', terms.essence, right'] :=
      essence_application (by decide) isName isTerms
    rw [same] at shaped ⊢
    rw [toAtom_of_fits fits, toAtom_of_fits (shaped.trans fits), toName_essence, toTerms, toTerms,
      toTermsWithin_essence]

end

/-- What is not looked at below a node does not change what its check finds. -/
theorem former_essence (tree : Tree) : tree.essence.former =
    tree.former.map fun checked => (checked.1, checked.2.map essence) := by
  have relabelled := label_essence tree
  cases found : FormulaNode.ofLabel? tree.label with
  | none =>
    rw [former_of_other found, former_of_other (relabelled ▸ found), refuse_essence]
    rfl
  | some kind =>
    have shaped := fits_essence kind.shape tree
    cases fits : kind.shape.fits tree.children with
    | false =>
      rw [former_of_misfit found fits,
        former_of_misfit (relabelled ▸ found) (shaped.trans fits), refuse_essence]
      rfl
    | true =>
      rcases tree with ⟨label, text, children⟩
      obtain rfl := FormulaNode.ofLabel?_eq_some_iff.mp found
      have labelled := fits
      cases kind with
      | truth =>
        rw [former_truth relabelled, FormulaNode.label, former_truth (label_node ..),
          toConstant_essence (label_node ..)]
        cases (node "truth" text children).toConstant <;> rfl
      | relation =>
        rw [former_relation relabelled, FormulaNode.label, former_relation (label_node ..),
          toAtom_essence (label_node ..)]
        cases (node "relation" text children).toAtom <;> rfl
      | negation =>
        obtain ⟨keyword, group, rfl⟩ : ∃ keyword group, children = [keyword, group] :=
          exists_of_fits_two fits
        simp only [FormulaNode.shape, children_node, fits_labelled_iff, fits_nil, and_true]
          at labelled
        obtain ⟨keyword', same⟩ : ∃ keyword', (node "not" text [keyword, group]).essence =
          node "not" none [keyword', group.essence] := essence_negation labelled.2
        rw [FormulaNode.label, same] at shaped ⊢
        rw [former_negation_of_fits fits, former_negation_of_fits (shaped.trans fits),
          grouped_essence]
        cases group.grouped <;> rfl
      | connective op =>
        obtain ⟨keyword, group, group', rfl⟩ :
            ∃ keyword group group', children = [keyword, group, group'] :=
          exists_of_fits_three fits
        simp only [FormulaNode.shape, children_node, fits_labelled_iff, fits_nil, and_true]
          at labelled
        obtain ⟨keyword', same⟩ : ∃ keyword',
            (node op.nodeLabel text [keyword, group, group']).essence =
              node op.nodeLabel none [keyword', group.essence, group'.essence] :=
          essence_connective op labelled.2.1 labelled.2.2
        rw [FormulaNode.label, same] at shaped ⊢
        rw [former_connective_of_fits fits, former_connective_of_fits (shaped.trans fits),
          grouped_essence, grouped_essence]
        cases group.grouped with
        | error obstacle => rfl
        | ok left => cases group'.grouped <;> rfl
      | quantifier binder =>
        obtain ⟨keyword, name, group, rfl⟩ :
            ∃ keyword name group, children = [keyword, name, group] :=
          exists_of_fits_three fits
        simp only [FormulaNode.shape, children_node, fits_labelled_iff, fits_nil, and_true]
          at labelled
        obtain ⟨keyword', same⟩ : ∃ keyword',
            (node binder.nodeLabel text [keyword, name, group]).essence =
              node binder.nodeLabel none [keyword', name.essence, group.essence] :=
          essence_quantifier binder labelled.2.1 labelled.2.2
        rw [FormulaNode.label, same] at shaped ⊢
        rw [former_quantifier_of_fits fits, former_quantifier_of_fits (shaped.trans fits),
          toName_essence, grouped_essence]
        cases name.toName with
        | error obstacle => rfl
        | ok bound => cases group.grouped <;> rfl

/-- What is not looked at in a tree does not change what recursion makes of it. -/
theorem toFormulaByRecursion_essence (tree : Tree) :
    tree.essence.toFormulaByRecursion = tree.toFormulaByRecursion := by
  have same := former_essence tree
  cases checked : tree.former with
  | error obstacle =>
    rw [checked] at same
    rw [toFormulaByRecursion_of_error checked, toFormulaByRecursion_of_error same]
  | ok found =>
    obtain ⟨made, operands⟩ := found
    rw [checked] at same
    have below : ∀ operand ∈ operands,
        operand.essence.toFormulaByRecursion = operand.toFormulaByRecursion := fun operand _ =>
      toFormulaByRecursion_essence operand
    rw [toFormulaByRecursion_of_ok checked, toFormulaByRecursion_of_ok same,
      mapM_map_congr below, refuse_essence]
termination_by tree.size
decreasing_by
  have := sizeAll_former checked
  have := size_le_sizeAll ‹operand ∈ operands›
  omega

/-- What is not looked at in a tree has no influence on its conversion. -/
theorem toFormula_essence (tree : Tree) : tree.essence.toFormula = tree.toFormula := by
  rw [toFormula_eq_toFormulaByRecursion, toFormula_eq_toFormulaByRecursion,
    toFormulaByRecursion_essence]

end Tree

/-! Which trees convert to formulas. A tree converts to a formula exactly when it stands
for it and its applications have room, and what it converts to depends on nothing that the
representation leaves free. -/

section

variable {tree : Tree} {formula : Formula}

theorem standsFor_constant {text : Option String} {below : List Tree} (value : Bool) :
    StandsFor (.node "truth" text [.node (Keyword.constant value).label
      (some (Keyword.constant value).spelling) below]) (.constant value) := by
  cases value with
  | false => exact .falsity
  | true => exact .truth

namespace Tree

/-- A tree converts when its check finds what forms the formula, and each operand converts. -/
theorem toFormulaByRecursion_eq_ok_iff : tree.toFormulaByRecursion = .ok formula ↔
    ∃ made operands formulas, Forms tree made operands ∧
      operands.mapM toFormulaByRecursion = .ok formulas ∧ made.formula? formulas = some formula := by
  constructor
  · intro converted
    cases checked : tree.former with
    | error obstacle =>
      rw [toFormulaByRecursion_of_error checked] at converted
      cases converted
    | ok found =>
      obtain ⟨made, operands⟩ := found
      rw [toFormulaByRecursion_of_ok checked] at converted
      obtain ⟨formulas, below, converted⟩ := bind_eq_ok_iff.mp converted
      refine ⟨made, operands, formulas, former_eq_ok_iff.mp checked, below, ?_⟩
      cases formed : made.formula? formulas with
      | none =>
        rw [formed] at converted
        cases converted
      | some _ =>
        rw [formed] at converted
        cases converted
        rfl
  · rintro ⟨made, operands, formulas, forms, below, formed⟩
    rw [toFormulaByRecursion_of_ok (former_eq_ok_iff.mpr forms), below, Except.bind, formed]

theorem standsFor_of_toFormulaByRecursion (tree : Tree) {formula : Formula}
    (converted : tree.toFormulaByRecursion = .ok formula) :
    StandsFor tree formula ∧ formula.nesting ≤ nestingLimit := by
  obtain ⟨made, operands, formulas, forms, below, formed⟩ :=
    toFormulaByRecursion_eq_ok_iff.mp converted
  -- The recursion goes on below the node, whatever kind of node it is.
  have smaller : ∀ operand ∈ operands, operand.size < tree.size := by
    intro operand member
    have := sizeAll_former (former_eq_ok_iff.mpr forms)
    have := size_le_sizeAll member
    omega
  cases forms with
  | @constant _ _ value =>
    cases below
    cases formed
    exact ⟨standsFor_constant value, Nat.zero_le _⟩
  | atom labelled named opened listed closed within =>
    cases below
    cases formed
    exact ⟨.atom labelled named opened listed closed, within⟩
  | @negation _ _ _ inner labelled grouped =>
    have := smaller inner List.mem_cons_self
    obtain ⟨operand, converted, rfl⟩ := mapM_singleton_eq_ok_iff.mp below
    obtain ⟨stands, within⟩ := standsFor_of_toFormulaByRecursion inner converted
    cases formed
    exact ⟨.negation labelled grouped stands, within⟩
  | @connected _ _ _ inner _ inner' op labelled grouped grouped' =>
    have := smaller inner List.mem_cons_self
    have := smaller inner' (List.mem_cons_of_mem _ List.mem_cons_self)
    obtain ⟨left, right, belowLeft, belowRight, rfl⟩ := mapM_pair_eq_ok_iff.mp below
    obtain ⟨standsLeft, withinLeft⟩ := standsFor_of_toFormulaByRecursion inner belowLeft
    obtain ⟨standsRight, withinRight⟩ := standsFor_of_toFormulaByRecursion inner' belowRight
    cases formed
    exact ⟨.connected labelled grouped standsLeft grouped' standsRight,
      Nat.max_le.mpr ⟨withinLeft, withinRight⟩⟩
  | @quantified _ _ _ _ inner binder bound labelled named grouped =>
    have := smaller inner List.mem_cons_self
    obtain ⟨body, converted, rfl⟩ := mapM_singleton_eq_ok_iff.mp below
    obtain ⟨stands, within⟩ := standsFor_of_toFormulaByRecursion inner converted
    cases formed
    exact ⟨.quantified labelled named grouped stands, within⟩
termination_by tree.size

theorem toFormulaByRecursion_of_standsFor (stands : StandsFor tree formula)
    (within : formula.nesting ≤ nestingLimit) : tree.toFormulaByRecursion = .ok formula := by
  induction stands with
  | truth => exact toFormulaByRecursion_eq_ok_iff.mpr ⟨_, _, _, @Forms.constant _ _ true, rfl, rfl⟩
  | falsity => exact toFormulaByRecursion_eq_ok_iff.mpr ⟨_, _, _, @Forms.constant _ _ false, rfl, rfl⟩
  | atom labelled named opened listed closed =>
    exact toFormulaByRecursion_eq_ok_iff.mpr
      ⟨_, _, _, .atom labelled named opened listed closed within, rfl, rfl⟩
  | negation labelled grouped _ ih =>
    have below := mapM_singleton_eq_ok_iff.mpr ⟨_, ih within, rfl⟩
    exact toFormulaByRecursion_eq_ok_iff.mpr ⟨_, _, _, .negation labelled grouped, below, rfl⟩
  | connected labelled grouped _ grouped' _ onLeft onRight =>
    obtain ⟨withinLeft, withinRight⟩ := Nat.max_le.mp within
    have below := mapM_pair_eq_ok_iff.mpr ⟨_, _, onLeft withinLeft, onRight withinRight, rfl⟩
    exact toFormulaByRecursion_eq_ok_iff.mpr
      ⟨_, _, _, .connected labelled grouped grouped', below, rfl⟩
  | quantified labelled named grouped _ ih =>
    have below := mapM_singleton_eq_ok_iff.mpr ⟨_, ih within, rfl⟩
    exact toFormulaByRecursion_eq_ok_iff.mpr
      ⟨_, _, _, .quantified labelled named grouped, below, rfl⟩

/-- A tree converts to a formula exactly when it stands for it and there is room. -/
theorem toFormula_eq_ok_iff : tree.toFormula = .ok formula ↔
    StandsFor tree formula ∧ formula.nesting ≤ nestingLimit := by
  rw [toFormula_eq_toFormulaByRecursion]
  exact ⟨standsFor_of_toFormulaByRecursion tree, fun ⟨stands, within⟩ =>
    toFormulaByRecursion_of_standsFor stands within⟩

end Tree

mutual

/-- A term nests no more applications than a tree that stands for it. -/
theorem StandsForTerm.nesting_le {tree : Tree} {term : Term} (stands : StandsForTerm tree term) :
    term.nesting ≤ tree.nesting := by
  cases stands with
  | var => exact Nat.zero_le _
  | app _ _ _ listed _ =>
    have below := listed.nesting_le
    simp only [Term.nesting, Tree.nesting, Tree.nestingAll_cons, if_true]
    omega

theorem StandsForTerms.nesting_le {tree : Tree} {args : List Term} (stand : StandsForTerms tree args) :
    Term.nestingAll args ≤ tree.nesting := by
  cases stand with
  | none => exact Nat.zero_le _
  | some separated =>
    have below := separated.nesting_le
    simp only [Tree.nesting]
    omega

theorem StandForItems.nesting_le {items : List Tree} {args : List Term}
    (stand : StandForItems items args) : Term.nestingAll args ≤ Tree.nestingAll items := by
  cases stand with
  | last stands =>
    have below := stands.nesting_le
    simp only [Term.nestingAll, Tree.nestingAll_cons]
    omega
  | cons stands _ more =>
    have below := stands.nesting_le
    have later := more.nesting_le
    simp only [Term.nestingAll, Tree.nestingAll_cons]
    omega

end

theorem Encloses.nesting_le {group inner : Tree} (encloses : Encloses group inner) :
    inner.nesting ≤ group.nesting := by
  cases encloses
  simp only [Tree.nesting, Tree.nestingAll_cons]
  omega

/-- A formula nests no more applications than a tree that stands for it. -/
theorem StandsFor.nesting_le (stands : StandsFor tree formula) :
    formula.nesting ≤ tree.nesting := by
  induction stands with
  | truth | falsity => exact Nat.zero_le _
  | atom _ _ _ listed _ =>
    have below := listed.nesting_le
    simp only [Formula.nesting, Tree.nesting, Tree.nestingAll_cons]
    omega
  | negation _ grouped _ ih | quantified _ _ grouped _ ih =>
    have below := grouped.nesting_le
    simp only [Formula.nesting, Tree.nesting, Tree.nestingAll_cons]
    omega
  | connected _ grouped _ grouped' _ onLeft onRight =>
    have below := grouped.nesting_le
    have below' := grouped'.nesting_le
    simp only [Formula.nesting, Tree.nesting, Tree.nestingAll_cons]
    omega

namespace Tree

/-- Conversion accepts the trees of the right shape, whether or not they come from a text,
and nothing that the representation leaves free has a part in it. -/
theorem toFormula_represents {tree : Tree} (nested : tree.nesting ≤ 200) :
    (∀ formula, tree.toFormula = .ok formula ↔ StandsFor tree formula) ∧
    ∀ other : Tree, other.essence = tree.essence → other.toFormula = tree.toFormula := by
  constructor
  · intro formula
    rw [toFormula_eq_ok_iff]
    refine ⟨And.left, fun stands => ⟨stands, ?_⟩⟩
    calc formula.nesting
      _ ≤ tree.nesting := stands.nesting_le
      _ ≤ 200 := nested
      _ ≤ nestingLimit := le_nestingLimit
  · intro other same
    rw [← toFormula_essence other, same, toFormula_essence]

/-- A negation made by hand, with text at the nodes and a subtree below a keyword, converts
as the tree of a text does. -/
theorem toFormula_represents_marked :
    let truth := node "truth" (some "truth") [node "TRUE" (some "T") [leaf "FALSE" "F"]]
    let group := node "group" none [leaf "LPAREN" "[", truth, branch "RPAREN" [truth]]
    let tree := node "not" (some "!") [branch "NOT" [group], group]
    let plain := branch "not" [leaf "NOT" "Not",
      branch "group" [leaf "LPAREN" "(", branch "truth" [leaf "TRUE" "T"], leaf "RPAREN" ")"]]
    tree.nesting ≤ 200 ∧ tree.toFormula = .ok (.negation (.constant true)) ∧
      plain.essence = tree.essence ∧ plain.toFormula = tree.toFormula := by
  intro truth group tree plain
  have nested : tree.nesting ≤ 200 := by decide
  have same : plain.essence = tree.essence := by decide
  obtain ⟨represents, unaffected⟩ := toFormula_represents nested
  exact ⟨nested, (represents _).mpr (.negation rfl (.group rfl rfl) .truth), same,
    unaffected plain same⟩

end Tree

end

end FirstOrderText
