import FirstOrderText.Conversion.Reference
import FirstOrderText.Proofs.Conversion.Phrase

/-! The check of one node, by its label and the labels of its children. Each kind of node
has a shape. A node of another shape is refused as a whole, and one of that shape is
converted child by child. -/
namespace FirstOrderText

namespace Shape

/-- The shape of a `name` node. -/
abbrev quotedName : Shape := [some "STRING"]

/-- The shape of a `group` node. -/
abbrev parenthesized : Shape := [some "LPAREN", none, some "RPAREN"]

/-- The shape of a `var` node. -/
abbrev variableTerm : Shape := [some "VAR", some "name"]

/-- The shape of a `fun` or `relation` node, which differ in the keyword. -/
abbrev application (keyword : String) : Shape :=
  [some keyword, some "name", some "LBRACKET", some "terms", some "RBRACKET"]

end Shape

/-- The label of a formula node. -/
def FormulaNode.label : FormulaNode → String
  | .truth => "truth"
  | .relation => "relation"
  | .negation => "not"
  | .connective op => op.nodeLabel
  | .quantifier binder => binder.nodeLabel

theorem FormulaNode.ofLabel?_eq_some_iff {label : String} {node : FormulaNode} :
    ofLabel? label = some node ↔ node.label = label := by
  constructor
  · intro found
    unfold ofLabel? at found
    grind [FormulaNode.label, Connective.nodeLabel, Quantifier.nodeLabel]
  · rintro rfl
    rcases node with _ | _ | _ | (_ | _ | _) | (_ | _) <;> rfl

/-- What the children of a formula node must be labelled. -/
def FormulaNode.shape : FormulaNode → Shape
  | .truth => [none]
  | .relation => .application "REL"
  | .negation => [some "NOT", some "group"]
  | .connective op => [some (Keyword.connective op).label, some "group", some "group"]
  | .quantifier binder => [some (Keyword.quantifier binder).label, some "name", some "group"]

namespace Tree

theorem exists_of_fits_cons {slot : Option String} {slots : Shape} {children : List Tree}
    (fits : Shape.fits (slot :: slots) children = true) :
    ∃ child rest, children = child :: rest ∧ Shape.fits slots rest = true := by
  cases children with
  | nil => cases fits
  | cons child rest => exact ⟨child, rest, rfl, (Bool.and_eq_true_iff.mp fits).2⟩

section
variable {slot slot' slot'' slot₃ slot₄ : Option String} {children : List Tree}

/-- Children fill the slots of a shape one for one. -/
theorem exists_of_fits_one (fits : Shape.fits [slot] children = true) :
    ∃ child, children = [child] := by
  obtain ⟨child, rest, rfl, others⟩ := exists_of_fits_cons fits
  cases rest with
  | nil => exact ⟨child, rfl⟩
  | cons _ _ => cases others

theorem exists_of_fits_two (fits : Shape.fits [slot, slot'] children = true) :
    ∃ first second, children = [first, second] := by
  obtain ⟨first, rest, rfl, others⟩ := exists_of_fits_cons fits
  obtain ⟨second, rfl⟩ := exists_of_fits_one others
  exact ⟨first, second, rfl⟩

theorem exists_of_fits_three (fits : Shape.fits [slot, slot', slot''] children = true) :
    ∃ first second third, children = [first, second, third] := by
  obtain ⟨first, rest, rfl, others⟩ := exists_of_fits_cons fits
  obtain ⟨second, third, rfl⟩ := exists_of_fits_two others
  exact ⟨first, second, third, rfl⟩

theorem exists_of_fits_five (fits : Shape.fits [slot, slot', slot'', slot₃, slot₄] children = true) :
    ∃ first second third fourth fifth, children = [first, second, third, fourth, fifth] := by
  obtain ⟨first, rest, rfl, others⟩ := exists_of_fits_cons fits
  obtain ⟨second, rest, rfl, others'⟩ := exists_of_fits_cons others
  obtain ⟨third, fourth, fifth, rfl⟩ := exists_of_fits_three others'
  exact ⟨first, second, third, fourth, fifth, rfl⟩

end

@[simp] theorem fits_labelled_iff {label : String} {slots : Shape} {child : Tree}
    {children : List Tree} : Shape.fits (some label :: slots) (child :: children) = true ↔
      child.label = label ∧ Shape.fits slots children = true := by
  rw [Shape.fits, Bool.and_eq_true, Option.all_some, beq_iff_eq, eq_comm]

@[simp] theorem fits_any_iff {slots : Shape} {child : Tree} {children : List Tree} :
    Shape.fits (none :: slots) (child :: children) = true ↔ Shape.fits slots children = true := by
  rw [Shape.fits, Bool.and_eq_true, Option.all_none, eq_self, true_and]

@[simp] theorem fits_nil : Shape.fits [] [] = true := rfl

variable {tree : Tree}

theorem toName_of_other (other : tree.label ≠ "name") : tree.toName = tree.refuse .notName :=
  if_pos other

theorem toName_of_misfit (named : tree.label = "name")
    (misfit : Shape.quotedName.fits tree.children = false) :
    tree.toName = tree.refuse (.children .quotedName) := by
  rw [toName, if_neg (not_not_intro named)]
  split
  · simp_all
  · rfl

theorem toName_of_fits {text : Option String} {held : String} {below : List Tree} :
    (node "name" text [node "STRING" (some held) below]).toName =
      match unquote? held.toList with
      | none => (node "name" text [node "STRING" (some held) below]).refuse (.malformedName held)
      | some content =>
        if isName content then .ok (String.ofList content)
        else (node "name" text [node "STRING" (some held) below]).refuse (.improperName held) := rfl

theorem grouped_of_other (other : tree.label ≠ "group") : tree.grouped = tree.refuse .notGroup :=
  if_pos other

theorem grouped_of_misfit (grouped : tree.label = "group")
    (misfit : Shape.parenthesized.fits tree.children = false) :
    tree.grouped = tree.refuse (.children .parenthesized) := by
  rw [Tree.grouped, if_neg (not_not_intro grouped)]
  split
  · simp_all
  · rfl

theorem grouped_of_fits {text : Option String} {left inner right : Tree}
    (fits : Shape.parenthesized.fits [left, inner, right] = true) :
    (node "group" text [left, inner, right]).grouped = .ok inner := by
  simp [grouped, fits]

section
variable {text : Option String} {room : Nat}

theorem toTermWithin_of_other (notVar : tree.label ≠ "var") (notFun : tree.label ≠ "fun") :
    tree.toTermWithin room = tree.refuse .notTerm := by
  rcases tree with ⟨label, text, children⟩
  rw [label_node] at notVar notFun
  rw [toTermWithin.eq_def]
  simp only [notVar, notFun, if_false]

theorem toTermWithin_var_of_misfit (isVar : tree.label = "var")
    (misfit : Shape.variableTerm.fits tree.children = false) :
    tree.toTermWithin room = tree.refuse (.children .variableTerm) := by
  rcases tree with ⟨label, text, children⟩
  obtain rfl : label = "var" := isVar
  rw [toTermWithin.eq_def]
  simp only [if_true]
  split
  · simp_all
  · rfl

theorem toTermWithin_var_of_fits {keyword name : Tree}
    (fits : Shape.variableTerm.fits [keyword, name] = true) :
    (node "var" text [keyword, name]).toTermWithin room = name.toName.map .var := by
  rw [toTermWithin.eq_def]
  simp [fits]

theorem toTermWithin_fun_zero (isFun : tree.label = "fun") :
    tree.toTermWithin 0 = .error .overflow := by
  rcases tree with ⟨label, text, children⟩
  obtain rfl : label = "fun" := isFun
  rw [toTermWithin.eq_def]
  rfl

theorem toTermWithin_fun_of_misfit (isFun : tree.label = "fun")
    (misfit : (Shape.application "FUN").fits tree.children = false) :
    tree.toTermWithin (room + 1) = tree.refuse (.children (.application "FUN")) := by
  rcases tree with ⟨label, text, children⟩
  obtain rfl : label = "fun" := isFun
  rw [toTermWithin.eq_def]
  simp only [String.reduceEq, if_false, if_true]
  split
  · simp_all
  · rfl

theorem toTermWithin_fun_of_fits {keyword name left terms right : Tree}
    (fits : (Shape.application "FUN").fits [keyword, name, left, terms, right] = true) :
    (node "fun" text [keyword, name, left, terms, right]).toTermWithin (room + 1) =
      name.toName.bind fun symbol => (terms.toTermsWithin room).map (.app symbol) := by
  rw [toTermWithin.eq_def]
  simp only [String.reduceEq, if_false, if_true, fits]
  cases name.toName <;> rfl

theorem toTermsWithin_of_other (other : tree.label ≠ "terms") :
    tree.toTermsWithin room = tree.refuse .notTerms := by
  rcases tree with ⟨label, text, items⟩
  rw [toTermsWithin]
  exact if_pos other

theorem toTermsWithin_of_problem (listed : tree.label = "terms") {problem : Problem}
    (found : separatorProblem? tree.children = some problem) :
    tree.toTermsWithin room = tree.refuse problem := by
  rcases tree with ⟨label, text, items⟩
  obtain rfl : label = "terms" := listed
  rw [children_node] at found
  rw [toTermsWithin]
  simp [found]

theorem toTermsWithin_of_separated (listed : tree.label = "terms")
    (unproblematic : separatorProblem? tree.children = none) :
    tree.toTermsWithin room = itemsWithin room tree.children := by
  rcases tree with ⟨label, text, items⟩
  obtain rfl : label = "terms" := listed
  rw [children_node] at unproblematic
  rw [toTermsWithin]
  simp [unproblematic]

end

theorem toConstant_of_misfit (misfit : Shape.fits [none] tree.children = false) :
    tree.toConstant = tree.refuse (.children [none]) := by
  rw [toConstant]
  split
  · simp_all
  · rfl

theorem toConstant_of_fits {label kind held : String} {text : Option String} {below : List Tree} :
    (node label text [node kind (some held) below]).toConstant =
      if kind = "TRUE" ∧ held = "T" then .ok true
      else if kind = "FALSE" ∧ held = "F" then .ok false
      else (node label text [node kind (some held) below]).refuse (.unknownConstant held) := rfl

theorem toAtom_of_misfit (misfit : (Shape.application "REL").fits tree.children = false) :
    tree.toAtom = tree.refuse (.children (.application "REL")) := by
  rw [toAtom]
  split
  · simp_all
  · rfl

theorem former_truth (isTruth : tree.label = "truth") :
    tree.former = tree.toConstant.map fun value => (.whole (.constant value), []) := by
  rw [former, isTruth]
  rfl

theorem former_relation (isRelation : tree.label = "relation") :
    tree.former = tree.toAtom.map fun atom => (.whole atom, []) := by
  rw [former, isRelation]
  rfl

theorem former_of_other (other : FormulaNode.ofLabel? tree.label = none) :
    tree.former = tree.refuse .notFormula := by
  rw [former, other]

theorem former_of_misfit {kind : FormulaNode} (found : FormulaNode.ofLabel? tree.label = some kind)
    (misfit : kind.shape.fits tree.children = false) :
    tree.former = tree.refuse (.children kind.shape) := by
  rw [former, found]
  cases kind with
  | truth =>
    simp only [toConstant_of_misfit misfit]
    rfl
  | relation =>
    simp only [toAtom_of_misfit misfit]
    rfl
  | negation | connective | quantifier =>
    simp only
    split
    · simp_all [FormulaNode.shape]
    · rfl

section
variable {text : Option String} {keyword name left terms right group group' : Tree}

theorem toAtom_of_fits
    (fits : (Shape.application "REL").fits [keyword, name, left, terms, right] = true) :
    (node "relation" text [keyword, name, left, terms, right]).toAtom =
      name.toName.bind fun symbol => terms.toTerms.map (.atom symbol) := by
  simp only [toAtom, children_node, fits]
  cases name.toName <;> rfl

theorem former_negation_of_fits (fits : FormulaNode.negation.shape.fits [keyword, group] = true) :
    (node "not" text [keyword, group]).former =
      group.grouped.map fun operand => (.negation, [operand]) := by
  have kind : FormulaNode.ofLabel? "not" = some .negation := FormulaNode.ofLabel?_eq_some_iff.mpr rfl
  rw [FormulaNode.shape] at fits
  simp only [former, label_node, kind, children_node, fits]

theorem former_connective_of_fits {op : Connective}
    (fits : (FormulaNode.connective op).shape.fits [keyword, group, group'] = true) :
    (node op.nodeLabel text [keyword, group, group']).former =
      group.grouped.bind fun left => group'.grouped.map fun right =>
        (.connected op, [left, right]) := by
  have kind : FormulaNode.ofLabel? op.nodeLabel = some (.connective op) :=
    FormulaNode.ofLabel?_eq_some_iff.mpr rfl
  rw [FormulaNode.shape] at fits
  simp only [former, label_node, kind, children_node, fits]
  cases group.grouped <;> rfl

theorem former_quantifier_of_fits {binder : Quantifier}
    (fits : (FormulaNode.quantifier binder).shape.fits [keyword, name, group] = true) :
    (node binder.nodeLabel text [keyword, name, group]).former =
      name.toName.bind fun bound => group.grouped.map fun body =>
        (.quantified binder bound, [body]) := by
  have kind : FormulaNode.ofLabel? binder.nodeLabel = some (.quantifier binder) :=
    FormulaNode.ofLabel?_eq_some_iff.mpr rfl
  rw [FormulaNode.shape] at fits
  simp only [former, label_node, kind, children_node, fits]
  cases name.toName <;> rfl

end

/-! Which trees convert to names and to terms. Each node that converts has the shape that
its label demands, and a whole tree converts to a term exactly when it stands for that
term and there is room for the applications in it. -/

variable {tree : Tree}

theorem eta (tree : Tree) : node tree.label tree.text tree.children = tree := by
  cases tree
  rfl

theorem toName_eq_ok_iff {name : String} : tree.toName = .ok name ↔ StandsForName tree name := by
  constructor
  · intro converted
    by_cases named : tree.label = "name"
    · cases fits : Shape.quotedName.fits tree.children with
      | false =>
        rw [toName_of_misfit named fits] at converted
        cases converted
      | true =>
        rcases tree with ⟨label, text, children⟩
        obtain ⟨⟨kind, held, below⟩, rfl⟩ : ∃ child, children = [child] := exists_of_fits_one fits
        obtain rfl : label = "name" := named
        obtain rfl : kind = "STRING" := by simpa using fits
        cases held with
        | none => cases converted
        | some held =>
          rw [toName_of_fits] at converted
          cases unquoted : unquote? held.toList with
          | none =>
            rw [unquoted] at converted
            cases converted
          | some content =>
            simp only [unquoted] at converted
            split at converted
            · rename_i proper
              cases converted
              rw [unquote?_toList_eq_some_iff.mp unquoted]
              exact .quoted (by rwa [String.toList_ofList])
            · cases converted
    · rw [toName_of_other named] at converted
      cases converted
  · rintro ⟨proper⟩
    simp [toName, Shape.fits, unquote?, proper]

theorem separatorProblem?_eq_none_iff {items : List Tree} : separatorProblem? items = none ↔
    (items.length % 2 = 0 → items = []) ∧ separated items = true := by
  rw [separatorProblem?]
  cases items with
  | nil => simp [separated]
  | cons item rest =>
    by_cases even : (rest.length + 1) % 2 = 0
    · simp [even]
    · have odd : (rest.length + 1) % 2 = 1 := by omega
      simp [odd]

/-- Children of a term list raise no problem when they are terms with commas between them. -/
theorem separatorProblem?_cons_eq_none_iff {item separator : Tree} {rest : List Tree} :
    separatorProblem? (item :: separator :: rest) = none ↔
      separator.label = "COMMA" ∧ rest ≠ [] ∧ separatorProblem? rest = none := by
  have parity : (item :: separator :: rest).length % 2 = rest.length % 2 := by
    simp only [List.length_cons]
    omega
  rw [separatorProblem?_eq_none_iff, separatorProblem?_eq_none_iff, parity, separated,
    Bool.and_eq_true, beq_iff_eq]
  grind

theorem ne_nil_of_standForItems {items : List Tree} {args : List Term}
    (stand : StandForItems items args) : items ≠ [] := by
  cases stand <;> simp

theorem separatorProblem?_of_standForItems {items : List Tree} {args : List Term}
    (stand : StandForItems items args) : separatorProblem? items = none := by
  cases stand with
  | last _ => rfl
  | cons _ comma more =>
    have unproblematic := separatorProblem?_of_standForItems more
    exact separatorProblem?_cons_eq_none_iff.mpr ⟨comma, ne_nil_of_standForItems more, unproblematic⟩

theorem standsForTerms_iff {text : Option String} {items : List Tree} {args : List Term} :
    StandsForTerms (node "terms" text items) args ↔
      items = [] ∧ args = [] ∨ StandForItems items args := by
  constructor
  · rintro (_ | separated)
    · exact Or.inl ⟨rfl, rfl⟩
    · exact Or.inr separated
  · rintro (⟨rfl, rfl⟩ | separated)
    · exact .none
    · exact .some separated

theorem label_of_standsForName {name : String} (stands : StandsForName tree name) :
    tree.label = "name" := by
  cases stands
  rfl

theorem label_of_standsForTerms {args : List Term} (stand : StandsForTerms tree args) :
    tree.label = "terms" := by
  cases stand <;> rfl

theorem label_of_toTermsWithin {room : Nat} {args : List Term}
    (converted : tree.toTermsWithin room = .ok args) : tree.label = "terms" := by
  by_cases listed : tree.label = "terms"
  · exact listed
  · rw [toTermsWithin_of_other listed] at converted
    cases converted

/-- What a `var` node must be for a term to come of it. -/
theorem toTermWithin_var_eq_ok_iff {text : Option String} {children : List Tree} {room : Nat}
    {term : Term} : (node "var" text children).toTermWithin room = .ok term ↔
      ∃ keyword name variableName, children = [keyword, name] ∧ keyword.label = "VAR" ∧
        name.toName = .ok variableName ∧ term = .var variableName := by
  constructor
  · intro converted
    cases fits : Shape.variableTerm.fits children with
    | false =>
      rw [toTermWithin_var_of_misfit (label_node ..) fits] at converted
      cases converted
    | true =>
      obtain ⟨keyword, name, rfl⟩ : ∃ keyword name, children = [keyword, name] :=
        exists_of_fits_two fits
      rw [toTermWithin_var_of_fits fits] at converted
      obtain ⟨variableName, named, rfl⟩ := map_eq_ok_iff.mp converted
      have labelled := (fits_labelled_iff.mp fits).1
      exact ⟨keyword, name, variableName, rfl, labelled, named, rfl⟩
  · rintro ⟨keyword, name, variableName, rfl, labelled, named, rfl⟩
    have isName := label_of_standsForName (toName_eq_ok_iff.mp named)
    rw [toTermWithin_var_of_fits (by simp [labelled, isName]), named]
    rfl

/-- What a `fun` node must be for a term to come of it. -/
theorem toTermWithin_fun_eq_ok_iff {text : Option String} {children : List Tree} {room : Nat}
    {term : Term} : (node "fun" text children).toTermWithin room = .ok term ↔
      ∃ keyword name left terms right symbol args room', room = room' + 1 ∧
        children = [keyword, name, left, terms, right] ∧ keyword.label = "FUN" ∧
        name.toName = .ok symbol ∧ left.label = "LBRACKET" ∧
        terms.toTermsWithin room' = .ok args ∧ right.label = "RBRACKET" ∧
        term = .app symbol args := by
  constructor
  · intro converted
    cases room with
    | zero =>
      rw [toTermWithin_fun_zero (label_node ..)] at converted
      cases converted
    | succ room =>
      cases fits : (Shape.application "FUN").fits children with
      | false =>
        rw [toTermWithin_fun_of_misfit (label_node ..) fits] at converted
        cases converted
      | true =>
        obtain ⟨keyword, name, left, terms, right, rfl⟩ :
            ∃ keyword name left terms right, children = [keyword, name, left, terms, right] :=
          exists_of_fits_five fits
        rw [toTermWithin_fun_of_fits fits] at converted
        obtain ⟨symbol, named, converted⟩ := bind_eq_ok_iff.mp converted
        obtain ⟨args, listed, rfl⟩ := map_eq_ok_iff.mp converted
        simp only [fits_labelled_iff, fits_nil, and_true] at fits
        obtain ⟨isFun, _, opened, _, closed⟩ := fits
        exact ⟨keyword, name, left, terms, right, symbol, args, room, rfl, rfl, isFun, named, opened,
          listed, closed, rfl⟩
  · rintro ⟨keyword, name, left, terms, right, symbol, args, room', rfl, rfl, isFun, named, opened,
      listed, closed, rfl⟩
    have isName := label_of_standsForName (toName_eq_ok_iff.mp named)
    have isTerms := label_of_toTermsWithin listed
    rw [toTermWithin_fun_of_fits (by simp [isFun, isName, opened, isTerms, closed]), named,
      Except.bind, listed]
    rfl

theorem toTermsWithin_eq_ok_iff {text : Option String} {items : List Tree} {room : Nat}
    {terms : List Term} : (node "terms" text items).toTermsWithin room = .ok terms ↔
      separatorProblem? items = none ∧ itemsWithin room items = .ok terms := by
  cases found : separatorProblem? items with
  | some problem =>
    rw [toTermsWithin_of_problem (label_node ..) found]
    simp [refuse]
  | none =>
    rw [toTermsWithin_of_separated (label_node ..) found]
    simp

mutual

/-- A tree converts to a term exactly when it stands for that term and there is room. -/
theorem toTermWithin_eq_ok_iff (tree : Tree) {room : Nat} {term : Term} :
    tree.toTermWithin room = .ok term ↔ StandsForTerm tree term ∧ term.nesting ≤ room := by
  constructor
  · intro converted
    by_cases isVar : tree.label = "var"
    · rcases tree with ⟨label, text, children⟩
      obtain rfl : label = "var" := isVar
      obtain ⟨_, _, _, rfl, labelled, named, rfl⟩ := toTermWithin_var_eq_ok_iff.mp converted
      exact ⟨.var labelled (toName_eq_ok_iff.mp named), Nat.zero_le _⟩
    · by_cases isFun : tree.label = "fun"
      · rcases tree with ⟨label, text, children⟩
        obtain rfl : label = "fun" := isFun
        obtain ⟨_, _, _, terms, _, _, _, _, rfl, rfl, labelled, named, opened, listed, closed, rfl⟩ :=
          toTermWithin_fun_eq_ok_iff.mp converted
        obtain ⟨listed, within⟩ := (toTermsWithin_iff terms).mp listed
        exact ⟨.app labelled (toName_eq_ok_iff.mp named) opened listed closed,
          Nat.succ_le_succ within⟩
      · rw [toTermWithin_of_other isVar isFun] at converted
        cases converted
  · rintro ⟨stands, within⟩
    cases stands with
    | var labelled named =>
      rw [toTermWithin_var_eq_ok_iff]
      exact ⟨_, _, _, rfl, labelled, toName_eq_ok_iff.mpr named, rfl⟩
    | @app _ _ _ _ terms _ _ _ labelled named opened listed closed =>
      cases room with
      | zero => exact absurd within (Nat.not_succ_le_zero _)
      | succ room =>
        have below := (toTermsWithin_iff terms).mpr ⟨listed, Nat.le_of_succ_le_succ within⟩
        rw [toTermWithin_fun_eq_ok_iff]
        exact ⟨_, _, _, _, _, _, _, room, rfl, rfl, labelled, toName_eq_ok_iff.mpr named, opened, below,
          closed, rfl⟩

theorem toTermsWithin_iff (tree : Tree) {room : Nat} {terms : List Term} :
    tree.toTermsWithin room = .ok terms ↔
      StandsForTerms tree terms ∧ Term.nestingAll terms ≤ room := by
  rcases tree with ⟨label, text, items⟩
  constructor
  · intro converted
    obtain rfl : label = "terms" := label_of_toTermsWithin converted
    obtain ⟨unproblematic, converted⟩ := toTermsWithin_eq_ok_iff.mp converted
    rw [standsForTerms_iff]
    exact (itemsWithin_eq_ok_iff items unproblematic).mp converted
  · rintro ⟨stand, within⟩
    obtain rfl : label = "terms" := label_of_standsForTerms stand
    have unproblematic : separatorProblem? items = none := by
      rcases standsForTerms_iff.mp stand with ⟨rfl, _⟩ | separated
      · rfl
      · exact separatorProblem?_of_standForItems separated
    rw [standsForTerms_iff] at stand
    exact toTermsWithin_eq_ok_iff.mpr
      ⟨unproblematic, (itemsWithin_eq_ok_iff items unproblematic).mpr ⟨stand, within⟩⟩

theorem itemsWithin_eq_ok_iff (items : List Tree) {room : Nat} {terms : List Term}
    (unproblematic : separatorProblem? items = none) :
    itemsWithin room items = .ok terms ↔
      (items = [] ∧ terms = [] ∨ StandForItems items terms) ∧ Term.nestingAll terms ≤ room := by
  match items with
  | [] =>
    constructor
    · intro converted
      cases converted
      exact ⟨Or.inl ⟨rfl, rfl⟩, Nat.zero_le _⟩
    · rintro ⟨⟨_, rfl⟩ | stand, _⟩
      · rfl
      · cases stand
  | [item] =>
    rw [itemsWithin, map_eq_ok_iff]
    constructor
    · rintro ⟨term, converted, rfl⟩
      obtain ⟨stands, within⟩ := (toTermWithin_eq_ok_iff item).mp converted
      exact ⟨Or.inr (.last stands), Nat.max_le.mpr ⟨within, Nat.zero_le _⟩⟩
    · rintro ⟨⟨none, _⟩ | stand, within⟩
      · cases none
      · cases stand with
        | last stands =>
          have within := (Nat.max_le.mp within).1
          exact ⟨_, (toTermWithin_eq_ok_iff item).mpr ⟨stands, within⟩, rfl⟩
  | item :: separator :: rest =>
    obtain ⟨comma, some, unproblematic⟩ := separatorProblem?_cons_eq_none_iff.mp unproblematic
    rw [itemsWithin_cons]
    constructor
    · intro converted
      obtain ⟨term, first, converted⟩ := bind_eq_ok_iff.mp converted
      obtain ⟨terms, later, rfl⟩ := map_eq_ok_iff.mp converted
      obtain ⟨stands, within⟩ := (toTermWithin_eq_ok_iff item).mp first
      obtain ⟨stand, withinAll⟩ := (itemsWithin_eq_ok_iff rest unproblematic).mp later
      have more := stand.resolve_left fun empty => some empty.1
      exact ⟨Or.inr (.cons stands comma more), Nat.max_le.mpr ⟨within, withinAll⟩⟩
    · rintro ⟨⟨none, _⟩ | stand, within⟩
      · cases none
      · cases stand with
        | cons stands _ more =>
          obtain ⟨within, withinAll⟩ := Nat.max_le.mp within
          rw [(toTermWithin_eq_ok_iff item).mpr ⟨stands, within⟩, Except.bind,
            (itemsWithin_eq_ok_iff rest unproblematic).mpr ⟨Or.inr more, withinAll⟩]
          rfl

end

end Tree

end FirstOrderText
