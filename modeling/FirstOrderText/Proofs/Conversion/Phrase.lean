import FirstOrderText.Conversion
import FirstOrderText.Proofs.Phrase

/-! What conversion asks of a token. The tree of a token list is decided by the kinds
of its tokens. Of their texts, conversion looks only at those of truth constants and
of names, and any of these may be an obstacle. -/
namespace FirstOrderText

/-- What a conversion comes to past some obstacles: the first of them stops it. -/
def past {α : Type} : List Obstacle → Converted α → Converted α
  | [], result => result
  | obstacle :: _, _ => .error obstacle

section
variable {α β : Type}

theorem past_append (front back : List Obstacle) (result : Converted α) :
    past (front ++ back) result = past front (past back result) := by
  cases front <;> rfl

theorem map_past (made : α → β) (obstacles : List Obstacle) (result : Converted α) :
    (past obstacles result).map made = past obstacles (result.map made) := by
  cases obstacles <;> rfl

theorem bind_past (next : α → Converted β) (obstacles : List Obstacle) (result : Converted α) :
    (past obstacles result).bind next = past obstacles (result.bind next) := by
  cases obstacles <;> rfl

end

theorem unquote?_eq_some_iff {chars content : List Char} :
    unquote? chars = some content ↔ chars = '\x22' :: (content ++ ['\x22']) := by
  cases chars with
  | nil => simp [unquote?]
  | cons c rest =>
    rw [unquote?, Option.ite_none_right_eq_some, List.cons.injEq, List.getLast?_eq_some_iff]
    constructor
    · rintro ⟨⟨rfl, content', rfl⟩, same⟩
      rw [List.dropLast_concat] at same
      rw [Option.some.inj same]
      exact ⟨rfl, rfl⟩
    · rintro ⟨rfl, rfl⟩
      exact ⟨⟨rfl, content, rfl⟩, by rw [List.dropLast_concat]⟩

theorem unquote?_toList_eq_some_iff {text : String} {content : List Char} :
    unquote? text.toList = some content ↔ text = "\"" ++ String.ofList content ++ "\"" := by
  rw [unquote?_eq_some_iff, ← String.toList_inj]
  simp

namespace Token

/-- A truth constant is spelled as its kind says, and a name is quoted. -/
def Proper (token : Token) : Prop :=
  (token.kind = "TRUE" → token.value = "T") ∧ (token.kind = "FALSE" → token.value = "F") ∧
    (token.kind = "STRING" → ∃ name : String, isName name.toList = true ∧
      token.value = "\"" ++ name ++ "\"")

/-- What is wrong with the text of a token, if anything is. -/
def fault? (token : Token) : Option ConversionFault :=
  if token.kind = "TRUE" ∧ token.value ≠ "T" ∨ token.kind = "FALSE" ∧ token.value ≠ "F" then
    some ⟨.unknownConstant token.value, "truth", [token.kind]⟩
  else if token.kind = "STRING" then
    match unquote? token.value.toList with
    | none => some ⟨.malformedName token.value, "name", ["STRING"]⟩
    | some content =>
      if isName content then none else some ⟨.improperName token.value, "name", ["STRING"]⟩
  else none

/-- The obstacle that a token is, if it is one. -/
def obstacles (token : Token) : List Obstacle :=
  token.fault?.toList.map .fault

theorem fault?_eq_none_iff {token : Token} : token.fault? = none ↔ token.Proper := by
  rw [fault?, Proper]
  by_cases constant : token.kind = "TRUE" ∧ token.value ≠ "T" ∨
      token.kind = "FALSE" ∧ token.value ≠ "F"
  · rw [if_pos constant]
    refine iff_of_false (by simp) ?_
    rintro ⟨truth, falsity, _⟩
    rcases constant with ⟨kind, other⟩ | ⟨kind, other⟩
    · exact absurd (truth kind) other
    · exact absurd (falsity kind) other
  · have truths : (token.kind = "TRUE" → token.value = "T") ∧
        (token.kind = "FALSE" → token.value = "F") := by
      grind
    rw [if_neg constant, ← and_assoc, and_iff_right truths]
    by_cases named : token.kind = "STRING"
    · rw [if_pos named, forall_prop_of_true named]
      constructor
      · intro faultless
        cases unquoted : unquote? token.value.toList with
        | none =>
          rw [unquoted] at faultless
          cases faultless
        | some content =>
          by_cases proper : isName content = true
          · refine ⟨String.ofList content, ?_, unquote?_toList_eq_some_iff.mp unquoted⟩
            rwa [String.toList_ofList]
          · simp only [unquoted, if_neg proper, reduceCtorEq] at faultless
      · rintro ⟨name, proper, same⟩
        have unquoted : unquote? token.value.toList = some name.toList := by
          rw [unquote?_toList_eq_some_iff, same, String.ofList_toList]
        rw [unquoted]
        exact if_pos proper
    · simp [named]

@[simp] theorem obstacles_delimiter (delimiter : Delimiter) (mark : Mark) :
    (Terminal.token (.delimiter delimiter) mark).obstacles = [] := by
  cases delimiter <;> simp [obstacles, fault?, Terminal.token, Terminal.label, Delimiter.label]

/-- Only the truth constants among the reserved words have a text that matters. -/
theorem obstacles_keyword {keyword : Keyword} (mark : Mark)
    (free : ∀ value, keyword ≠ .constant value) :
    (Terminal.token (.keyword keyword) mark).obstacles = [] := by
  rcases keyword with value | _ | _ | _ | _ | (_ | _ | _) | (_ | _)
  · exact absurd rfl (free value)
  all_goals simp [obstacles, fault?, Terminal.token, Terminal.label, Keyword.label]

end Token

/-- What the text of a mark holds between its quotes. -/
def Mark.name (mark : Mark) : String :=
  String.ofList ((unquote? mark.text.toList).getD [])

theorem Mark.fault?_name (mark : Mark) : (Terminal.name.token mark).fault? =
    match unquote? mark.text.toList with
    | none => some ⟨.malformedName mark.text, "name", ["STRING"]⟩
    | some content =>
      if isName content then none else some ⟨.improperName mark.text, "name", ["STRING"]⟩ := rfl

theorem Mark.toName_eq (mark : Mark) : mark.nameTree.toName =
    match unquote? mark.text.toList with
    | none => mark.nameTree.refuse (.malformedName mark.text)
    | some content =>
      if isName content then .ok (String.ofList content)
      else mark.nameTree.refuse (.improperName mark.text) := rfl

/-- A name is what stands in its quotes, if that is one. -/
theorem Mark.toName_nameTree (mark : Mark) :
    mark.nameTree.toName = past (Terminal.name.token mark).obstacles (.ok mark.name) := by
  rw [Mark.toName_eq, Token.obstacles, Mark.fault?_name, Mark.name]
  cases unquote? mark.text.toList with
  | none => rfl
  | some content =>
    by_cases proper : isName content = true
    · simp only [if_pos proper]
      rfl
    · simp only [if_neg proper]
      rfl

/-- The node of a truth constant denotes its kind, if it is spelled so. -/
theorem toConstant_truth (value : Bool) (word : Mark) :
    (Tree.branch "truth" [(Terminal.token (.keyword (.constant value)) word).leaf]).toConstant =
      past (Terminal.token (.keyword (.constant value)) word).obstacles (.ok value) := by
  have tree : (Tree.branch "truth" [(Terminal.token (.keyword (.constant value)) word).leaf]).toConstant =
      if (Keyword.constant value).label = "TRUE" ∧ word.text = "T" then .ok true
      else if (Keyword.constant value).label = "FALSE" ∧ word.text = "F" then .ok false
      else .error (.fault ⟨.unknownConstant word.text, "truth", [(Keyword.constant value).label]⟩) :=
    rfl
  rw [tree, Token.obstacles, Token.fault?]
  cases value with
  | true =>
    by_cases spelled : word.text = "T" <;>
      simp [Terminal.token, Terminal.label, Keyword.label, spelled, past]
  | false =>
    by_cases spelled : word.text = "F" <;>
      simp [Terminal.token, Terminal.label, Keyword.label, spelled, past]

/-! Converting phrases. What a phrase converts to, and the obstacles on the way in the
order in which they are met, follow its structure; the tree of a phrase never has
another shape than conversion expects. Where applications are not nested too deeply,
the obstacles are those of the tokens in their order. -/

mutual

/-- The term that a phrase stands for. -/
def TermPhrase.term : TermPhrase → Term
  | .var _ name => .var name.name
  | .app _ name _ args => .app name.name args.terms

/-- The terms that a list of terms stands for. -/
def TermsPhrase.terms : TermsPhrase → List Term
  | .none => []
  | .some first more => first.term :: more.terms

/-- The terms that the rest of a list of terms stands for. -/
def TailPhrase.terms : TailPhrase → List Term
  | .done => []
  | .next _ term more => term.term :: more.terms

end

mutual

/-- The obstacles in a term, when only so many more applications may be entered. -/
def TermPhrase.obstacles : TermPhrase → Nat → List Obstacle
  | .var _ name, _ => (Terminal.name.token name).obstacles
  | .app _ _ _ _, 0 => [.overflow]
  | .app _ name _ args, room + 1 => (Terminal.name.token name).obstacles ++ args.obstacles room

/-- The obstacles in a list of terms, one term after another. -/
def TermsPhrase.obstacles : TermsPhrase → Nat → List Obstacle
  | .none, _ => []
  | .some first more, room => first.obstacles room ++ more.obstacles room

/-- The obstacles in the rest of a list of terms. -/
def TailPhrase.obstacles : TailPhrase → Nat → List Obstacle
  | .done, _ => []
  | .next _ term more, room => term.obstacles room ++ more.obstacles room

end

namespace Tree

theorem length_trees_tail (tail : TailPhrase) : tail.trees.length % 2 = 0 := by
  cases tail with
  | done => rfl
  | next _ _ more =>
    have even := length_trees_tail more
    simp only [TailPhrase.trees, List.length_cons]
    omega

theorem separated_tail (item : Tree) (tail : TailPhrase) : separated (item :: tail.trees) = true := by
  cases tail with
  | done => rfl
  | next comma term more =>
    rw [TailPhrase.trees, separated, separated_tail term.tree more]
    rfl

/-- The children of the `terms` node of a phrase are terms and commas in turn. -/
theorem separatorProblem?_trees (args : TermsPhrase) : separatorProblem? args.trees = none := by
  cases args with
  | none => rfl
  | some first more =>
    have odd : (more.trees.length + 1) % 2 = 1 := by
      have even := length_trees_tail more
      omega
    simp [separatorProblem?, TermsPhrase.trees, separated_tail, odd]

theorem toTermWithin_var (word name : Mark) (room : Nat) :
    (TermPhrase.var word name).tree.toTermWithin room = name.nameTree.toName.map .var := by
  simp only [TermPhrase.tree, branch, toTermWithin.eq_def]
  rfl

theorem toTermWithin_app_zero (word name : Mark) (brackets : Enclosure) (args : TermsPhrase) :
    (TermPhrase.app word name brackets args).tree.toTermWithin 0 = .error .overflow := by
  simp only [TermPhrase.tree, branch, toTermWithin.eq_def, Keyword.nodeLabel]
  rfl

theorem toTermsWithin_tree (args : TermsPhrase) (room : Nat) :
    args.tree.toTermsWithin room = itemsWithin room args.trees := by
  rw [TermsPhrase.tree, branch, toTermsWithin, separatorProblem?_trees]
  rfl

/-- The name of an application is converted before its arguments are entered. -/
theorem toTermWithin_app (word name : Mark) (brackets : Enclosure) (args : TermsPhrase)
    (room : Nat) : (TermPhrase.app word name brackets args).tree.toTermWithin (room + 1) =
      match name.nameTree.toName with
      | .error obstacle => .error obstacle
      | .ok symbol => (toTermsWithin room args.tree).map (.app symbol) := by
  rw [TermPhrase.tree, branch, toTermWithin]
  rfl

theorem toTermWithin_app_succ (word name : Mark) (brackets : Enclosure) (args : TermsPhrase)
    (room : Nat) : (TermPhrase.app word name brackets args).tree.toTermWithin (room + 1) =
      name.nameTree.toName.bind fun symbol => (itemsWithin room args.trees).map (.app symbol) := by
  rw [toTermWithin_app, toTermsWithin_tree]
  cases name.nameTree.toName <;> rfl

theorem itemsWithin_cons (item separator : Tree) (rest : List Tree) (room : Nat) :
    itemsWithin room (item :: separator :: rest) =
      (item.toTermWithin room).bind fun term => (itemsWithin room rest).map (term :: ·) := by
  rw [itemsWithin]
  cases item.toTermWithin room <;> rfl

mutual

/-- A term converts past its obstacles to the term that it stands for. -/
theorem toTermWithin_tree (term : TermPhrase) (room : Nat) :
    term.tree.toTermWithin room = past (term.obstacles room) (.ok term.term) := by
  cases term with
  | var word name =>
    rw [toTermWithin_var, Mark.toName_nameTree, map_past, TermPhrase.obstacles]
    rfl
  | app word name brackets args =>
    cases room with
    | zero => exact toTermWithin_app_zero word name brackets args
    | succ room =>
      rw [toTermWithin_app_succ, Mark.toName_nameTree, bind_past, itemsWithin_trees args room,
        TermPhrase.obstacles, past_append]
      exact congrArg _ (map_past ..)

theorem itemsWithin_trees (args : TermsPhrase) (room : Nat) :
    itemsWithin room args.trees = past (args.obstacles room) (.ok args.terms) := by
  cases args with
  | none => rfl
  | some first more =>
    have converted := itemsWithin_tail (toTermWithin_tree first room) more
    rw [TermsPhrase.trees, converted, TermsPhrase.obstacles, past_append]
    rfl

theorem itemsWithin_tail {item : Tree} {obstacles : List Obstacle} {term : Term} {room : Nat}
    (converted : item.toTermWithin room = past obstacles (.ok term)) (tail : TailPhrase) :
    itemsWithin room (item :: tail.trees) =
      past obstacles (past (tail.obstacles room) (.ok (term :: tail.terms))) := by
  cases tail with
  | done =>
    rw [TailPhrase.trees, itemsWithin, converted, map_past]
    rfl
  | next comma next more =>
    have later := itemsWithin_tail (toTermWithin_tree next room) more
    rw [TailPhrase.trees, itemsWithin_cons, converted, bind_past, later, TailPhrase.obstacles,
      past_append, Except.bind, map_past, map_past]
    rfl

end

theorem formers_cons (tree : Tree) (rest : List Tree) : formers (tree :: rest) =
    tree.former.bind fun checked => (formers (checked.2 ++ rest)).map (checked.1 :: ·) := by
  rw [formers]
  split
  · rename_i failed
    rw [failed]
    rfl
  · rename_i made operands checked
    rw [checked]
    rfl

theorem toAtom_atom (word name : Mark) (brackets : Enclosure) (args : TermsPhrase) :
    (FormulaPhrase.atom word name brackets args).tree.toAtom =
      match name.nameTree.toName with
      | .error obstacle => .error obstacle
      | .ok symbol => args.tree.toTerms.map (.atom symbol) := rfl

theorem former_quantified (binder : Quantifier) (word name : Mark) (parens : Enclosure)
    (body : FormulaPhrase) :
    (FormulaPhrase.quantified binder word name parens body).tree.former =
      match name.nameTree.toName with
      | .error obstacle => .error obstacle
      | .ok bound => .ok (.quantified binder bound, [body.tree]) := by
  cases binder <;> rfl

theorem toAtom_relation (word name : Mark) (brackets : Enclosure) (args : TermsPhrase) :
    (FormulaPhrase.atom word name brackets args).tree.toAtom =
      past ((Terminal.name.token name).obstacles ++ args.obstacles nestingLimit)
        (.ok (.atom name.name args.terms)) := by
  have checked : (FormulaPhrase.atom word name brackets args).tree.toAtom =
      name.nameTree.toName.bind fun symbol => args.tree.toTerms.map (.atom symbol) := by
    rw [toAtom_atom]
    cases name.nameTree.toName <;> rfl
  rw [checked, toTerms, toTermsWithin_tree, itemsWithin_trees, Mark.toName_nameTree, bind_past,
    past_append]
  exact congrArg _ (map_past ..)

end Tree

namespace FormulaPhrase

/-- The formula that a phrase stands for. -/
def formula : FormulaPhrase → Formula
  | .constant value _ => .constant value
  | .atom _ name _ args => .atom name.name args.terms
  | .negation _ _ operand => .negation operand.formula
  | .connected op _ _ left _ right => .connected op left.formula right.formula
  | .quantified binder _ name _ body => .quantified binder name.name body.formula

/-- The obstacles in a formula, in order. -/
def obstacles : FormulaPhrase → List Obstacle
  | .constant value word => (Terminal.token (.keyword (.constant value)) word).obstacles
  | .atom _ name _ args => (Terminal.name.token name).obstacles ++ args.obstacles Tree.nestingLimit
  | .negation _ _ operand => operand.obstacles
  | .connected _ _ _ left _ right => left.obstacles ++ right.obstacles
  | .quantified _ _ name _ body => (Terminal.name.token name).obstacles ++ body.obstacles

/-- The formers of a formula, each before those of its operands. -/
def formers : FormulaPhrase → List Former
  | .constant value _ => [.whole (.constant value)]
  | .atom _ name _ args => [.whole (.atom name.name args.terms)]
  | .negation _ _ operand => .negation :: operand.formers
  | .connected op _ _ left _ right => .connected op :: (left.formers ++ right.formers)
  | .quantified binder _ name _ body => .quantified binder name.name :: body.formers

theorem foldr_formers (phrase : FormulaPhrase) (rest : List Formula) :
    phrase.formers.foldr Former.apply rest = phrase.formula :: rest := by
  induction phrase generalizing rest with
  | constant _ _ | atom _ _ _ _ => rfl
  | negation _ _ _ ih | quantified _ _ _ _ _ ih =>
    rw [formers, List.foldr_cons, ih]
    rfl
  | connected _ _ _ _ _ _ left right =>
    rw [formers, List.foldr_cons, List.foldr_append, right, left]
    rfl

/-- The nodes of a phrase are checked in the order of its tokens. -/
theorem formers_tree (phrase : FormulaPhrase) (rest : List Tree) :
    Tree.formers (phrase.tree :: rest) =
      past phrase.obstacles ((Tree.formers rest).map (phrase.formers ++ ·)) := by
  induction phrase generalizing rest with
  | constant value word =>
    have checked : (constant value word).tree.former =
        (constant value word).tree.toConstant.map fun value => (.whole (.constant value), []) := by
      cases value <;> rfl
    have converted : (constant value word).tree.toConstant = past _ (.ok value) :=
      toConstant_truth value word
    rw [Tree.formers_cons, checked, converted, map_past, bind_past]
    rfl
  | atom word name brackets args =>
    have checked : (atom word name brackets args).tree.former =
        (atom word name brackets args).tree.toAtom.map fun atom => (.whole atom, []) := rfl
    rw [Tree.formers_cons, checked, Tree.toAtom_relation, map_past, bind_past]
    rfl
  | negation word parens operand ih =>
    have checked : (negation word parens operand).tree.former = .ok (.negation, [operand.tree]) :=
      rfl
    have below : Tree.formers ([operand.tree] ++ rest) = _ := ih rest
    rw [Tree.formers_cons, checked, Except.bind, below, map_past]
    cases Tree.formers rest <;> rfl
  | connected op word parens left parens' right onLeft onRight =>
    have checked : (connected op word parens left parens' right).tree.former =
        .ok (.connected op, [left.tree, right.tree]) := by
      cases op <;> rfl
    have below : Tree.formers ([left.tree, right.tree] ++ rest) = _ := onLeft (right.tree :: rest)
    rw [Tree.formers_cons, checked, Except.bind, below, onRight, map_past, map_past, map_past,
      obstacles, past_append]
    cases Tree.formers rest with
    | error obstacle => rfl
    | ok made => simp [Except.map, formers]
  | quantified binder word name parens body ih =>
    have checked : (quantified binder word name parens body).tree.former =
        name.nameTree.toName.map fun bound => (.quantified binder bound, [body.tree]) := by
      rw [Tree.former_quantified]
      cases name.nameTree.toName <;> rfl
    have below : Tree.formers ([body.tree] ++ rest) = _ := ih rest
    rw [Tree.formers_cons, checked, Mark.toName_nameTree, map_past, bind_past, Except.map,
      Except.bind, below, map_past, obstacles, past_append]
    cases Tree.formers rest <;> rfl

/-- A formula converts past its obstacles to the formula that it stands for. -/
theorem toFormula_tree (phrase : FormulaPhrase) :
    phrase.tree.toFormula = past phrase.obstacles (.ok phrase.formula) := by
  have none : Tree.formers [] = .ok [] := by rw [Tree.formers]
  have checked := phrase.formers_tree []
  rw [none, Except.map, List.append_nil] at checked
  rw [Tree.toFormula, checked]
  cases phrase.obstacles with
  | nil => simp only [past, foldr_formers]
  | cons obstacle rest => rfl

end FormulaPhrase

end FirstOrderText
