import FirstOrderText.Expression
import FirstOrderText.Proofs.Text

/-! Constructor forms identify formulas and terms. A form begins with the name of its
constructor, no two of which can be confused, and its parts end by themselves, so that
nothing in a name can be taken for a part of the form. -/
namespace FirstOrderText

namespace Keyword

/-- The constructor of what a reserved word writes. -/
def constructorName : Keyword → String
  | .constant true => "TrueConstant"
  | .constant false => "FalseConstant"
  | .relation => "Relation"
  | .variableName => "Var"
  | .application => "Fun"
  | .negation => "Negation"
  | .connective op => op.constructorName
  | .quantifier binder => binder.constructorName

/-- The beginning of a form: its constructor, and the parenthesis behind it. -/
def opening (word : Keyword) : List Char :=
  word.constructorName.toList ++ ['(']

/-- No constructor, with its parenthesis, begins another. -/
theorem eq_of_opening_starts {word word' : Keyword} (begins : word.opening <+: word'.opening) :
    word = word' :=
  (by decide +kernel : ∀ word ∈ all, ∀ word' ∈ all, word.opening <+: word'.opening → word = word')
    word (mem_all word) word' (mem_all word') begins

theorem opening_append_inj {word word' : Keyword} {rest rest' : List Char}
    (same : word.opening ++ rest = word'.opening ++ rest') : word = word' ∧ rest = rest' := by
  have one : word = word' := by
    rcases List.append_eq_append_iff.mp same with ⟨more, longer, _⟩ | ⟨more, longer, _⟩
    · exact eq_of_opening_starts ⟨more, longer.symm⟩
    · exact (eq_of_opening_starts ⟨more, longer.symm⟩).symm
  subst one
  exact ⟨rfl, List.append_cancel_left same⟩

end Keyword

namespace Term

/-- The characters of the constructor form of a term. -/
def form (term : Term) : List Char :=
  term.render.toList

/-- The characters of the constructor forms of arguments in their brackets. -/
def formArgs (args : List Term) : List Char :=
  (renderArgs (renderAll args)).toList

theorem renderAll_eq_map (terms : List Term) : renderAll terms = terms.map render := by
  induction terms with
  | nil => rfl
  | cons term rest ih => rw [renderAll, ih, List.map_cons]

/-- The reserved word of the root of a term. -/
def word : Term → Keyword
  | .var _ => .variableName
  | .app _ _ => .application

/-- What a form has behind its constructor, with more behind it. -/
def body (rest : List Char) : Term → List Char
  | .var name => Quoted.literal name.toList ++ ')' :: rest
  | .app symbol args =>
    Quoted.literal symbol.toList ++ ',' :: ' ' :: (formArgs args ++ ')' :: rest)

theorem form_append (term : Term) (rest : List Char) :
    term.form ++ rest = term.word.opening ++ term.body rest := by
  cases term <;>
    simp [form, body, word, formArgs, render, quoted, Keyword.opening, Keyword.constructorName]

theorem form_append_inj {term term' : Term} {rest rest' : List Char}
    (same : term.form ++ rest = term'.form ++ rest') :
    term.word = term'.word ∧ term.body rest = term'.body rest' := by
  rw [form_append, form_append] at same
  exact Keyword.opening_append_inj same

theorem formArgs_nil_append (rest : List Char) : formArgs [] ++ rest = '[' :: ']' :: rest := by
  simp [formArgs, renderArgs, renderAll]

theorem formArgs_cons_append (first : Term) (more : List Term) (rest : List Char) :
    formArgs (first :: more) ++ rest =
      '[' :: (first.form ++ ((more.flatMap fun arg => ',' :: ' ' :: arg.form) ++ ']' :: rest)) := by
  have elements : (renderAll (first :: more)) = first.render :: more.map render :=
    renderAll_eq_map (first :: more)
  rw [formArgs, renderArgs, elements, String.toList_append, String.toList_append,
    toList_intercalate_cons, List.flatMap_map]
  simp [form]

/-- A closing bracket is not the beginning of an argument. -/
theorem form_append_ne (term : Term) (rest rest' : List Char) : term.form ++ rest ≠ ']' :: rest' := by
  rw [form_append]
  cases term <;> simp [word, Keyword.opening, Keyword.constructorName]

theorem formArgs_inj {args args' : List Term} {rest rest' : List Char}
    (each : ∀ arg ∈ args, Delimited form arg)
    (same : formArgs args ++ rest = formArgs args' ++ rest') : args = args' ∧ rest = rest' := by
  cases args with
  | nil =>
    cases args' with
    | nil =>
      rw [formArgs_nil_append, formArgs_nil_append] at same
      simpa using same
    | cons first' more' =>
      rw [formArgs_nil_append, formArgs_cons_append] at same
      exact absurd (List.cons.inj same).2.symm (first'.form_append_ne _ _)
  | cons first more =>
    cases args' with
    | nil =>
      rw [formArgs_nil_append, formArgs_cons_append] at same
      exact absurd (List.cons.inj same).2 (first.form_append_ne _ _)
    | cons first' more' =>
      rw [formArgs_cons_append, formArgs_cons_append] at same
      obtain ⟨head, later⟩ := List.forall_mem_cons.mp each
      obtain ⟨rfl, behind⟩ := head (List.cons.inj same).2
      obtain ⟨rfl, ended⟩ := tail_inj (by decide) later behind
      exact ⟨rfl, ended⟩

/-- The form of a term ends by itself. -/
theorem delimited_form (term : Term) : Delimited form term := by
  induction term using argInduction with
  | var name =>
    intro other rest rest' same
    obtain ⟨words, bodies⟩ := form_append_inj same
    cases other <;> cases words
    obtain ⟨names, ended⟩ := Quoted.delimited_literal _ bodies
    rw [String.toList_injective names]
    exact ⟨rfl, (List.cons.inj ended).2⟩
  | app symbol args each =>
    intro other rest rest' same
    obtain ⟨words, bodies⟩ := form_append_inj same
    cases other <;> cases words
    obtain ⟨symbols, behind⟩ := Quoted.delimited_literal _ bodies
    simp only [List.cons.injEq, true_and] at behind
    obtain ⟨rfl, ended⟩ := formArgs_inj each behind
    rw [String.toList_injective symbols]
    exact ⟨rfl, (List.cons.inj ended).2⟩

end Term

namespace Formula

/-- The characters of the constructor form of a formula. -/
def form (formula : Formula) : List Char :=
  formula.render.toList

/-- The reserved word of the root of a formula. -/
def word : Formula → Keyword
  | .constant value => .constant value
  | .atom _ _ => .relation
  | .negation _ => .negation
  | .connected op _ _ => .connective op
  | .quantified binder _ _ => .quantifier binder

/-- The characters behind the constructor of a formula, with more behind them. -/
def body (rest : List Char) : Formula → List Char
  | .constant _ => ')' :: rest
  | .atom name args =>
    Quoted.literal name.toList ++ ',' :: ' ' :: (Term.formArgs args ++ ')' :: rest)
  | .negation operand => operand.form ++ ')' :: rest
  | .connected _ left right => left.form ++ ',' :: ' ' :: (right.form ++ ')' :: rest)
  | .quantified _ name operand =>
    Quoted.literal name.toList ++ ',' :: ' ' :: (operand.form ++ ')' :: rest)

theorem form_append (formula : Formula) (rest : List Char) :
    formula.form ++ rest = formula.word.opening ++ formula.body rest := by
  cases formula with
  | constant value =>
    cases value <;> simp [form, body, word, render, Keyword.opening, Keyword.constructorName]
  | _ =>
    simp [form, body, word, render, quoted, Term.formArgs, Keyword.opening,
      Keyword.constructorName]

theorem form_append_inj {formula formula' : Formula} {rest rest' : List Char}
    (same : formula.form ++ rest = formula'.form ++ rest') :
    formula.word = formula'.word ∧ formula.body rest = formula'.body rest' := by
  rw [form_append, form_append] at same
  exact Keyword.opening_append_inj same

/-- The form of a formula ends by itself. -/
theorem delimited_form (formula : Formula) : Delimited form formula := by
  induction formula with
  | constant value =>
    intro other rest rest' same
    obtain ⟨words, bodies⟩ := form_append_inj same
    cases other <;> cases words
    exact ⟨rfl, (List.cons.inj bodies).2⟩
  | atom name args =>
    intro other rest rest' same
    obtain ⟨words, bodies⟩ := form_append_inj same
    cases other <;> cases words
    obtain ⟨names, behind⟩ := Quoted.delimited_literal _ bodies
    simp only [List.cons.injEq, true_and] at behind
    obtain ⟨rfl, ended⟩ := Term.formArgs_inj (fun arg _ => arg.delimited_form) behind
    rw [String.toList_injective names]
    exact ⟨rfl, (List.cons.inj ended).2⟩
  | negation operand ih =>
    intro other rest rest' same
    obtain ⟨words, bodies⟩ := form_append_inj same
    cases other <;> cases words
    obtain ⟨rfl, ended⟩ := ih bodies
    exact ⟨rfl, (List.cons.inj ended).2⟩
  | connected op left right onLeft onRight =>
    intro other rest rest' same
    obtain ⟨words, bodies⟩ := form_append_inj same
    cases other <;> cases words
    obtain ⟨rfl, behind⟩ := onLeft bodies
    simp only [List.cons.injEq, true_and] at behind
    obtain ⟨rfl, ended⟩ := onRight behind
    exact ⟨rfl, (List.cons.inj ended).2⟩
  | quantified binder name operand ih =>
    intro other rest rest' same
    obtain ⟨words, bodies⟩ := form_append_inj same
    cases other <;> cases words
    obtain ⟨names, behind⟩ := Quoted.delimited_literal _ bodies
    simp only [List.cons.injEq, true_and] at behind
    obtain ⟨rfl, ended⟩ := ih behind
    rw [String.toList_injective names]
    exact ⟨rfl, (List.cons.inj ended).2⟩

end Formula

namespace Expression

/-- The words of formulas are not those of terms. -/
theorem word_ne (formula : Formula) (term : Term) : formula.word ≠ term.word := by
  cases formula <;> cases term <;> nofun

theorem form_ne (formula : Formula) (term : Term) : formula.form ≠ term.form := by
  intro same
  rw [← List.append_nil formula.form, ← List.append_nil term.form, Formula.form_append,
    Term.form_append] at same
  exact word_ne formula term (Keyword.opening_append_inj same).1

theorem render_injective {a b : Expression} (same : a.render = b.render) : a = b := by
  cases a with
  | formula a =>
    cases b with
    | formula b =>
      have forms : a.form ++ [] = b.form ++ [] := congrArg (String.toList · ++ []) same
      rw [(a.delimited_form forms).1]
    | term b => exact absurd (congrArg String.toList same) (form_ne a b)
  | term a =>
    cases b with
    | formula b => exact absurd (congrArg String.toList same).symm (form_ne b a)
    | term b =>
      have forms : a.form ++ [] = b.form ++ [] := congrArg (String.toList · ++ []) same
      rw [(a.delimited_form forms).1]

/-- The constructor form identifies a formula or a term, whatever characters its names
are made of. -/
theorem render_eq_render_iff (a b : Expression) : a.render = b.render ↔ a = b :=
  ⟨render_injective, congrArg render⟩

end Expression

end FirstOrderText
