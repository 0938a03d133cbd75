import FirstOrderText.Expression
import FirstOrderText.Tree

/-! When values are the same. Terms, formulas and trees are compared by their structure: two of
them are the same when they are made by one constructor from the same names and the same parts
in the same order. A formula is never a term. -/
namespace FirstOrderText

namespace Term

mutual

/-- Equality of terms is structural: the symbol, and the arguments in order. -/
def decEq : (a b : Term) → Decidable (a = b)
  | .var name, .var name' =>
    if same : name = name' then isTrue (by rw [same])
    else isFalse fun equal => same (by injection equal)
  | .app symbol args, .app symbol' args' =>
    if head : symbol = symbol' then
      match decEqAll args args' with
      | isTrue same => isTrue (by rw [head, same])
      | isFalse differ => isFalse fun equal => differ (by injection equal)
    else isFalse fun equal => head (by injection equal)
  | .var _, .app _ _ => isFalse (by simp)
  | .app _ _, .var _ => isFalse (by simp)

/-- Equality of lists of terms, term by term. -/
def decEqAll : (as bs : List Term) → Decidable (as = bs)
  | [], [] => isTrue rfl
  | [], _ :: _ => isFalse (by simp)
  | _ :: _, [] => isFalse (by simp)
  | a :: as, b :: bs =>
    match decEq a b with
    | isFalse differ => isFalse fun same => differ (List.cons.inj same).1
    | isTrue head =>
      match decEqAll as bs with
      | isTrue tail => isTrue (by rw [head, tail])
      | isFalse differ => isFalse fun same => differ (List.cons.inj same).2

end

instance : DecidableEq Term := decEq

end Term

namespace Formula

/-- Whether two formulas are the same, constructor by constructor. Formulas of different
connectives or of different quantifiers differ, whatever they hold. -/
def same : Formula → Formula → Bool
  | .constant value, .constant value' => value == value'
  | .atom name args, .atom name' args' => name == name' && decide (args = args')
  | .negation operand, .negation operand' => operand.same operand'
  | .connected op left right, .connected op' left' right' =>
    op == op' && left.same left' && right.same right'
  | .quantified binder name body, .quantified binder' name' body' =>
    binder == binder' && name == name' && body.same body'
  | _, _ => false

/-- The comparison of formulas decides equality. -/
theorem same_iff {formula other : Formula} : formula.same other = true ↔ formula = other := by
  induction formula generalizing other with
  | constant value | atom name args => cases other <;> simp [same]
  | negation operand ih | quantified binder name body ih =>
    cases other <;> simp [same, ih, and_assoc]
  | connected op left right onLeft onRight =>
    cases other <;> simp [same, onLeft, onRight, and_assoc]

instance : DecidableEq Formula := fun _ _ => decidable_of_iff _ same_iff

end Formula

namespace Expression

/-- Whether two expressions are the same. -/
def same : Expression → Expression → Bool
  | .formula value, .formula value' => value.same value'
  | .term value, .term value' => decide (value = value')
  | _, _ => false

theorem same_iff {expression other : Expression} :
    expression.same other = true ↔ expression = other := by
  cases expression <;> cases other <;> simp [same, Formula.same_iff]

instance : DecidableEq Expression := fun _ _ => decidable_of_iff _ same_iff

end Expression

namespace Tree

mutual

/-- Equality of trees is decided node by node. -/
def decEq : (a b : Tree) → Decidable (a = b)
  | .node label text children, .node label' text' children' =>
    if heads : label = label' ∧ text = text' then
      match decEqAll children children' with
      | isTrue same => isTrue (by rw [heads.1, heads.2, same])
      | isFalse differ => isFalse fun same => differ (by injection same)
    else isFalse fun same => heads (by injection same with l t; exact ⟨l, t⟩)

/-- Equality of lists of trees, tree by tree. -/
def decEqAll : (as bs : List Tree) → Decidable (as = bs)
  | [], [] => isTrue rfl
  | [], _ :: _ => isFalse (by simp)
  | _ :: _, [] => isFalse (by simp)
  | a :: as, b :: bs =>
    match decEq a b with
    | isFalse differ => isFalse fun same => differ (List.cons.inj same).1
    | isTrue head =>
      match decEqAll as bs with
      | isTrue tail => isTrue (by rw [head, tail])
      | isFalse differ => isFalse fun same => differ (List.cons.inj same).2

end

instance : DecidableEq Tree := decEq

end Tree

/-- Every value of a list beside every other. -/
structure Comparison where
  equal : List (List Bool)
  distinct : Nat
  deriving DecidableEq

/-- The comparison of a list of values with itself. -/
def Comparison.among {α : Type} [DecidableEq α] (values : List α) : Comparison where
  equal := values.map fun a => values.map fun b => decide (a = b)
  distinct := values.eraseDups.length

end FirstOrderText
