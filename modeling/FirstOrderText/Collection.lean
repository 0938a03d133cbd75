import FirstOrderText.Formula.Subformulas

/-! Sets of formulas and terms. Two expressions are the same element exactly when
they have the same structure, so a set is a list without repetition. -/
namespace FirstOrderText

/-- A finite set of expressions. -/
structure Collection where
  elements : List Expression
  nodup : elements.Nodup

namespace Collection

instance : Membership Expression Collection :=
  ⟨fun collection expression => expression ∈ collection.elements⟩

theorem mem_def {expression : Expression} {collection : Collection} :
    expression ∈ collection ↔ expression ∈ collection.elements := Iff.rfl

instance (expression : Expression) (collection : Collection) :
    Decidable (expression ∈ collection) :=
  inferInstanceAs (Decidable (expression ∈ collection.elements))

/-- The set without elements. -/
def empty : Collection := ⟨[], List.nodup_nil⟩

/-- The number of distinct elements. -/
def size (collection : Collection) : Nat :=
  collection.elements.length

/-- Adds an element, unless it is already there. -/
def insert (collection : Collection) (expression : Expression) : Collection :=
  if absent : expression ∉ collection.elements then
    ⟨expression :: collection.elements, List.nodup_cons.mpr ⟨absent, collection.nodup⟩⟩
  else collection

/-- Removes an element, if it is there. -/
def erase (collection : Collection) (expression : Expression) : Collection :=
  ⟨collection.elements.filter (· ≠ expression), collection.nodup.filter _⟩

@[simp] theorem not_mem_empty (expression : Expression) : expression ∉ empty :=
  List.not_mem_nil

@[simp] theorem mem_insert {collection : Collection} {added expression : Expression} :
    expression ∈ collection.insert added ↔ expression = added ∨ expression ∈ collection := by
  simp only [insert, mem_def]
  split
  · exact List.mem_cons
  · rename_i present
    have present := Decidable.not_not.mp present
    exact ⟨.inr, fun either => either.elim (fun same => same ▸ present) id⟩

@[simp] theorem mem_erase {collection : Collection} {removed expression : Expression} :
    expression ∈ collection.erase removed ↔ expression ≠ removed ∧ expression ∈ collection := by
  simp [erase, mem_def, and_comm]

/-- The set of a list of expressions. -/
def ofList (expressions : List Expression) : Collection :=
  expressions.foldl insert empty

/-- What can be done to a set, or asked of it, with one expression at a time. A
term has no subformulas. -/
inductive Action where
  | add (expression : Expression)
  | discard (expression : Expression)
  | has (expression : Expression)
  | addSubformulas (formula : Formula)
  | discardSubformulas (formula : Formula)

namespace Action

/-- The expression that an action is about. -/
def subject : Action → Expression
  | .add expression | .discard expression | .has expression => expression
  | .addSubformulas formula | .discardSubformulas formula => .formula formula

/-- The expressions that an action puts in or takes out. -/
def affected : Action → List Expression
  | .add expression | .discard expression => [expression]
  | .has _ => []
  | .addSubformulas formula | .discardSubformulas formula =>
    formula.subformulas.map .formula

end Action

/-- The set after an action. -/
def perform (collection : Collection) (action : Action) : Collection :=
  match action with
  | .add _ | .addSubformulas _ => action.affected.foldl insert collection
  | .discard _ | .discardSubformulas _ => action.affected.foldl erase collection
  | .has _ => collection

/-- What an action answers: whether its subject was there before it, and how many
elements there are after it. -/
structure Answer where
  present : Bool
  size : Nat
  deriving DecidableEq

/-- The answers to a sequence of actions, and the set after the last. -/
def performAll (collection : Collection) : List Action → List Answer × Collection
  | [] => ([], collection)
  | action :: rest =>
    let after := collection.perform action
    let (answers, final) := after.performAll rest
    (⟨action.subject ∈ collection, after.size⟩ :: answers, final)

/-- The constructor forms of the elements, in ascending order. -/
def listing (collection : Collection) : List String :=
  ascending (collection.elements.map Expression.render)

end Collection

end FirstOrderText
