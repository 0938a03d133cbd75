import FirstOrderText.Comparison

/-! The subformulas of a formula, each listed once, and the names found among
them. Nothing here tells bound occurrences from free ones. -/
namespace FirstOrderText

/-- A duplicate-free list in ascending order of code points. -/
def ascending (texts : List String) : List String :=
  texts.eraseDups.mergeSort fun a b => decide (a ≤ b)

/-- The variables of a term, each once. -/
def Term.distinctVariables (term : Term) : List String :=
  ascending term.varNames

namespace Formula

/-- One formula occurs in another as the whole or inside one of its operands. -/
inductive OccursIn (part : Formula) : Formula → Prop where
  | whole : OccursIn part part
  | inside {formula operand : Formula} (below : operand ∈ formula.operands)
      (deeper : OccursIn part operand) : OccursIn part formula

/-- The subformulas of a formula, the formula itself first, without repetition.
A formula is larger than all others in the list, so only the two sides of a
connective can repeat each other. -/
def subformulas : Formula → List Formula
  | .constant value => [.constant value]
  | .atom name args => [.atom name args]
  | .negation operand => .negation operand :: operand.subformulas
  | .connected op left right =>
    .connected op left right ::
      (left.subformulas ++ right.subformulas.filter fun part => part ∉ left.subformulas)
  | .quantified binder name body => .quantified binder name body :: body.subformulas

/-- The relation symbol of an atom. -/
def relationName? : Formula → Option String
  | .atom name _ => some name
  | _ => none

/-- The variable that a quantifier binds. -/
def boundName? : Formula → Option String
  | .quantified _ name _ => some name
  | _ => none

/-- The variables among the arguments of an atom. -/
def argumentVariables : Formula → List String
  | .atom _ args => args.flatMap Term.varNames
  | _ => []

/-- The relation symbols of a formula. -/
def relationNames (formula : Formula) : List String :=
  ascending (formula.subformulas.filterMap relationName?)

/-- The variables that occur as or inside arguments of relations. -/
def termVariables (formula : Formula) : List String :=
  ascending (formula.subformulas.flatMap argumentVariables)

/-- The variables that some quantifier binds. -/
def quantifiedVariables (formula : Formula) : List String :=
  ascending (formula.subformulas.filterMap boundName?)

/-- A listed formula is no larger than the whole. -/
theorem size_le_of_mem_subformulas {part formula : Formula} (member : part ∈ formula.subformulas) :
    part.size ≤ formula.size := by
  induction formula with
  | constant _ | atom _ _ =>
    obtain rfl := List.mem_singleton.mp member
    exact Nat.le_refl _
  | negation operand ih =>
    rcases List.mem_cons.mp member with rfl | below
    · exact Nat.le_refl _
    · exact Nat.le_succ_of_le (ih below)
  | quantified binder name body ih =>
    rcases List.mem_cons.mp member with rfl | below
    · exact Nat.le_refl _
    · exact Nat.le_succ_of_le (ih below)
  | connected op left right onLeft onRight =>
    rcases List.mem_cons.mp member with rfl | below
    · exact Nat.le_refl _
    · simp only [size]
      rcases List.mem_append.mp below with below | below
      · have := onLeft below
        omega
      · have := onRight (List.mem_filter.mp below).1
        omega

theorem nodup_subformulas (formula : Formula) : formula.subformulas.Nodup := by
  induction formula with
  | constant _ | atom _ _ => simp [subformulas]
  | negation operand ih =>
    refine List.nodup_cons.mpr ⟨fun member => ?_, ih⟩
    have := size_le_of_mem_subformulas member
    simp only [size] at this
    omega
  | quantified binder name body ih =>
    refine List.nodup_cons.mpr ⟨fun member => ?_, ih⟩
    have := size_le_of_mem_subformulas member
    simp only [size] at this
    omega
  | connected op left right onLeft onRight =>
    refine List.nodup_cons.mpr ⟨fun member => ?_, ?_⟩
    · rcases List.mem_append.mp member with below | below
      · have := size_le_of_mem_subformulas below
        simp only [size] at this
        omega
      · have := size_le_of_mem_subformulas (List.mem_filter.mp below).1
        simp only [size] at this
        omega
    · refine List.nodup_append.mpr ⟨onLeft, onRight.filter _, fun a inLeft b inRight same => ?_⟩
      subst same
      have fresh := (List.mem_filter.mp inRight).2
      simp [inLeft] at fresh

end Formula

end FirstOrderText
