import FirstOrderText.Formula.Subformulas
import Mathlib.Data.List.Perm.Subperm
import Mathlib.Data.List.Sort
import Mathlib.Data.String.Basic
import Mathlib.Order.Bounds.Basic

/-! What the analyses of a formula list. The subformulas are the formulas at its
positions, which are those that occur in it, and a list of names in ascending order
holds the names that it was made from, each once. Occurring in a formula is a partial
order, and the subformulas are the least set that goes down from the formula. -/
namespace FirstOrderText

/-- Dropping repetitions leaves none. -/
theorem nodup_eraseDups {α : Type} [BEq α] [LawfulBEq α] (values : List α) :
    values.eraseDups.Nodup := by
  cases values with
  | nil => exact List.nodup_nil
  | cons first rest =>
    rw [List.eraseDups_cons, List.nodup_cons]
    refine ⟨?_, nodup_eraseDups _⟩
    intro again
    have other := (List.mem_filter.mp (List.mem_eraseDups.mp again)).2
    simp at other
termination_by values.length
decreasing_by
  have := List.length_filter_le (fun value => !value == first) rest
  simp only [List.length_cons]
  omega

@[simp] theorem mem_ascending {text : String} {texts : List String} :
    text ∈ ascending texts ↔ text ∈ texts := by
  rw [ascending, List.mem_mergeSort, List.mem_eraseDups]

theorem nodup_ascending (texts : List String) : (ascending texts).Nodup :=
  (nodup_eraseDups texts).mergeSort

/-- An ascending list has no two equal neighbours. -/
theorem pairwise_ascending (texts : List String) : (ascending texts).Pairwise (· < ·) := by
  have sorted : (ascending texts).Pairwise (· ≤ ·) := List.pairwise_mergeSort' (· ≤ ·) _
  apply (sorted.and (nodup_ascending texts)).imp
  rintro a b ⟨below, differ⟩
  exact lt_of_le_of_ne below differ

namespace Formula

variable {part formula : Formula}

/-- What repeats is listed once, but it is listed. -/
theorem mem_subformulas_iff_mem_positions :
    part ∈ formula.subformulas ↔ part ∈ formula.positions := by
  induction formula with
  | constant _ | atom _ _ => exact Iff.rfl
  | negation _ ih | quantified _ _ _ ih => simp only [subformulas, positions, List.mem_cons, ih]
  | connected op left right onLeft onRight =>
    simp only [subformulas, positions, List.mem_cons, List.mem_append, List.mem_filter,
      decide_eq_true_eq, ← onLeft, ← onRight]
    apply or_congr_right
    by_cases inLeft : part ∈ left.subformulas <;> simp [inLeft]

theorem occursIn_iff : part.OccursIn formula ↔
    part = formula ∨ ∃ operand ∈ formula.operands, part.OccursIn operand := by
  constructor
  · intro occurs
    cases occurs with
    | whole => exact Or.inl rfl
    | inside below deeper => exact Or.inr ⟨_, below, deeper⟩
  · rintro (rfl | ⟨operand, below, deeper⟩)
    · exact .whole
    · exact .inside below deeper

/-- The subformulas of a formula are those that occur in it. -/
theorem mem_subformulas_iff : part ∈ formula.subformulas ↔ part.OccursIn formula := by
  rw [mem_subformulas_iff_mem_positions]
  induction formula with
  | constant _ | atom _ _ =>
    rw [positions, List.mem_singleton, occursIn_iff]
    simp [operands]
  | negation _ ih | quantified _ _ _ ih =>
    rw [positions, List.mem_cons, occursIn_iff, ih]
    simp [operands]
  | connected _ _ _ onLeft onRight =>
    rw [positions, List.mem_cons, List.mem_append, occursIn_iff, onLeft, onRight]
    simp [operands]

/-- What occurs in a part of a formula occurs in the formula. -/
theorem OccursIn.trans {inner : Formula} (deep : inner.OccursIn part)
    (occurs : part.OccursIn formula) : inner.OccursIn formula := by
  induction occurs with
  | whole => exact deep
  | inside below _ ih => exact .inside below ih

theorem OccursIn.operand {operand : Formula} (occurs : part.OccursIn formula)
    (below : operand ∈ part.operands) : operand.OccursIn formula :=
  (OccursIn.inside below .whole).trans occurs

theorem size_lt_of_mem_operands {operand : Formula} (below : operand ∈ formula.operands) :
    operand.size < formula.size := by
  cases formula with
  | constant _ | atom _ _ => cases below
  | negation _ | quantified _ _ _ =>
    obtain rfl := List.mem_singleton.mp below
    exact Nat.lt_succ_self _
  | connected _ left right =>
    rw [size]
    rcases List.mem_pair.mp below with rfl | rfl <;> omega

/-- A formula is larger than all others that occur in it. -/
theorem OccursIn.eq_or_size_lt (occurs : part.OccursIn formula) :
    part = formula ∨ part.size < formula.size := by
  induction occurs with
  | whole => exact Or.inl rfl
  | inside below _ ih =>
    have smaller := size_lt_of_mem_operands below
    rcases ih with rfl | deeper
    · exact Or.inr smaller
    · exact Or.inr (deeper.trans smaller)

theorem OccursIn.antisymm (occurs : part.OccursIn formula) (back : formula.OccursIn part) :
    part = formula := by
  rcases occurs.eq_or_size_lt with same | smaller
  · exact same
  · rcases back.eq_or_size_lt with same | larger
    · exact same.symm
    · exact absurd larger smaller.asymm

/-- A set of formulas goes down when it holds the operands of each of its members. -/
def GoesDown (formulas : Set Formula) : Prop :=
  ∀ member ∈ formulas, ∀ operand ∈ member.operands, operand ∈ formulas

theorem GoesDown.mem_of_occursIn {formulas : Set Formula} (down : GoesDown formulas)
    (occurs : part.OccursIn formula) (member : formula ∈ formulas) : part ∈ formulas := by
  induction occurs with
  | whole => exact member
  | inside below _ ih => exact ih (down _ member _ below)

/-- Being a subformula is a partial order: it is reflexive, transitive and antisymmetric.
The subformulas of a formula are the least set that holds the formula and goes down. -/
theorem subformulas_order (formula : Formula) :
    formula ∈ formula.subformulas ∧
    (∀ part ∈ formula.subformulas, part.subformulas ⊆ formula.subformulas) ∧
    (∀ other, formula ∈ other.subformulas → other ∈ formula.subformulas → formula = other) ∧
    IsLeast {formulas : Set Formula | formula ∈ formulas ∧ GoesDown formulas}
      {part | part ∈ formula.subformulas} := by
  simp only [List.subset_def, mem_subformulas_iff]
  refine ⟨.whole, ?_, ?_, ⟨.whole, ?_⟩, ?_⟩
  · intro part occurs inner deep
    exact deep.trans occurs
  · intro other occurs back
    exact occurs.antisymm back
  · intro part occurs operand below
    exact occurs.operand below
  · rintro formulas ⟨member, down⟩ part occurs
    exact down.mem_of_occursIn occurs member

theorem subformulas_order_shared :
    let part := Formula.quantified .universal "x" (.constant true)
    let whole := Formula.connected .implication part (.negation part)
    part ∈ whole.subformulas ∧ part.subformulas ⊆ whole.subformulas ∧
      whole.subformulas = [whole, part, .constant true, .negation part] := by
  intro part whole
  have member : part ∈ whole.subformulas := by decide
  exact ⟨member, (subformulas_order whole).2.1 part member, by decide⟩

/-! How many subformulas a formula has. The formulas on a way down grow smaller from one to
the next, so that all of them count. No more count than there are positions, and as many do
exactly when no formula stands at two of them. -/

variable {formula : Formula}

/-- A way down from a formula: each formula on it is an operand of the one before, and the
last has none. -/
inductive IsPath : Formula → List Formula → Prop where
  | leaf {formula : Formula} (last : formula.operands = []) : IsPath formula [formula]
  | inside {formula operand : Formula} {path : List Formula} (below : operand ∈ formula.operands)
      (further : IsPath operand path) : IsPath formula (formula :: path)

/-- What a way down leads through occurs in the formula. -/
theorem IsPath.occursIn {path : List Formula} (leads : IsPath formula path) {part : Formula}
    (through : part ∈ path) : part.OccursIn formula := by
  induction leads with
  | leaf _ =>
    obtain rfl := List.mem_singleton.mp through
    exact .whole
  | inside below _ ih =>
    rcases List.mem_cons.mp through with rfl | through
    · exact .whole
    · exact .inside below (ih through)

/-- A way down never leads through one formula twice, since each is larger than all behind. -/
theorem IsPath.nodup {path : List Formula} (leads : IsPath formula path) : path.Nodup := by
  induction leads with
  | leaf _ => exact List.nodup_singleton _
  | @inside formula operand path below further ih =>
    refine List.nodup_cons.mpr ⟨fun again => ?_, ih⟩
    have smaller := size_lt_of_mem_operands below
    rcases (further.occursIn again).eq_or_size_lt with rfl | larger
    · exact smaller.ne rfl
    · exact larger.asymm smaller

theorem IsPath.length_le_height {path : List Formula} (leads : IsPath formula path) :
    path.length ≤ formula.height := by
  induction leads with
  | @leaf formula _ => cases formula <;> simp [height]
  | @inside formula operand path below _ ih =>
    cases formula with
    | constant _ | atom _ _ => cases below
    | negation _ | quantified _ _ _ =>
      obtain rfl := List.mem_singleton.mp below
      exact Nat.succ_le_succ ih
    | connected _ left right =>
      rw [List.length_cons, height]
      rcases List.mem_pair.mp below with rfl | rfl <;> omega

/-- Some way down is as long as the formula is high. -/
theorem exists_path_of_height (formula : Formula) :
    ∃ path, IsPath formula path ∧ path.length = formula.height := by
  induction formula with
  | constant _ | atom _ _ => exact ⟨_, .leaf rfl, rfl⟩
  | negation operand ih | quantified _ _ operand ih =>
    obtain ⟨path, leads, long⟩ := ih
    exact ⟨_, .inside (List.mem_singleton_self _) leads, congrArg Nat.succ long⟩
  | connected op left right onLeft onRight =>
    rcases Nat.le_total right.height left.height with lower | lower
    · obtain ⟨path, leads, long⟩ := onLeft
      refine ⟨_, .inside List.mem_cons_self leads, ?_⟩
      rw [List.length_cons, height, long, Nat.max_eq_left lower]
    · obtain ⟨path, leads, long⟩ := onRight
      refine ⟨_, .inside (List.mem_cons_of_mem _ List.mem_cons_self) leads, ?_⟩
      rw [List.length_cons, height, long, Nat.max_eq_right lower]

/-- The height of a formula is the length of its longest way down. -/
theorem isGreatest_height (formula : Formula) :
    IsGreatest {n | ∃ path, IsPath formula path ∧ path.length = n} formula.height := by
  refine ⟨exists_path_of_height formula, ?_⟩
  rintro _ ⟨path, leads, rfl⟩
  exact leads.length_le_height

/-- Every formula on a way down is a subformula of its own. -/
theorem IsPath.length_le {path : List Formula} (leads : IsPath formula path) :
    path.length ≤ formula.subformulas.length := by
  have listed : path ⊆ formula.subformulas := fun _ through =>
    mem_subformulas_iff.mpr (leads.occursIn through)
  exact (leads.nodup.subperm listed).length_le

/-- The subformulas are found among the formulas at the positions, each once. -/
theorem subformulas_subperm_positions (formula : Formula) :
    formula.subformulas.Subperm formula.positions :=
  (nodup_subformulas formula).subperm fun _ => mem_subformulas_iff_mem_positions.mp

theorem length_subformulas_eq_iff :
    formula.subformulas.length = formula.positions.length ↔ formula.positions.Nodup := by
  constructor
  · intro same
    have arranged := (subformulas_subperm_positions formula).perm_of_length_le same.ge
    exact arranged.nodup_iff.mp (nodup_subformulas formula)
  · intro apart
    have back : formula.positions.Subperm formula.subformulas :=
      apart.subperm fun _ => mem_subformulas_iff_mem_positions.mpr
    exact (subformulas_subperm_positions formula).length_le.antisymm back.length_le

/-- The subformulas of a formula, each listed once, are at least as many as the formulas on
its longest way down and at most as many as its positions. They are as many as those exactly
when no two positions hold the same formula. -/
theorem subformulas_counted (formula : Formula) :
    formula.subformulas.Nodup ∧
    IsGreatest {n | ∃ path, IsPath formula path ∧ path.length = n} formula.height ∧
    formula.height ≤ formula.subformulas.length ∧
    formula.subformulas.length ≤ formula.positions.length ∧
    (formula.subformulas.length = formula.positions.length ↔ formula.positions.Nodup) := by
  obtain ⟨path, leads, long⟩ := exists_path_of_height formula
  refine ⟨nodup_subformulas formula, isGreatest_height formula, ?_,
    (subformulas_subperm_positions formula).length_le, length_subformulas_eq_iff⟩
  rw [← long]
  exact leads.length_le

end Formula

end FirstOrderText
