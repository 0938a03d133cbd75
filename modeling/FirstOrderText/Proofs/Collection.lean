import FirstOrderText.Collection
import FirstOrderText.Proofs.Formula.Printer
import FirstOrderText.Proofs.Formula.Subformulas
import Mathlib.Data.Finset.Card
import Mathlib.Data.Set.Card

/-! Runs of actions on a set. Whether an expression is held is decided by the last action
that affected it, and neither by what was there nor by how often it was put in. Distinct
expressions have distinct forms, so a listing shows each of those held once. -/
namespace FirstOrderText.Collection

namespace Action

/-- Whether an action is about an expression: about that expression itself, or about all
that occurs in a formula. Asking affects nothing. -/
def Affects (expression : Expression) : Action → Prop
  | .add subject | .discard subject => expression = subject
  | .has _ => False
  | .addSubformulas formula | .discardSubformulas formula =>
    ∃ part, expression = .formula part ∧ part.OccursIn formula

/-- Whether an action puts in what it affects. -/
def Inserts : Action → Prop
  | .add _ | .addSubformulas _ => True
  | .discard _ | .has _ | .discardSubformulas _ => False

end Action

/-- The last of some actions that affects an expression puts it in. -/
def Held (actions : List Action) (expression : Expression) : Prop :=
  ∃ front action back, actions = front ++ action :: back ∧ action.Inserts ∧
    action.Affects expression ∧ ∀ later ∈ back, ¬later.Affects expression

section
variable {collection : Collection} {expression : Expression} {action : Action}

theorem mem_foldl_insert (added : List Expression) :
    expression ∈ added.foldl insert collection ↔ expression ∈ added ∨ expression ∈ collection := by
  induction added generalizing collection with
  | nil => simp
  | cons first rest ih => rw [List.foldl_cons, ih, mem_insert, List.mem_cons, or_left_comm, or_assoc]

theorem mem_foldl_erase (removed : List Expression) :
    expression ∈ removed.foldl erase collection ↔
      expression ∉ removed ∧ expression ∈ collection := by
  induction removed generalizing collection with
  | nil => simp
  | cons first rest ih =>
    rw [List.foldl_cons, ih, mem_erase, List.mem_cons, not_or, and_left_comm, and_assoc]

theorem mem_affected_iff : expression ∈ action.affected ↔ action.Affects expression := by
  cases action with
  | add subject | discard subject => exact List.mem_singleton
  | has subject => simp [Action.affected, Action.Affects]
  | addSubformulas formula | discardSubformulas formula =>
    simp only [Action.affected, Action.Affects, List.mem_map, Formula.mem_subformulas_iff]
    exact exists_congr fun part => by rw [and_comm, eq_comm]

/-- What one action leaves: it decides about what it affects, and keeps all else. -/
theorem mem_perform : expression ∈ collection.perform action ↔
    action.Inserts ∧ action.Affects expression ∨
      ¬action.Affects expression ∧ expression ∈ collection := by
  rw [← mem_affected_iff]
  cases action with
  | add _ | addSubformulas _ =>
    rw [perform, mem_foldl_insert]
    simp only [Action.Inserts, true_and]
    tauto
  | discard _ | discardSubformulas _ =>
    rw [perform, mem_foldl_erase]
    simp only [Action.Inserts, false_and, false_or]
  | has _ => simp [perform, Action.Inserts, Action.affected]

theorem not_held_nil : ¬Held [] expression := by
  rintro ⟨front, action, back, split, _⟩
  simp at split

/-- One more action decides about what it affects, and keeps all else. -/
theorem held_concat (actions : List Action) : Held (actions ++ [action]) expression ↔
    action.Inserts ∧ action.Affects expression ∨
      ¬action.Affects expression ∧ Held actions expression := by
  constructor
  · rintro ⟨front, decisive, back, split, inserts, affects, undone⟩
    rcases back.eq_nil_or_concat' with rfl | ⟨back, last, rfl⟩
    · obtain ⟨_, same⟩ := List.append_inj' split rfl
      obtain rfl := List.singleton_inj.mp same
      exact Or.inl ⟨inserts, affects⟩
    · rw [← List.cons_append, ← List.append_assoc] at split
      obtain ⟨earlier, same⟩ := List.append_inj' split rfl
      obtain rfl := List.singleton_inj.mp same
      obtain ⟨undone, apart⟩ := List.forall_mem_append.mp undone
      exact Or.inr ⟨apart action List.mem_cons_self, front, decisive, back, earlier, inserts,
        affects, undone⟩
  · rintro (⟨inserts, affects⟩ | ⟨apart, front, decisive, back, rfl, inserts, affects, undone⟩)
    · exact ⟨actions, action, [], rfl, inserts, affects, List.forall_mem_nil _⟩
    · refine ⟨front, decisive, back ++ [action], by simp, inserts, affects, ?_⟩
      exact List.forall_mem_append.mpr ⟨undone, List.forall_mem_singleton.mpr apart⟩

/-- A run that begins with the empty set holds what the last action on it put in. -/
theorem mem_foldl_perform (actions : List Action) :
    expression ∈ actions.foldl perform empty ↔ Held actions expression := by
  induction actions using List.reverseRecOn with
  | nil => simp [not_held_nil]
  | append_singleton actions action ih =>
    rw [List.foldl_append, List.foldl_cons, List.foldl_nil, mem_perform, held_concat, ih]

end

/-- The size of a set is the number of its elements. -/
theorem encard_eq_size (collection : Collection) :
    {expression | expression ∈ collection}.encard = collection.size := by
  have elements : {expression | expression ∈ collection} = ↑collection.elements.toFinset :=
    (List.coe_toFinset collection.elements).symm
  rw [elements, Set.encard_coe_eq_coe_finsetCard,
    List.toFinset_card_of_nodup collection.nodup, size]

theorem mem_listing_iff {collection : Collection} {text : String} :
    text ∈ collection.listing ↔ ∃ expression ∈ collection, expression.render = text := by
  rw [listing, mem_ascending, List.mem_map]
  rfl

/-- No two elements share a form, so that none is lost in a listing. -/
theorem length_listing (collection : Collection) : collection.listing.length = collection.size := by
  have distinct : (collection.elements.map Expression.render).Nodup :=
    collection.nodup.map fun _ _ => Expression.render_injective
  have same : (collection.elements.map Expression.render).Perm collection.listing :=
    (List.perm_ext_iff_of_nodup distinct (nodup_ascending _)).mpr fun _ => mem_ascending.symm
  rw [← same.length_eq, List.length_map, size]

theorem performAll_snd (collection : Collection) (actions : List Action) :
    (collection.performAll actions).2 = actions.foldl perform collection := by
  induction actions generalizing collection with
  | nil => rfl
  | cons action rest ih => exact ih _

theorem length_performAll (collection : Collection) (actions : List Action) :
    (collection.performAll actions).1.length = actions.length := by
  induction actions generalizing collection with
  | nil => rfl
  | cons action rest ih => simp only [performAll, List.length_cons, ih]

/-- Each answer is about the set that the actions before it left. -/
theorem getElem?_performAll (collection : Collection) (front back : List Action)
    (action : Action) : (collection.performAll (front ++ action :: back)).1[front.length]? =
      some ⟨action.subject ∈ front.foldl perform collection,
        ((front.foldl perform collection).perform action).size⟩ := by
  induction front generalizing collection with
  | nil => rfl
  | cons first front ih =>
    simp only [List.cons_append, performAll, List.length_cons, List.getElem?_cons_succ]
    exact ih _

/-- A run on the empty set answers by what the actions so far put in and took out. An
expression is reported present when the last action that affected it put it in, the size is
the number of expressions of which that is true, and in the end their forms are listed, in
strictly ascending order and as many as there are expressions. -/
theorem performAll_answers_held (actions : List Action) :
    let (answers, final) := empty.performAll actions
    answers.length = actions.length ∧
      (∀ front action back, actions = front ++ action :: back → ∃ answer : Answer,
        answers[front.length]? = some answer ∧
          (answer.present = true ↔ Held front action.subject) ∧
          {expression | Held (front ++ [action]) expression}.encard = answer.size) ∧
      final.listing.Pairwise (· < ·) ∧
      {expression | Held actions expression}.encard = final.listing.length ∧
      ∀ text, text ∈ final.listing ↔ ∃ expression, Held actions expression ∧
        expression.render = text := by
  have counted (actions : List Action) : {expression | Held actions expression}.encard =
      (actions.foldl perform empty).size := by
    simp only [← mem_foldl_perform, encard_eq_size]
  have ended := performAll_snd empty actions
  refine ⟨length_performAll _ _, ?_, pairwise_ascending _, ?_, ?_⟩
  · rintro front action back rfl
    refine ⟨_, getElem?_performAll _ _ _ _, ?_, ?_⟩
    · rw [decide_eq_true_iff, mem_foldl_perform]
    · rw [counted, List.foldl_append, List.foldl_cons, List.foldl_nil]
  · rw [length_listing, ended, counted]
  · intro text
    rw [mem_listing_iff, ended]
    simp only [mem_foldl_perform]

end FirstOrderText.Collection
