/-! Computations that may fail. One that is made of others comes to a value when they
do, and a list of them fails where its first failure is. -/
namespace FirstOrderText

variable {ε α β : Type}

theorem map_eq_ok_iff {result : Except ε α} {made : α → β} {b : β} :
    result.map made = .ok b ↔ ∃ a, result = .ok a ∧ b = made a := by
  cases result with
  | error fault => simp [Except.map]
  | ok a =>
    constructor
    · intro same
      exact ⟨a, rfl, (Except.ok.inj same).symm⟩
    · rintro ⟨_, same, rfl⟩
      rw [← Except.ok.inj same]
      rfl

theorem map_eq_error_iff {result : Except ε α} {made : α → β} {fault : ε} :
    result.map made = .error fault ↔ result = .error fault := by
  cases result <;> simp [Except.map]

theorem bind_eq_ok_iff {result : Except ε α} {next : α → Except ε β} {b : β} :
    result.bind next = .ok b ↔ ∃ a, result = .ok a ∧ next a = .ok b := by
  cases result <;> simp [Except.bind]

theorem bind_eq_error_iff {result : Except ε α} {next : α → Except ε β} {fault : ε} :
    result.bind next = .error fault ↔
      result = .error fault ∨ ∃ a, result = .ok a ∧ next a = .error fault := by
  cases result <;> simp [Except.bind]

section
variable {compute : α → Except ε β}

theorem mapM_cons_eq_bind (a : α) (rest : List α) : (a :: rest).mapM compute =
    (compute a).bind fun b => (rest.mapM compute).map (b :: ·) := by
  rw [List.mapM_cons]
  cases compute a with
  | error fault => rfl
  | ok b => cases rest.mapM compute <;> rfl

theorem mapM_append_eq_bind (front back : List α) : (front ++ back).mapM compute =
    (front.mapM compute).bind fun firsts => (back.mapM compute).map (firsts ++ ·) := by
  rw [List.mapM_append]
  cases front.mapM compute with
  | error fault => rfl
  | ok firsts => cases back.mapM compute <;> rfl

theorem mapM_map_congr {change : α → α} {items : List α}
    (same : ∀ a ∈ items, compute (change a) = compute a) :
    (items.map change).mapM compute = items.mapM compute := by
  induction items with
  | nil => rfl
  | cons a rest ih =>
    rw [List.map_cons, mapM_cons_eq_bind, mapM_cons_eq_bind, same a List.mem_cons_self,
      ih fun a member => same a (List.mem_cons_of_mem _ member)]

theorem mapM_singleton_eq_ok_iff {a : α} {values : List β} :
    [a].mapM compute = .ok values ↔ ∃ b, compute a = .ok b ∧ values = [b] := by
  rw [mapM_cons_eq_bind, bind_eq_ok_iff]
  constructor
  · rintro ⟨b, computed, same⟩
    exact ⟨b, computed, (Except.ok.inj same).symm⟩
  · rintro ⟨b, computed, rfl⟩
    exact ⟨b, computed, rfl⟩

theorem mapM_pair_eq_ok_iff {a a' : α} {values : List β} :
    [a, a'].mapM compute = .ok values ↔
      ∃ b b', compute a = .ok b ∧ compute a' = .ok b' ∧ values = [b, b'] := by
  rw [mapM_cons_eq_bind, bind_eq_ok_iff]
  simp only [map_eq_ok_iff, mapM_singleton_eq_ok_iff]
  constructor
  · rintro ⟨b, first, _, ⟨b', second, rfl⟩, rfl⟩
    exact ⟨b, b', first, second, rfl⟩
  · rintro ⟨b, b', first, second, rfl⟩
    exact ⟨b, first, _, ⟨b', second, rfl⟩, rfl⟩

/-- A list of computations fails as one of them does. -/
theorem exists_of_mapM_eq_error {items : List α} {fault : ε}
    (failed : items.mapM compute = .error fault) : ∃ a ∈ items, compute a = .error fault := by
  induction items with
  | nil => cases failed
  | cons a rest ih =>
    rw [mapM_cons_eq_bind] at failed
    rcases bind_eq_error_iff.mp failed with here | ⟨b, _, later⟩
    · exact ⟨a, List.mem_cons_self, here⟩
    · obtain ⟨a', member, there⟩ := ih (map_eq_error_iff.mp later)
      exact ⟨a', List.mem_cons_of_mem _ member, there⟩

theorem mapM_attach_val (items : List α) :
    (items.attach.mapM fun item => compute item.val) = items.mapM compute := by
  change items.attach.mapM (compute ∘ Subtype.val) = items.mapM compute
  rw [← List.mapM_map, List.attach_map_subtype_val]

theorem length_of_mapM {items : List α} {values : List β}
    (computed : items.mapM compute = .ok values) : values.length = items.length := by
  induction items generalizing values with
  | nil =>
    cases computed
    rfl
  | cons a rest ih =>
    rw [mapM_cons_eq_bind] at computed
    obtain ⟨b, _, computed⟩ := bind_eq_ok_iff.mp computed
    obtain ⟨values, later, rfl⟩ := map_eq_ok_iff.mp computed
    rw [List.length_cons, List.length_cons, ih later]

end

end FirstOrderText
