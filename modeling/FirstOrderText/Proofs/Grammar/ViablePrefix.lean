import FirstOrderText.Proofs.Grammar.Reading

/-! Which token lists can go on to a sentence. The goals that are left behind some
tokens decide what may still follow, and every stack of goals that can be reached is
completed by some tokens: a term list on it is always followed by its closing
bracket. So tokens that meet the goals are viable, and the first token that meets
none of them continues no sentence. -/
namespace FirstOrderText.Grammar

section

open FirstOrderText.Tree (Event)

/-- Stacks on which every term list is followed by its closing bracket. -/
inductive Steady : List Goal → Prop where
  | nil : Steady []
  | terms {goals : List Goal} (below : Steady goals) :
      Steady (.terms :: .expect (.delimiter .closeBracket) :: goals)
  | tail {goals : List Goal} (below : Steady goals) :
      Steady (.tail :: .close :: .expect (.delimiter .closeBracket) :: goals)
  | other {goal : Goal} {goals : List Goal} (list : goal ≠ .terms ∧ goal ≠ .tail)
      (below : Steady goals) : Steady (goal :: goals)

variable {goals goals' : List Goal} {token : Token} {tokens tokens' front rest : List Token}

/-- The goals that are left when the tokens have met those before them. -/
def goalsAfter (goals : List Goal) : List Token → Option (List Goal)
  | [] => some goals
  | token :: rest =>
    match advance? token goals with
    | some step => goalsAfter step.goals rest
    | none => none

/-- What may follow some tokens is decided by their kinds. -/
theorem goalsAfter_of_kinds (same : tokens'.map Token.kind = tokens.map Token.kind)
    (left : goalsAfter goals tokens = some goals') : goalsAfter goals tokens' = some goals' := by
  induction tokens generalizing goals tokens' with
  | nil => rwa [List.map_eq_nil_iff.mp same]
  | cons token rest ih =>
    obtain ⟨token', rest', rfl, kind, sameRest⟩ := List.map_eq_cons_iff.mp same
    rw [goalsAfter] at left ⊢
    cases advanced : advance? token goals with
    | none =>
      rw [advanced] at left
      cases left
    | some step =>
      rw [advanced] at left
      obtain ⟨_, _, advanced'⟩ := advance?_of_kind kind advanced
      rw [advanced']
      exact ih sameRest left

/-- Tokens meet the goals when some meet them in part and the others what is left. -/
theorem outline_append_iff : (∃ events, outline goals (front ++ rest) = .ok events) ↔
    ∃ left more, goalsAfter goals front = some left ∧ outline left rest = .ok more := by
  induction front generalizing goals with
  | nil => simp [goalsAfter]
  | cons token front ih =>
    simp only [List.cons_append, outline_cons_iff, goalsAfter]
    cases advance? token goals with
    | none => simp
    | some step =>
      rw [← ih]
      constructor
      · rintro ⟨_, _, more, same, rfl, ran⟩
        cases same
        exact ⟨more, ran⟩
      · rintro ⟨more, ran⟩
        exact ⟨_, step, more, rfl, rfl, ran⟩

theorem steady_expect (kind : Terminal) (below : Steady goals) : Steady (.expect kind :: goals) :=
  .other (by simp) below

theorem steady_close (below : Steady goals) : Steady (.close :: goals) :=
  .other (by simp) below

theorem steady_followers (keyword : Keyword) (below : Steady goals) :
    Steady (keyword.followers ++ .close :: goals) := by
  have closed := steady_close below
  have name {goals : List Goal} (below : Steady goals) : Steady (.name :: goals) :=
    .other (by simp) below
  have group {goals : List Goal} (below : Steady goals) : Steady (.group :: goals) :=
    .other (by simp) below
  cases keyword with
  | constant _ => exact closed
  | relation | application => exact name (steady_expect _ (.terms closed))
  | variableName => exact name closed
  | negation => exact group closed
  | connective _ => exact group (group closed)
  | quantifier _ => exact name (group closed)

theorem steady_of_other {goal : Goal} (steady : Steady (goal :: goals))
    (list : goal ≠ .terms ∧ goal ≠ .tail) : Steady goals := by
  cases steady with
  | terms _ => exact absurd rfl list.1
  | tail _ => exact absurd rfl list.2
  | other _ below => exact below

theorem steady_advance {step : Advance} (steady : Steady goals)
    (advanced : advance? token goals = some step) : Steady step.goals := by
  induction goals generalizing step with
  | nil => cases advanced
  | cons goal goals ih =>
    cases goal with
    | close =>
      obtain ⟨_, sooner, rfl⟩ := Option.map_eq_some_iff.mp advanced
      have left := ih (steady_of_other steady (by simp)) sooner
      exact left
    | expect kind =>
      obtain ⟨_, met⟩ := Option.ite_none_right_eq_some.mp advanced
      cases met
      exact steady_of_other steady (by simp)
    | name =>
      obtain ⟨_, met⟩ := Option.ite_none_right_eq_some.mp advanced
      cases met
      exact steady_close (steady_of_other steady (by simp))
    | group =>
      obtain ⟨_, met⟩ := Option.ite_none_right_eq_some.mp advanced
      cases met
      have below := steady_of_other steady (by simp)
      exact .other (by simp) (steady_expect _ (steady_close below))
    | formula =>
      obtain ⟨keyword, _, rfl⟩ := Option.map_eq_some_iff.mp advanced
      exact steady_followers keyword (steady_of_other steady (by simp))
    | term =>
      obtain ⟨keyword, _, rfl⟩ := Option.map_eq_some_iff.mp advanced
      exact steady_followers keyword (steady_of_other steady (by simp))
    | terms =>
      cases steady with
      | other list _ => exact absurd rfl list.1
      | terms below =>
        rw [advance?] at advanced
        split at advanced
        · cases advanced
          exact steady_followers _ (.tail below)
        · obtain ⟨_, sooner, rfl⟩ := Option.map_eq_some_iff.mp advanced
          have left := ih (steady_expect _ below) sooner
          exact left
    | tail =>
      cases steady with
      | other list _ => exact absurd rfl list.2
      | tail below =>
        rw [advance?] at advanced
        by_cases comma : token.isKind (.delimiter .comma) = true
        · rw [if_pos comma] at advanced
          cases advanced
          exact .other (by simp) (.tail below)
        · rw [if_neg comma] at advanced
          exact ih (steady_close (steady_expect _ below)) advanced

theorem steady_goalsAfter (steady : Steady goals) (left : goalsAfter goals tokens = some goals') :
    Steady goals' := by
  induction tokens generalizing goals with
  | nil => exact Option.some.inj left ▸ steady
  | cons token rest ih =>
    rw [goalsAfter] at left
    cases advanced : advance? token goals with
    | none =>
      rw [advanced] at left
      cases left
    | some step =>
      rw [advanced] at left
      exact ih (steady_advance steady advanced) left

/-- Some tokens meet every goal of a reachable stack. -/
theorem exists_completion (steady : Steady goals) : ∃ tokens more, outline goals tokens = .ok more := by
  have mark : Mark := ⟨"", 0⟩
  induction steady with
  | nil => exact ⟨[], [], rfl⟩
  | terms _ ih =>
    obtain ⟨tokens, more, ran⟩ := ih
    exact ⟨_, _, outline_terms .none mark ran⟩
  | tail _ ih =>
    obtain ⟨tokens, more, ran⟩ := ih
    exact ⟨_, _, outline_tail .done mark ran⟩
  | @other goal _ list _ ih =>
    obtain ⟨tokens, more, ran⟩ := ih
    cases goal with
    | expect kind => exact ⟨_, _, outline_expect kind mark ran⟩
    | formula => exact ⟨_, _, outline_formula (.constant true mark) ran⟩
    | group => exact ⟨_, _, outline_group ⟨mark, mark⟩ (outline_formula (.constant true mark)) ran⟩
    | term => exact ⟨_, _, outline_term (.var mark mark) ran⟩
    | name => exact ⟨_, _, outline_name mark ran⟩
    | close => exact ⟨_, _, outline_close ran⟩
    | terms => exact absurd rfl list.1
    | tail => exact absurd rfl list.2

/-- Some tokens begin a sentence exactly when they meet part of one formula. -/
theorem viable_iff :
    Viable (tokens.map Token.kind) ↔ ∃ left, goalsAfter [.formula] tokens = some left := by
  constructor
  · rintro ⟨more, sentence⟩
    obtain ⟨phrase, kinds⟩ := sentence_iff.mp sentence
    obtain ⟨front, rest, written, sameFront, _⟩ := List.map_eq_append_iff.mp kinds
    have read := outline_formula_eq_ok_iff.mpr ⟨phrase, written, rfl⟩
    obtain ⟨left, _, after, _⟩ := outline_append_iff.mp ⟨_, read⟩
    exact ⟨left, goalsAfter_of_kinds sameFront.symm after⟩
  · rintro ⟨left, after⟩
    have steady : Steady [.formula] := .other (by simp) .nil
    obtain ⟨completion, more, ran⟩ := exists_completion (steady_goalsAfter steady after)
    obtain ⟨events, read⟩ := outline_append_iff.mpr ⟨left, more, after, ran⟩
    obtain ⟨phrase, written, _⟩ := outline_formula_eq_ok_iff.mp read
    exact ⟨completion.map Token.kind, sentence_iff.mpr ⟨phrase, by rw [written, List.map_append]⟩⟩

theorem outline_cons_error_iff {fault : SyntaxFault} :
    outline goals (token :: rest) = .error fault ↔
      (advance? token goals = none ∧ fault = .unexpectedToken token) ∨
      ∃ step, advance? token goals = some step ∧ outline step.goals rest = .error fault := by
  rw [outline]
  cases advance? token goals with
  | none => simp [eq_comm]
  | some step => simp [map_eq_error_iff]

/-- Tokens that do not meet the goals are at fault as a whole, when more of them could,
or at the first that nothing could follow. -/
theorem outline_error {fault : SyntaxFault} (failed : outline goals tokens = .error fault) :
    (fault = .unexpectedEnd ∧ ∃ left, goalsAfter goals tokens = some left) ∨
    ∃ front token rest left, fault = .unexpectedToken token ∧ tokens = front ++ token :: rest ∧
      goalsAfter goals front = some left ∧ goalsAfter goals (front ++ [token]) = none := by
  induction tokens generalizing goals with
  | nil =>
    unfold outline at failed
    split at failed <;> cases failed
    exact Or.inl ⟨rfl, goals, rfl⟩
  | cons token rest ih =>
    rcases outline_cons_error_iff.mp failed with ⟨refused, rfl⟩ | ⟨step, advanced, later⟩
    · exact Or.inr ⟨[], token, rest, goals, rfl, rfl, rfl, by simp [goalsAfter, refused]⟩
    · have entered (some : List Token) : goalsAfter goals (token :: some) =
          goalsAfter step.goals some := by rw [goalsAfter, advanced]
      rcases ih later with ⟨rfl, left, after⟩ | ⟨front, token', back, left, rfl, rfl, after, refused⟩
      · exact Or.inl ⟨rfl, left, (entered rest).trans after⟩
      · exact Or.inr ⟨token :: front, token', back, left, rfl, rfl, (entered _).trans after,
          (entered _).trans refused⟩

/-- A rejected token list begins a sentence, or its fault is the first token with which
it begins none. -/
theorem derive_error_cases {fault : SyntaxFault}
    (unmarked : ∀ token ∈ tokens, token.kind ≠ "$end") (failed : derive tokens = .error fault) :
    (fault = .unexpectedEnd ∧ Viable (tokens.map Token.kind)) ∨
    ∃ front token rest, fault = .unexpectedToken token ∧ tokens = front ++ token :: rest ∧
      Viable (front.map Token.kind) ∧ ¬Viable ((front ++ [token]).map Token.kind) := by
  have outlined := outline_eq_error_of_derive failed
  rw [takeWhile_unmarked unmarked] at outlined
  rcases outline_error outlined with
    ⟨rfl, after⟩ | ⟨front, token, rest, left, rfl, rfl, after, refused⟩
  · exact Or.inl ⟨rfl, viable_iff.mpr after⟩
  · refine Or.inr ⟨front, token, rest, rfl, rfl, viable_iff.mpr ⟨left, after⟩, ?_⟩
    rw [viable_iff, refused]
    simp

theorem viable_of_append {front rest : List String} (viable : Viable (front ++ rest)) :
    Viable front := by
  obtain ⟨more, sentence⟩ := viable
  rw [List.append_assoc] at sentence
  exact ⟨rest ++ more, sentence⟩

/-- A rejected token list is at fault at the first token behind which no sentence goes
on, and at its end exactly when it begins a sentence without being one. -/
theorem derive_error_exact (tokens : List Token)
    (unmarked : ∀ token ∈ tokens, token.kind ≠ "$end") :
    (∀ fault index, derive tokens = .error fault → fault.index? = some index →
      ∃ k token, tokens[k]? = some token ∧ token.index = index ∧
        fault = .unexpectedToken token ∧ Viable ((tokens.take k).map Token.kind) ∧
        ¬Viable ((tokens.take (k + 1)).map Token.kind)) ∧
    ∀ source : String, (∃ fault, derive tokens = .error fault ∧ fault.index? = none ∧
        fault.message source = "Syntax error: unexpected end of formula: " ++ source) ↔
      Viable (tokens.map Token.kind) ∧ ¬Sentence (tokens.map Token.kind) := by
  have rejected : (∃ fault, derive tokens = .error fault) ↔ ¬Sentence (tokens.map Token.kind) := by
    rw [← exists_derive_iff unmarked]
    cases derive tokens <;> simp
  constructor
  · intro fault index failed located
    rcases derive_error_cases unmarked failed with
      ⟨rfl, _⟩ | ⟨front, token, rest, rfl, rfl, before, refused⟩
    · cases located
    · have taken : (front ++ token :: rest).take (front.length + 1) = front ++ [token] := by
        rw [List.take_length_add_append, List.take_succ_cons, List.take_zero]
      refine ⟨front.length, token, by simp, Option.some.inj located, rfl, ?_, ?_⟩
      · rwa [List.take_left]
      · rwa [taken]
  · intro source
    constructor
    · rintro ⟨fault, failed, unplaced, _⟩
      have notSentence := rejected.mp ⟨fault, failed⟩
      rcases derive_error_cases unmarked failed with ⟨rfl, viable⟩ | ⟨_, _, _, rfl, _⟩
      · exact ⟨viable, notSentence⟩
      · cases unplaced
    · rintro ⟨viable, notSentence⟩
      obtain ⟨fault, failed⟩ := rejected.mpr notSentence
      rcases derive_error_cases unmarked failed with
        ⟨rfl, _⟩ | ⟨front, token, rest, rfl, rfl, _, refused⟩
      · exact ⟨_, failed, rfl, rfl⟩
      · rw [List.append_cons, List.map_append] at viable
        exact absurd (viable_of_append viable) refused

theorem derive_error_unclosed :
    (∀ token ∈ [Token.mk "NOT" "Not" 0, ⟨"LPAREN", "(", 4⟩, ⟨"TRUE", "F", 5⟩],
      token.kind ≠ "$end") ∧ Viable ["NOT", "LPAREN", "TRUE"] ∧
        ¬Sentence ["NOT", "LPAREN", "TRUE"] := by
  have unmarked : ∀ token ∈ [Token.mk "NOT" "Not" 0, ⟨"LPAREN", "(", 4⟩, ⟨"TRUE", "F", 5⟩],
      token.kind ≠ "$end" := by decide
  exact ⟨unmarked, ((derive_error_exact _ unmarked).2 "").mp ⟨.unexpectedEnd, rfl, rfl, rfl⟩⟩

end

/-! Nothing goes on behind a sentence. A stack of goals that needs no further token holds
only nodes to be closed, because a term list on it would still lack its closing bracket,
and such a stack meets no token either. So no sentence begins another one, and a token
behind a sentence is the first that continues none. -/

section

variable {goals left : List Goal} {front rest : List Token}

/-- Goals that are met where the tokens end meet no other token. -/
theorem advance?_of_finish {events : List Tree.Event} (steady : Steady goals)
    (finished : finish? goals = some events) (token : Token) : advance? token goals = none := by
  induction steady generalizing events with
  | nil => rfl
  | terms _ _ | tail _ _ => cases finished
  | @other goal _ list _ ih =>
    cases goal with
    | close =>
      obtain ⟨_, finished, _⟩ := Option.map_eq_some_iff.mp finished
      rw [advance?, ih finished, Option.map_none]
    | terms => exact absurd rfl list.1
    | tail => exact absurd rfl list.2
    | expect _ | formula | group | term | name => cases finished

/-- What is left to be met behind a whole formula meets no token. -/
theorem exists_spent_goals (phrase : FormulaPhrase) : ∃ left,
    goalsAfter [.formula] phrase.tokens = some left ∧ ∀ token, advance? token left = none := by
  have read := outline_formula_eq_ok_iff.mpr ⟨phrase, rfl, rfl⟩
  rw [← List.append_nil phrase.tokens] at read
  obtain ⟨left, events, after, ended⟩ := outline_append_iff.mp ⟨_, read⟩
  have steady : Steady [.formula] := .other (by simp) .nil
  refine ⟨left, after, ?_⟩
  exact advance?_of_finish (steady_goalsAfter steady after) (outline_nil_iff.mp ended)

theorem goalsAfter_append (after : goalsAfter goals front = some left) (rest : List Token) :
    goalsAfter goals (front ++ rest) = goalsAfter left rest := by
  induction front generalizing goals with
  | nil =>
    cases after
    rfl
  | cons token front ih =>
    rw [List.cons_append, goalsAfter]
    rw [goalsAfter] at after
    cases advanced : advance? token goals with
    | none =>
      rw [advanced] at after
      cases after
    | some step =>
      rw [advanced] at after
      exact ih after

/-- No sentence goes on behind a whole one. -/
theorem not_viable_behind_sentence {labels : List String} (sentence : Sentence labels)
    (label : String) : ¬Viable (labels ++ [label]) := by
  obtain ⟨phrase, rfl⟩ := sentence_iff.mp sentence
  obtain ⟨left, after, spent⟩ := exists_spent_goals phrase
  have kinds : phrase.tokens.map Token.kind ++ [label] =
      (phrase.tokens ++ [Token.mk label "" 0]).map Token.kind := by simp
  rw [kinds, viable_iff, goalsAfter_append after, goalsAfter, spent]
  simp

/-- No sentence is a proper beginning of another. -/
theorem sentence_prefix_free {labels more : List String} (sentence : Sentence labels)
    (longer : Sentence (labels ++ more)) : more = [] := by
  cases more with
  | nil => rfl
  | cons label more =>
    have viable : Viable ((labels ++ [label]) ++ more) := ⟨[], by simpa using longer⟩
    exact absurd (viable_of_append viable) (not_viable_behind_sentence sentence label)

/-- A beginning of a sentence that is not the whole. -/
def ProperBeginning (labels : List String) : Prop :=
  ∃ more, more ≠ [] ∧ Sentence (labels ++ more)

theorem properBeginning_iff {labels : List String} :
    ProperBeginning labels ↔ Viable labels ∧ ¬Sentence labels := by
  constructor
  · rintro ⟨more, proper, longer⟩
    exact ⟨⟨more, longer⟩, fun sentence => proper (sentence_prefix_free sentence longer)⟩
  · rintro ⟨⟨more, longer⟩, short⟩
    refine ⟨more, ?_, longer⟩
    rintro rfl
    exact short (List.append_nil labels ▸ longer)

/-- No token is at fault exactly when more of them could have made a sentence. -/
theorem index?_eq_none_iff {tokens : List Token} {fault : SyntaxFault}
    (unmarked : ∀ token ∈ tokens, token.kind ≠ "$end") (failed : derive tokens = .error fault) :
    fault.index? = none ↔ ProperBeginning (tokens.map Token.kind) := by
  have short : ¬Sentence (tokens.map Token.kind) := by
    rw [← exists_derive_iff unmarked, failed]
    rintro ⟨_, ⟨⟩⟩
  rw [properBeginning_iff]
  rcases derive_error_cases unmarked failed with
    ⟨rfl, viable⟩ | ⟨front, token, rest, rfl, rfl, _, refused⟩
  · exact iff_of_true rfl ⟨viable, short⟩
  · apply iff_of_false nofun
    rintro ⟨viable, _⟩
    rw [List.append_cons, List.map_append] at viable
    exact refused (viable_of_append viable)

theorem outline_append_error {fault : SyntaxFault} (after : goalsAfter goals front = some left)
    (stopped : outline left rest = .error fault) : outline goals (front ++ rest) = .error fault := by
  induction front generalizing goals with
  | nil =>
    cases after
    exact stopped
  | cons token front ih =>
    rw [goalsAfter] at after
    cases advanced : advance? token goals with
    | none =>
      rw [advanced] at after
      cases after
    | some step =>
      rw [advanced] at after
      exact outline_cons_error_iff.mpr (Or.inr ⟨step, advanced, ih after⟩)

/-- The first token behind those of a formula is the one at fault. -/
theorem derive_behind_formula (phrase : FormulaPhrase) (token : Token) (rest : List Token)
    (unmarked : ∀ other ∈ phrase.tokens ++ token :: rest, other.kind ≠ "$end") :
    derive (phrase.tokens ++ token :: rest) = .error (.unexpectedToken token) := by
  obtain ⟨left, after, spent⟩ := exists_spent_goals phrase
  have stopped : outline left (token :: rest) = .error (.unexpectedToken token) :=
    outline_cons_error_iff.mpr (Or.inl ⟨spent token, rfl⟩)
  rw [derive, takeWhile_unmarked unmarked, outline_append_error after stopped]

end

end FirstOrderText.Grammar
