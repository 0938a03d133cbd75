import FirstOrderText.Proofs.Grammar.Derivation
import Mathlib.Data.List.TakeWhile

/-! Deriving reads phrases. Tokens that meet a goal begin with a phrase of that goal,
and the outline begins with that of its tree; conversely the tokens of a phrase
meet its goal, whatever follows them. A token list therefore has a tree exactly when
it is a phrase, and the tree is then that of the phrase. -/
namespace FirstOrderText.Grammar

section

open FirstOrderText.Tree (Event openForests outlineAll ofOutline?)

variable {goals : List Goal} {tokens rest : List Token} {events more : List Event}

/-- Tokens that meet a term begin with the phrase of one. -/
def BeginsTerm (tokens : List Token) : Prop :=
  ∀ goals events, outline (.term :: goals) tokens = .ok events →
    ∃ (term : TermPhrase) (rest : List Token) (more : List Event),
      tokens = term.tokens ++ rest ∧ events = term.tree.outline ++ more ∧
        outline goals rest = .ok more

/-- Tokens that meet the rest of a term list begin with the phrase of one. -/
def BeginsTail (tokens : List Token) : Prop :=
  ∀ goals events, outline (.tail :: goals) tokens = .ok events →
    ∃ (tail : TailPhrase) (rest : List Token) (more : List Event),
      tokens = tail.tokens ++ rest ∧ events = outlineAll tail.trees ++ more ∧
        outline goals rest = .ok more

private theorem terms_begin (begins : ∀ front : List Token, front.length ≤ tokens.length →
      BeginsTerm front ∧ BeginsTail front)
    (ran : outline (.terms :: goals) tokens = .ok events) :
    ∃ (args : TermsPhrase) (rest : List Token) (more : List Event), tokens = args.tokens ++ rest ∧
      events = args.tree.outline ++ more ∧ outline goals rest = .ok more := by
  rcases outline_terms_iff.mp ran with ⟨more, _, rfl, none⟩ | ⟨_, rfl, some⟩
  · exact ⟨.none, tokens, more, rfl, rfl, none⟩
  · obtain ⟨first, rest, _, rfl, rfl, afterFirst⟩ := (begins tokens (Nat.le_refl _)).1 _ _ some
    have fewer : rest.length ≤ (first.tokens ++ rest).length := by simp
    obtain ⟨tail, rest, _, rfl, rfl, afterTail⟩ := (begins rest fewer).2 _ _ afterFirst
    obtain ⟨more, rfl, closed⟩ := outline_close_iff.mp afterTail
    refine ⟨.some first tail, rest, more, ?_, ?_, closed⟩
    · simp [TermsPhrase.tokens]
    · simp [TermsPhrase.tree, TermsPhrase.trees]

/-- A bracketed term list, read from its opening bracket on. -/
private theorem bracketed_begins (begins : ∀ front : List Token, front.length ≤ tokens.length →
      BeginsTerm front ∧ BeginsTail front)
    (ran : outline (.expect (.delimiter .openBracket) :: .terms ::
      .expect (.delimiter .closeBracket) :: goals) tokens = .ok events) :
    ∃ (brackets : Enclosure) (args : TermsPhrase) (rest : List Token) (more : List Event),
      tokens = brackets.bracket args.tokens ++ rest ∧
        events = (Terminal.token (.delimiter .openBracket) brackets.opened).event ::
          (args.tree.outline ++
            (Terminal.token (.delimiter .closeBracket) brackets.closed).event :: more) ∧
          outline goals rest = .ok more := by
  obtain ⟨opened, rest, _, rfl, rfl, inside⟩ := outline_expect_iff.mp ran
  obtain ⟨args, rest, _, rfl, rfl, afterArgs⟩ :=
    terms_begin (fun front fewer => begins front (Nat.le_succ_of_le fewer)) inside
  obtain ⟨closed, rest, more, rfl, rfl, outside⟩ := outline_expect_iff.mp afterArgs
  exact ⟨⟨opened, closed⟩, args, rest, more, by simp [Enclosure.bracket], rfl, outside⟩

theorem begins_items (tokens : List Token) : BeginsTerm tokens ∧ BeginsTail tokens := by
  induction size : tokens.length using Nat.strongRecOn generalizing tokens with
  | ind n ih =>
    subst size
    constructor
    · intro goals events ran
      obtain ⟨keyword, word, rest, _, begins, rfl, rfl, afterWord⟩ :=
        (outline_worded_iff true).mp ran
      cases keyword with
      | variableName =>
        obtain ⟨name, rest, _, rfl, rfl, afterName⟩ := outline_name_iff.mp afterWord
        obtain ⟨more, rfl, closed⟩ := outline_close_iff.mp afterName
        refine ⟨.var word name, rest, more, rfl, ?_, closed⟩
        simp [TermPhrase.tree]
      | constant _ | relation | negation | connective _ | quantifier _ => cases begins
      | application =>
        obtain ⟨name, rest, _, rfl, rfl, afterName⟩ := outline_name_iff.mp afterWord
        have inside (front : List Token) (fewer : front.length ≤ rest.length) :
            BeginsTerm front ∧ BeginsTail front := by
          apply ih front.length ?_ front rfl
          simp only [List.length_cons]
          omega
        obtain ⟨brackets, args, rest, _, rfl, rfl, afterArgs⟩ := bracketed_begins inside afterName
        obtain ⟨more, rfl, closed⟩ := outline_close_iff.mp afterArgs
        refine ⟨.app word name brackets args, rest, more, ?_, ?_, closed⟩
        · simp [TermPhrase.tokens]
        · simp [TermPhrase.tree, TermsPhrase.tree]
    · intro goals events ran
      rcases outline_tail_iff.mp ran with ⟨_, ended⟩ | ⟨comma, rest, _, rfl, rfl, afterComma⟩
      · exact ⟨.done, tokens, events, rfl, rfl, ended⟩
      · have later (front : List Token) (fewer : front.length ≤ rest.length) :
            BeginsTerm front ∧ BeginsTail front := by
          apply ih front.length ?_ front rfl
          rw [List.length_cons]
          omega
        obtain ⟨term, rest, _, rfl, rfl, afterTerm⟩ := (later rest (Nat.le_refl _)).1 _ _ afterComma
        have fewer : rest.length ≤ (term.tokens ++ rest).length := by
          rw [List.length_append]
          omega
        obtain ⟨tail, rest, more, rfl, rfl, ended⟩ := (later rest fewer).2 _ _ afterTerm
        refine ⟨.next comma term tail, rest, more, ?_, ?_, ended⟩
        · simp [TailPhrase.tokens]
        · simp [TailPhrase.trees]

/-- Tokens that meet a formula begin with the phrase of one. -/
def BeginsFormula (tokens : List Token) : Prop :=
  ∀ goals events, outline (.formula :: goals) tokens = .ok events →
    ∃ (phrase : FormulaPhrase) (rest : List Token) (more : List Event),
      tokens = phrase.tokens ++ rest ∧ events = phrase.tree.outline ++ more ∧
        outline goals rest = .ok more

private theorem group_begins (begins : ∀ front : List Token, front.length < tokens.length →
      BeginsFormula front)
    (ran : outline (.group :: goals) tokens = .ok events) :
    ∃ (parens : Enclosure) (phrase : FormulaPhrase) (rest : List Token) (more : List Event),
      tokens = parens.parenthesize phrase.tokens ++ rest ∧
        events = (parens.group phrase.tree).outline ++ more ∧ outline goals rest = .ok more := by
  obtain ⟨opened, rest, _, rfl, rfl, inside⟩ := outline_group_iff.mp ran
  have shorter := Nat.lt_succ_self rest.length
  obtain ⟨phrase, rest, _, rfl, rfl, afterInner⟩ := begins rest shorter _ _ inside
  obtain ⟨closed, rest, _, rfl, rfl, outside⟩ := outline_expect_iff.mp afterInner
  obtain ⟨more, rfl, ended⟩ := outline_close_iff.mp outside
  refine ⟨⟨opened, closed⟩, phrase, rest, more, ?_, ?_, ended⟩
  · simp [Enclosure.parenthesize]
  · simp [Enclosure.group]

theorem begins_formula (tokens : List Token) : BeginsFormula tokens := by
  induction size : tokens.length using Nat.strongRecOn generalizing tokens with
  | ind n ih =>
    subst size
    intro goals events ran
    obtain ⟨keyword, word, tokens, _, begins, rfl, rfl, afterWord⟩ :=
      (outline_worded_iff false).mp ran
    -- every operand stands behind the word, and so among fewer tokens
    have behind (back : List Token) (fewer : back.length ≤ tokens.length) (front : List Token)
        (shorter : front.length < back.length) : BeginsFormula front := by
      apply ih front.length ?_ front rfl
      rw [List.length_cons]
      omega
    cases keyword with
    | variableName | application => cases begins
    | constant value =>
      obtain ⟨more, rfl, closed⟩ := outline_close_iff.mp afterWord
      refine ⟨.constant value word, tokens, more, rfl, ?_, closed⟩
      simp [FormulaPhrase.tree]
    | relation =>
      obtain ⟨name, rest, _, rfl, rfl, afterName⟩ := outline_name_iff.mp afterWord
      obtain ⟨brackets, args, rest, _, rfl, rfl, afterArgs⟩ :=
        bracketed_begins (fun front _ => begins_items front) afterName
      obtain ⟨more, rfl, closed⟩ := outline_close_iff.mp afterArgs
      refine ⟨.atom word name brackets args, rest, more, ?_, ?_, closed⟩
      · simp [FormulaPhrase.tokens]
      · simp [FormulaPhrase.tree]
    | negation =>
      obtain ⟨parens, operand, rest, _, rfl, rfl, afterOperand⟩ :=
        group_begins (behind tokens (Nat.le_refl _)) afterWord
      obtain ⟨more, rfl, closed⟩ := outline_close_iff.mp afterOperand
      refine ⟨.negation word parens operand, rest, more, rfl, ?_, closed⟩
      simp [FormulaPhrase.tree]
    | connective op =>
      obtain ⟨parens, left, rest, _, rfl, rfl, afterLeft⟩ :=
        group_begins (behind tokens (Nat.le_refl _)) afterWord
      have fewer : rest.length ≤ (parens.parenthesize left.tokens ++ rest).length := by
        rw [List.length_append]
        omega
      obtain ⟨parens', right, rest, _, rfl, rfl, afterRight⟩ :=
        group_begins (behind rest fewer) afterLeft
      obtain ⟨more, rfl, closed⟩ := outline_close_iff.mp afterRight
      refine ⟨.connected op word parens left parens' right, rest, more, ?_, ?_, closed⟩
      · simp [FormulaPhrase.tokens]
      · simp [FormulaPhrase.tree]
    | quantifier binder =>
      obtain ⟨name, rest, _, rfl, rfl, afterName⟩ := outline_name_iff.mp afterWord
      obtain ⟨parens, body, rest, _, rfl, rfl, afterBody⟩ :=
        group_begins (behind rest (Nat.le_succ _)) afterName
      obtain ⟨more, rfl, closed⟩ := outline_close_iff.mp afterBody
      refine ⟨.quantified binder word name parens body, rest, more, rfl, ?_, closed⟩
      simp [FormulaPhrase.tree]

theorem outline_expect (kind : Terminal) (mark : Mark) (ran : outline goals rest = .ok more) :
    outline (.expect kind :: goals) (kind.token mark :: rest) =
      .ok ((kind.token mark).event :: more) :=
  outline_expect_iff.mpr ⟨mark, rest, more, rfl, rfl, ran⟩

theorem outline_close (ran : outline goals rest = .ok more) :
    outline (.close :: goals) rest = .ok (.closing :: more) :=
  outline_close_iff.mpr ⟨more, rfl, ran⟩

theorem outline_name (name : Mark) (ran : outline goals rest = .ok more) :
    outline (.name :: goals) (Terminal.name.token name :: rest) =
      .ok (name.nameTree.outline ++ more) :=
  outline_name_iff.mpr ⟨name, rest, more, rfl, rfl, ran⟩

theorem outline_word (keyword : Keyword) (word : Mark)
    (ran : outline (keyword.followers ++ .close :: goals) rest = .ok more) :
    outline (worded keyword.beginsTerm :: goals) (Terminal.token (.keyword keyword) word :: rest) =
      .ok (.opening keyword.nodeLabel :: (Terminal.token (.keyword keyword) word).event :: more) :=
  (outline_worded_iff _).mpr ⟨keyword, word, rest, more, rfl, rfl, rfl, ran⟩

/-- An opening bracket is followed by a list of terms, and that by a closing one. -/
theorem outline_bracketed {args : TermsPhrase} (brackets : Enclosure)
    (listed : outline (.terms :: .expect (.delimiter .closeBracket) :: goals)
      (args.tokens ++ Terminal.token (.delimiter .closeBracket) brackets.closed :: rest) =
        .ok (args.tree.outline ++
          (Terminal.token (.delimiter .closeBracket) brackets.closed).event :: more)) :
    outline (.expect (.delimiter .openBracket) :: .terms ::
        .expect (.delimiter .closeBracket) :: goals) (brackets.bracket args.tokens ++ rest) =
      .ok ((Terminal.token (.delimiter .openBracket) brackets.opened).event ::
        (args.tree.outline ++
          (Terminal.token (.delimiter .closeBracket) brackets.closed).event :: more)) := by
  rw [Enclosure.bracket, List.cons_append, List.append_assoc]
  exact outline_expect (.delimiter .openBracket) brackets.opened listed

mutual

/-- The phrase of a term is read as its tree, whatever follows it. -/
theorem outline_term (term : TermPhrase) {goals : List Goal} {rest : List Token}
    {more : List Event} (ran : outline goals rest = .ok more) :
    outline (.term :: goals) (term.tokens ++ rest) = .ok (term.tree.outline ++ more) := by
  cases term with
  | var word name =>
    have read : outline (.term :: goals) _ = _ :=
      outline_word .variableName word (outline_name name (outline_close ran))
    simpa [TermPhrase.tokens, TermPhrase.tree] using read
  | app word name brackets args =>
    have listed := outline_terms args brackets.closed (outline_close ran)
    have read : outline (.term :: goals) _ = _ :=
      outline_word .application word (outline_name name (outline_bracketed brackets listed))
    simpa [TermPhrase.tokens, TermPhrase.tree, TermsPhrase.tree] using read

/-- A list of terms ends where a bracket closes it. -/
theorem outline_terms (args : TermsPhrase) (closed : Mark) {goals : List Goal}
    {rest : List Token} {more : List Event} (ran : outline goals rest = .ok more) :
    outline (.terms :: .expect (.delimiter .closeBracket) :: goals)
        (args.tokens ++ Terminal.token (.delimiter .closeBracket) closed :: rest) =
      .ok (args.tree.outline ++ (Terminal.token (.delimiter .closeBracket) closed).event :: more) := by
  cases args with
  | none =>
    have ended := outline_expect (.delimiter .closeBracket) closed ran
    refine outline_terms_iff.mpr (Or.inl ⟨_, ?_, ?_, ended⟩)
    · intro token first
      obtain rfl := Option.some.inj first
      exact termWord?_delimiter _ _
    · simp [TermsPhrase.tree, TermsPhrase.trees]
  | some first tail =>
    have read := outline_term first (outline_tail tail closed ran)
    refine outline_terms_iff.mpr (Or.inr ⟨_, ?_, by simpa [TermsPhrase.tokens] using read⟩)
    simp [TermsPhrase.tree, TermsPhrase.trees]

theorem outline_tail (tail : TailPhrase) (closed : Mark) {goals : List Goal}
    {rest : List Token} {more : List Event} (ran : outline goals rest = .ok more) :
    outline (.tail :: .close :: .expect (.delimiter .closeBracket) :: goals)
        (tail.tokens ++ Terminal.token (.delimiter .closeBracket) closed :: rest) =
      .ok (outlineAll tail.trees ++
        .closing :: (Terminal.token (.delimiter .closeBracket) closed).event :: more) := by
  cases tail with
  | done =>
    have ended := outline_close (outline_expect (.delimiter .closeBracket) closed ran)
    refine outline_tail_iff.mpr (Or.inl ⟨?_, ended⟩)
    intro mark back same
    cases Terminal.token_kind_injective (List.cons.inj same).1
  | next comma term tail =>
    have read := outline_term term (outline_tail tail closed ran)
    refine outline_tail_iff.mpr (Or.inr ⟨comma, _, _, ?_, ?_, read⟩)
    · simp [TailPhrase.tokens]
    · simp [TailPhrase.trees]

end

theorem outline_group (parens : Enclosure) {phrase : FormulaPhrase}
    (reads : ∀ {goals : List Goal} {rest : List Token} {more : List Event},
      outline goals rest = .ok more →
        outline (.formula :: goals) (phrase.tokens ++ rest) = .ok (phrase.tree.outline ++ more))
    (ran : outline goals rest = .ok more) :
    outline (.group :: goals) (parens.parenthesize phrase.tokens ++ rest) =
      .ok ((parens.group phrase.tree).outline ++ more) := by
  have inside := reads (outline_expect (.delimiter .closeParen) parens.closed (outline_close ran))
  refine outline_group_iff.mpr ⟨parens.opened, _, _, ?_, ?_, inside⟩
  · simp [Enclosure.parenthesize]
  · simp [Enclosure.group]

/-- The phrase of a formula is read as its tree, whatever follows it. -/
theorem outline_formula (phrase : FormulaPhrase) (ran : outline goals rest = .ok more) :
    outline (.formula :: goals) (phrase.tokens ++ rest) = .ok (phrase.tree.outline ++ more) := by
  induction phrase generalizing goals rest more with
  | constant value word =>
    have read : outline (.formula :: goals) _ = _ :=
      outline_word (.constant value) word (outline_close ran)
    simpa [FormulaPhrase.tokens, FormulaPhrase.tree] using read
  | atom word name brackets args =>
    have listed := outline_terms args brackets.closed (outline_close ran)
    have read : outline (.formula :: goals) _ = _ :=
      outline_word .relation word (outline_name name (outline_bracketed brackets listed))
    simpa [FormulaPhrase.tokens, FormulaPhrase.tree] using read
  | negation word parens operand ih =>
    have grouped := outline_group parens ih (outline_close ran)
    have read : outline (.formula :: goals) _ = _ := outline_word .negation word grouped
    simpa [FormulaPhrase.tokens, FormulaPhrase.tree] using read
  | connected op word parens left parens' right onLeft onRight =>
    have second := outline_group parens' onRight (outline_close ran)
    have first := outline_group parens onLeft second
    have read : outline (.formula :: goals) _ = _ := outline_word (.connective op) word first
    simpa [FormulaPhrase.tokens, FormulaPhrase.tree] using read
  | quantified binder word name parens body ih =>
    have grouped := outline_group parens ih (outline_close ran)
    have read : outline (.formula :: goals) _ = _ :=
      outline_word (.quantifier binder) word (outline_name name grouped)
    simpa [FormulaPhrase.tokens, FormulaPhrase.tree] using read

/-- The outline of derived trees is completed to those trees, whatever follows it. -/
theorem openForests_outlineAll {symbols : List Symbol} {trees after : List Tree}
    {outer : List (List Tree)} (derived : DerivesTrees symbols trees)
    (behind : openForests events = after :: outer) :
    openForests (outlineAll trees ++ events) = (trees ++ after) :: outer := by
  induction derived generalizing events after outer with
  | nil => exact behind
  | leaf text _ ih =>
    have rest := ih behind
    simp only [outlineAll_cons, Tree.leaf, Tree.outline, List.cons_append, List.nil_append,
      openForests, rest]
  | node _ _ _ below beside =>
    have rest : openForests (.closing :: (outlineAll _ ++ events)) = [] :: _ :=
      congrArg ([] :: ·) (beside behind)
    have children := below rest
    simp only [outlineAll_cons, outline_branch, List.cons_append, List.append_assoc,
      List.nil_append, openForests] at children ⊢
    rw [children, List.append_nil]
  | inline _ _ ih => exact ih behind

theorem ofOutline?_outline {tree : Tree} (derived : IsDerivation tree) :
    ofOutline? tree.outline = some tree := by
  have alone : openForests [] = [] :: [] := rfl
  have forests := openForests_outlineAll derived alone
  simp only [outlineAll_cons, outlineAll_nil, List.append_nil] at forests
  rw [ofOutline?, forests]

/-- The outline of a whole formula is that of the tree of a phrase. -/
theorem outline_formula_eq_ok_iff : outline [.formula] tokens = .ok events ↔
    ∃ phrase : FormulaPhrase, phrase.tokens = tokens ∧ phrase.tree.outline = events := by
  constructor
  · intro ran
    obtain ⟨phrase, rest, more, rfl, rfl, ended⟩ := begins_formula tokens _ _ ran
    cases rest with
    | nil =>
      obtain rfl := Option.some.inj (outline_nil_iff.mp ended)
      exact ⟨phrase, by simp, by simp⟩
    | cons token rest =>
      obtain ⟨_, _, advanced, _⟩ := outline_cons_iff.mp ended
      cases advanced
  · rintro ⟨phrase, rfl, rfl⟩
    have ended : outline [] [] = .ok [] := rfl
    simpa using outline_formula phrase ended

/-- A token list has a tree exactly when the tokens before an end marker are a phrase. -/
theorem derive_eq_ok_iff {tree : Tree} : derive tokens = .ok tree ↔ ∃ phrase : FormulaPhrase,
    phrase.tokens = tokens.takeWhile (fun token => !token.isEndMarker) ∧ phrase.tree = tree := by
  constructor
  · intro derived
    unfold derive at derived
    cases ran : outline [.formula] (tokens.takeWhile fun token => !token.isEndMarker) with
    | error fault =>
      rw [ran] at derived
      cases derived
    | ok events =>
      obtain ⟨phrase, same, rfl⟩ := outline_formula_eq_ok_iff.mp ran
      simp only [ran, ofOutline?_outline (isDerivation_tree phrase), Except.ok.injEq] at derived
      exact ⟨phrase, same, derived⟩
  · rintro ⟨phrase, same, rfl⟩
    have ran := outline_formula_eq_ok_iff.mpr ⟨phrase, same, rfl⟩
    simp only [derive, ran, ofOutline?_outline (isDerivation_tree phrase)]

/-- A fault of a token list is that of its outline. -/
theorem outline_eq_error_of_derive {fault : SyntaxFault} (failed : derive tokens = .error fault) :
    outline [.formula] (tokens.takeWhile fun token => !token.isEndMarker) = .error fault := by
  cases ran : outline [.formula] (tokens.takeWhile fun token => !token.isEndMarker) with
  | error fault' =>
    rw [derive, ran] at failed
    rw [Except.error.inj failed]
  | ok events =>
    obtain ⟨phrase, written, _⟩ := outline_formula_eq_ok_iff.mp ran
    rw [derive_eq_ok_iff.mpr ⟨phrase, written, rfl⟩] at failed
    cases failed

end

/-! What deriving makes of a token list. A token takes part by its kind, and its text
is copied to its leaf, so that token lists with the same leaves have the same tree.
Every derivation tree is the tree of some phrase, and phrases with the same leaves
are therefore written by the same tree. -/

section

open FirstOrderText.Tree (Event)

variable {goals : List Goal} {token token' : Token} {tokens tokens' : List Token}

/-- A token of the same kind does the same, with its own leaf for that of the other. -/
theorem advance?_of_kind {step : Advance} (same : token'.kind = token.kind)
    (advanced : advance? token goals = some step) :
    ∃ before, step.events = before ++ [token.event] ∧
      advance? token' goals = some (Advance.mk (before ++ [token'.event]) step.goals) := by
  have isKind (kind : Terminal) : token'.isKind kind = token.isKind kind := by
    unfold Token.isKind
    rw [same]
  have formulaWord : token'.formulaWord? = token.formulaWord? := by
    unfold Token.formulaWord?
    rw [same]
  have termWord : token'.termWord? = token.termWord? := by
    unfold Token.termWord?
    rw [same]
  induction goals generalizing step with
  | nil => cases advanced
  | cons goal goals ih =>
    have passed {closed : List Event}
        (later : (advance? token goals).map (Advance.after closed) = some step) :
        ∃ before, step.events = before ++ [token.event] ∧
          (advance? token' goals).map (Advance.after closed) =
            some (Advance.mk (before ++ [token'.event]) step.goals) := by
      obtain ⟨step, sooner, rfl⟩ := Option.map_eq_some_iff.mp later
      obtain ⟨before, events, sooner'⟩ := ih sooner
      refine ⟨closed ++ before, by simp [Advance.after, events], ?_⟩
      simp [sooner', Advance.after]
    cases goal with
    | close => exact passed advanced
    | expect kind =>
      obtain ⟨met, stepped⟩ := Option.ite_none_right_eq_some.mp advanced
      cases stepped
      exact ⟨[], rfl, if_pos ((isKind kind).trans met)⟩
    | name =>
      obtain ⟨met, stepped⟩ := Option.ite_none_right_eq_some.mp advanced
      cases stepped
      exact ⟨[.opening "name"], rfl, if_pos ((isKind .name).trans met)⟩
    | group =>
      obtain ⟨met, stepped⟩ := Option.ite_none_right_eq_some.mp advanced
      cases stepped
      exact ⟨[.opening "group"], rfl, if_pos ((isKind (.delimiter .openParen)).trans met)⟩
    | formula =>
      obtain ⟨keyword, word, rfl⟩ := Option.map_eq_some_iff.mp advanced
      refine ⟨[.opening keyword.nodeLabel], rfl, ?_⟩
      rw [advance?, formulaWord, word]
      rfl
    | term =>
      obtain ⟨keyword, word, rfl⟩ := Option.map_eq_some_iff.mp advanced
      refine ⟨[.opening keyword.nodeLabel], rfl, ?_⟩
      rw [advance?, termWord, word]
      rfl
    | terms =>
      rw [advance?] at advanced ⊢
      rw [termWord]
      cases word : token.termWord? with
      | none => exact passed (by rwa [word] at advanced)
      | some keyword =>
        rw [word] at advanced
        cases advanced
        exact ⟨[.opening "terms", .opening keyword.nodeLabel], rfl, rfl⟩
    | tail =>
      rw [advance?] at advanced ⊢
      rw [isKind]
      by_cases comma : token.isKind (.delimiter .comma) = true
      · rw [if_pos comma] at advanced ⊢
        cases advanced
        exact ⟨[], rfl, rfl⟩
      · rw [if_neg comma] at advanced ⊢
        exact ih advanced

/-- Tokens of the same kinds meet the same goals, and with the same leaves they leave
the same outline. -/
theorem outline_of_kinds {events : List Event}
    (same : tokens'.map Token.kind = tokens.map Token.kind)
    (ran : outline goals tokens = .ok events) : ∃ events', outline goals tokens' = .ok events' ∧
      (tokens'.map Token.leaf = tokens.map Token.leaf → events' = events) := by
  induction tokens generalizing goals tokens' events with
  | nil =>
    rw [List.map_eq_nil_iff.mp same]
    exact ⟨events, ran, fun _ => rfl⟩
  | cons token rest ih =>
    obtain ⟨token', rest', rfl, kind, sameRest⟩ := List.map_eq_cons_iff.mp same
    obtain ⟨step, more, advanced, rfl, later⟩ := outline_cons_iff.mp ran
    obtain ⟨before, events, advanced'⟩ := advance?_of_kind kind advanced
    obtain ⟨more', later', sameMore⟩ := ih sameRest later
    refine ⟨_, outline_cons_iff.mpr ⟨_, more', advanced', rfl, later'⟩, ?_⟩
    intro leaves
    obtain ⟨leaf, leaves⟩ := List.cons.inj leaves
    have event : token'.event = token.event := (List.cons.inj (congrArg Tree.outline leaf)).1
    rw [events, event, sameMore leaves]

/-- Phrases with the same leaves have the same tree. -/
theorem tree_eq_of_leaves {phrase phrase' : FormulaPhrase}
    (same : phrase'.tokens.map Token.leaf = phrase.tokens.map Token.leaf) :
    phrase'.tree = phrase.tree := by
  have kinds := congrArg (List.map Tree.label) same
  rw [List.map_map, List.map_map] at kinds
  have read := outline_formula_eq_ok_iff.mpr ⟨phrase, rfl, rfl⟩
  have read' := outline_formula_eq_ok_iff.mpr ⟨phrase', rfl, rfl⟩
  obtain ⟨events, again, sameEvents⟩ := outline_of_kinds kinds read
  have outlines : phrase'.tree.outline = phrase.tree.outline := by
    rw [← sameEvents same, Except.ok.inj (read'.symm.trans again)]
  have trees := congrArg Tree.ofOutline? outlines
  rw [ofOutline?_outline (isDerivation_tree phrase'),
    ofOutline?_outline (isDerivation_tree phrase)] at trees
  exact Option.some.inj trees

/-- Tokens of the kinds of a phrase are a phrase. -/
theorem exists_phrase_of_kinds {phrase : FormulaPhrase}
    (same : tokens.map Token.kind = phrase.tokens.map Token.kind) :
    ∃ phrase' : FormulaPhrase, phrase'.tokens = tokens := by
  have read := outline_formula_eq_ok_iff.mpr ⟨phrase, rfl, rfl⟩
  obtain ⟨_, read', _⟩ := outline_of_kinds same read
  obtain ⟨phrase', written, _⟩ := outline_formula_eq_ok_iff.mp read'
  exact ⟨phrase', written⟩

/-- Without an end marker a token list is read to its end. -/
theorem takeWhile_unmarked (unmarked : ∀ token ∈ tokens, token.kind ≠ "$end") :
    (tokens.takeWhile fun token => !token.isEndMarker) = tokens := by
  apply List.takeWhile_eq_self_iff.mpr
  intro token member
  simpa [Token.isEndMarker] using unmarked token member

theorem derive_unmarked_iff {tree : Tree} (unmarked : ∀ token ∈ tokens, token.kind ≠ "$end") :
    derive tokens = .ok tree ↔
      ∃ phrase : FormulaPhrase, phrase.tokens = tokens ∧ phrase.tree = tree := by
  rw [derive_eq_ok_iff, takeWhile_unmarked unmarked]

/-- The token lists that have a tree are the sentences of the grammar. -/
theorem exists_derive_iff (unmarked : ∀ token ∈ tokens, token.kind ≠ "$end") :
    (∃ tree, derive tokens = .ok tree) ↔ Sentence (tokens.map Token.kind) := by
  rw [sentence_iff]
  constructor
  · rintro ⟨tree, derived⟩
    obtain ⟨phrase, written, _⟩ := (derive_unmarked_iff unmarked).mp derived
    exact ⟨phrase, by rw [written]⟩
  · rintro ⟨phrase, kinds⟩
    obtain ⟨phrase', written⟩ := exists_phrase_of_kinds kinds.symm
    exact ⟨phrase'.tree, (derive_unmarked_iff unmarked).mpr ⟨phrase', written, rfl⟩⟩

/-- Deriving accepts the sentences of the grammar. The tree is a derivation tree that
has the tokens for its leaves, and there is no other. -/
theorem derive_exact (tokens : List Token) (unmarked : ∀ token ∈ tokens, token.kind ≠ "$end") :
    ((∃ tree, derive tokens = .ok tree) ↔ Sentence (tokens.map Token.kind)) ∧
    ∀ tree, derive tokens = .ok tree →
      IsDerivation tree ∧ tree.leaves = tokens.map Token.leaf ∧
      ∀ other, IsDerivation other → other.leaves = tokens.map Token.leaf → other = tree := by
  refine ⟨exists_derive_iff unmarked, ?_⟩
  intro tree derived
  obtain ⟨phrase, rfl, rfl⟩ := (derive_unmarked_iff unmarked).mp derived
  refine ⟨isDerivation_tree phrase, phrase.leaves_tree, ?_⟩
  intro other derivation leaves
  obtain ⟨phrase', rfl⟩ := isDerivation_iff.mp derivation
  rw [phrase'.leaves_tree] at leaves
  exact tree_eq_of_leaves leaves

theorem sentence_negated_constant :
    (∀ token ∈ [Token.mk "NOT" "x" 3, ⟨"LPAREN", "", 3⟩, ⟨"TRUE", "y", 0⟩, ⟨"RPAREN", ")", -1⟩],
      token.kind ≠ "$end") ∧ Sentence ["NOT", "LPAREN", "TRUE", "RPAREN"] := by
  have unmarked : ∀ token ∈ [Token.mk "NOT" "x" 3, ⟨"LPAREN", "", 3⟩, ⟨"TRUE", "y", 0⟩,
      ⟨"RPAREN", ")", -1⟩], token.kind ≠ "$end" := by decide
  exact ⟨unmarked, (derive_exact _ unmarked).1.mp ⟨_, rfl⟩⟩

end

end FirstOrderText.Grammar
