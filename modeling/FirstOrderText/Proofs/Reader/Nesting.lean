import FirstOrderText.Proofs.Reader.Composition

/-! Nesting that is too deep. Connectives and quantifiers may nest as they like. Only the
applications in a term use up the room of conversion, and where they run out of it, that is
reported at the root of the text's tree, unless a malformed name came before. -/
namespace FirstOrderText

/-- What was put in quotes is no name. -/
def Token.IsMalformedName (token : Token) : Prop :=
  token.kind = "STRING" ∧ ¬token.Proper

section
variable {token : Token} {tokens : List Token} {depth : Nat} {front back : List (Token × Nat)}

/-- A token that was read off a text is faultless, but for a malformed name. -/
theorem Token.fault?_of_wellFormed (read : token.IsLexeme) (formed : ¬token.IsMalformedName) :
    token.fault? = none := by
  cases faulty : token.fault? with
  | none => rfl
  | some fault =>
    obtain ⟨named, _⟩ := fault?_of_isLexeme read faulty
    exact absurd ⟨named, not_proper_of_fault? faulty⟩ formed

theorem Token.fault?_of_isMalformedName (read : token.IsLexeme)
    (malformed : token.IsMalformedName) :
    token.fault? = some ⟨.improperName token.value, "name", ["STRING"]⟩ := by
  cases faulty : token.fault? with
  | none => exact absurd (fault?_eq_none_iff.mp faulty) malformed.2
  | some fault => rw [(fault?_of_isLexeme read faulty).2]

/-- The first malformed name stops conversion where no application before it is too deep. -/
theorem firstObstacle?_of_malformedName (read : ∀ token ∈ tokens, token.IsLexeme)
    (split : atDepths 0 tokens = front ++ (token, depth) :: back)
    (malformed : token.IsMalformedName)
    (formed : ∀ earlier ∈ front, ¬earlier.1.IsMalformedName)
    (shallow : ∀ earlier ∈ front, earlier.1.kind = "FUN" → earlier.2 ≤ Tree.nestingLimit) :
    firstObstacle? 0 tokens = some (.fault ⟨.improperName token.value, "name", ["STRING"]⟩) := by
  rw [← map_fst_atDepths 0 tokens, List.forall_mem_map, split, List.forall_mem_append,
    List.forall_mem_cons] at read
  obtain ⟨readFront, readName, _⟩ := read
  apply firstObstacle?_eq_of_passed split
  · intro earlier member
    have passed : ¬(earlier.1.kind = "FUN" ∧ Tree.nestingLimit < earlier.2) := fun deep =>
      Nat.not_lt.mpr (shallow earlier member deep.1) deep.2
    rw [obstacleAt?, if_neg passed,
      Token.fault?_of_wellFormed (readFront earlier member) (formed earlier member)]
    exact Or.inl rfl
  · have other : ¬(token.kind = "FUN" ∧ Tree.nestingLimit < depth) := fun deep =>
      absurd (malformed.1.symm.trans deep.1) (by decide)
    rw [obstacleAt?, if_neg other, Token.fault?_of_isMalformedName readName malformed]
    rfl

/-- An application that is too deep stops conversion where no malformed name is before it. -/
theorem firstObstacle?_of_deep (read : ∀ token ∈ tokens, token.IsLexeme)
    (split : atDepths 0 tokens = front ++ (token, depth) :: back) (isFun : token.kind = "FUN")
    (deep : Tree.nestingLimit < depth)
    (formed : ∀ earlier ∈ front, ¬earlier.1.IsMalformedName) :
    firstObstacle? 0 tokens = some .overflow := by
  rw [← map_fst_atDepths 0 tokens, List.forall_mem_map, split, List.forall_mem_append] at read
  apply firstObstacle?_eq_of_passed split
  · intro earlier member
    rw [obstacleAt?, Token.fault?_of_wellFormed (read.1 earlier member) (formed earlier member)]
    split
    · exact Or.inr rfl
    · exact Or.inl rfl
  · rw [obstacleAt?, if_pos ⟨isFun, deep⟩]

end

theorem message_improperName_ne (value : String) :
    (Problem.improperName value).message ≠ "Nesting too deep to convert" := by
  intro same
  have first := congrArg (fun message => message.toList.head?) same
  have quoted : ("Quoted name must be alphanumeric, got " ++ value).toList.head? = some 'Q' := by
    rw [String.toList_append]
    rfl
  exact absurd (quoted.symm.trans first) (by decide)

/-- With a tree, what its conversion comes to is what reading comes to. -/
theorem Reader.outcome_of_tree {reader : Reader} {level : LogLevel} {text : String} {tree : Tree}
    (derived : (reader.derive level text).outcome = .ok tree) :
    reader.outcome level text =
      tree.convert.mapError fun fault => .reported fault.report fault.cause? := by
  rw [outcome, read_of_tree derived]
  cases tree.convert <;> rfl

/-- Reading stops at the first malformed name, or with the report that the applications of
a term are nested too deep, which happens only to terms. It does not stop for a nesting of
200, whatever connectives and quantifiers are around it, and always does for one of 300;
in which of the two ways depends on which comes first in the text. -/
theorem nesting_reported (level : LogLevel) (text : String) (tree : Tree)
    (derived : (Reader.standard.derive level text).outcome = .ok tree) :
    ∃ tokens, (Scan.ofText text).result = .ok tokens ∧
      (tree.nesting ≤ 200 → ∀ label context cause, Reader.standard.outcome level text ≠
        .error (.reported (.conversion "Nesting too deep to convert" label context) cause)) ∧
      (300 ≤ tree.nesting →
        let placed := atDepths 0 (tokens.map PlacedToken.toToken)
        (∃ problem label context cause, Reader.standard.outcome level text =
          .error (.reported (.conversion problem label context) cause)) ∧
        (∀ front name depth back, placed = front ++ (name, depth) :: back →
          name.IsMalformedName → (∀ earlier ∈ front, ¬earlier.1.IsMalformedName) →
          (∀ earlier ∈ front, earlier.1.kind = "FUN" → earlier.2 ≤ 200) →
          Reader.standard.outcome level text = .error (.reported (.conversion
            ("Quoted name must be alphanumeric, got " ++ name.value) "name" "STRING") none)) ∧
        (∃ word, (word, 300) ∈ placed ∧ word.kind = "FUN") ∧
        ∀ front word back, placed = front ++ (word, 300) :: back → word.kind = "FUN" →
          (∀ earlier ∈ front, ¬earlier.1.IsMalformedName) →
          Reader.standard.outcome level text = .error (.reported (.conversion
            "Nesting too deep to convert" tree.label (String.intercalate ", " tree.childLabels))
            (some .overflow))) := by
  obtain ⟨_, tokens, scanned, parsed⟩ := Reader.standard_derive_eq_ok_iff.mp derived
  have lexemes := Scan.isLexeme_of_result scanned
  obtain ⟨phrase, written, rfl⟩ := (Grammar.derive_unmarked_iff (kinds_unmarked lexemes)).mp parsed
  rw [← written] at lexemes
  refine ⟨tokens, scanned, ?_⟩
  rw [Reader.outcome_of_tree derived, phrase.nesting_tree, ← written]
  constructor
  · intro shallow label context cause raised
    have fits : phrase.formula.nesting ≤ Tree.nestingLimit := Nat.le_trans shallow Tree.le_nestingLimit
    cases failed : phrase.tree.convert with
    | ok formula =>
      rw [failed] at raised
      cases raised
    | error fault =>
      obtain ⟨front, token, rest, split, _, faulty⟩ := phrase.convert_tree_error fits failed
      have member : token ∈ phrase.tokens := by simp [split]
      obtain ⟨_, rfl⟩ := Token.fault?_of_isLexeme (lexemes token member) faulty
      rw [failed] at raised
      injection raised with raised
      injection raised with raised
      injection raised with message
      exact message_improperName_ne _ message
  · intro deep
    have enters : Enters 0 phrase.tokens 300 := phrase.enters_tokens_iff.mpr ⟨by decide, deep⟩
    rw [phrase.convert_eq]
    refine ⟨?_, ?_, enters, ?_⟩
    · cases stopped : firstObstacle? 0 phrase.tokens with
      | none => exact absurd stopped (firstObstacle?_ne_none_of_enters Tree.nestingLimit_lt enters)
      | some obstacle => cases obstacle <;> exact ⟨_, _, _, _, rfl⟩
    · intro front name depth back split malformed formed shallow
      have passed : ∀ earlier ∈ front, earlier.1.kind = "FUN" → earlier.2 ≤ Tree.nestingLimit :=
        fun earlier member isFun => Nat.le_trans (shallow earlier member isFun) Tree.le_nestingLimit
      rw [firstObstacle?_of_malformedName lexemes split malformed formed passed]
      rfl
    · intro front word back split isFun formed
      rw [firstObstacle?_of_deep lexemes split isFun Tree.nestingLimit_lt formed]
      rfl

/-- A formula on one line, with a space before every lexeme. -/
def Formula.spaced (formula : Formula) : String :=
  String.ofList (Layout.chars (formula.spelling.map fun lexeme => ([' '], lexeme)) [])

theorem Lexeme.wellFormed_of_named {lexeme : Lexeme} (named : lexeme.Named) :
    lexeme.WellFormed := by
  cases lexeme with
  | keyword word => trivial
  | delimiter mark => trivial
  | quoted content =>
    have proper : isName (String.ofList content).toList = true := by rwa [String.toList_ofList]
    have formed := wellFormed_nameLexeme proper
    rwa [nameLexeme, String.toList_ofList] at formed

theorem Layout.admissibleAfter_spaced (afterWord : Bool) {lexemes : List Lexeme}
    (named : ∀ lexeme ∈ lexemes, lexeme.Named) :
    AdmissibleAfter afterWord (lexemes.map fun lexeme => ([' '], lexeme)) := by
  induction lexemes generalizing afterWord with
  | nil => trivial
  | cons lexeme rest ih =>
    obtain ⟨first, later⟩ := List.forall_mem_cons.mp named
    exact ⟨rfl, lexeme.wellFormed_of_named first, fun _ _ => List.cons_ne_nil _ _, ih _ later⟩

/-- Every formula with proper names has a text, in which all names are proper. -/
theorem derive_spaced (level : LogLevel) {formula : Formula} (named : formula.WellNamed) :
    ∃ (phrase : FormulaPhrase) (tokens : List PlacedToken), phrase.formula = formula ∧
      (Scan.ofText formula.spaced).result = .ok tokens ∧
      (∀ token ∈ tokens.map PlacedToken.toToken, token.Proper) ∧
      (Reader.standard.derive level formula.spaced).outcome = .ok phrase.tree := by
  obtain ⟨phrase, rfl, lexemes⟩ := formula.exists_phrase
  have named := phrase.formula.wellNamed_iff.mp named
  have holds : Scan.Holds phrase.formula.spaced.toList (phrase.formula.spelling.map Lexeme.written) := by
    have held := Scan.holds_chars (Layout.admissibleAfter_spaced false named)
      (List.forall_mem_nil _)
    rw [List.map_map] at held
    rw [Formula.spaced, String.toList_ofList]
    exact held
  obtain ⟨tokens, scanned, spelled⟩ := Scan.holds_iff.mp holds
  refine ⟨phrase, tokens, rfl, scanned, ?_, ?_⟩
  · have written : (tokens.map PlacedToken.toToken).map Token.written =
        phrase.formula.spelling.map Lexeme.written := by
      rw [List.map_map]
      exact spelled
    exact (forall_proper_iff written).mpr named
  · rw [← phrase.written_tokens lexemes] at holds
    exact Reader.standard_derive_iff_phrase.mpr ⟨phrase, holds, rfl⟩

/-- Applications around a variable, each the only argument of the next. -/
def Term.tower : Nat → Term
  | 0 => .var "x"
  | n + 1 => .app "f" [tower n]

theorem Term.nesting_tower (n : Nat) : (tower n).nesting = n := by
  induction n with
  | zero => rfl
  | succ n ih => simp [tower, nesting, nestingAll, ih]

theorem Term.wellNamed_tower (n : Nat) : (tower n).WellNamed := by
  induction n with
  | zero => exact (by decide : isName "x".toList = true)
  | succ n ih => exact ⟨by decide, ih, trivial⟩

/-- A relation to a tower of 300 applications cannot be read. -/
theorem nesting_reported_tower :
    ∃ tree, (Reader.standard.derive .silent (Formula.atom "P" [.tower 300]).spaced).outcome =
        .ok tree ∧ 300 ≤ tree.nesting ∧
      Reader.standard.outcome .silent (Formula.atom "P" [.tower 300]).spaced =
        .error (.reported (.conversion "Nesting too deep to convert" "relation"
          "REL, name, LBRACKET, terms, RBRACKET") (some .overflow)) := by
  have named : (Formula.atom "P" [.tower 300]).WellNamed :=
    ⟨by decide, Term.wellNamed_tower 300, trivial⟩
  obtain ⟨phrase, tokens, same, scanned, proper, derived⟩ := derive_spaced .silent named
  have deep : 300 ≤ phrase.tree.nesting := by
    rw [phrase.nesting_tree, same]
    simp [Formula.nesting, Term.nestingAll, Term.nesting_tower]
  refine ⟨phrase.tree, derived, deep, ?_⟩
  obtain ⟨tokens', scanned', _, reported⟩ := nesting_reported .silent _ _ derived
  obtain rfl := Except.ok.inj (scanned.symm.trans scanned')
  obtain ⟨_, _, ⟨word, member, isFun⟩, reported⟩ := reported deep
  obtain ⟨front, back, split⟩ := List.append_of_mem member
  have formed : ∀ earlier ∈ front, ¬earlier.1.IsMalformedName := by
    intro earlier among malformed
    have here : earlier ∈ atDepths 0 (tokens.map PlacedToken.toToken) := by simp [split, among]
    have read : earlier.1 ∈ tokens.map PlacedToken.toToken :=
      map_fst_atDepths 0 (tokens.map PlacedToken.toToken) ▸ List.mem_map_of_mem here
    exact malformed.2 (proper earlier.1 read)
  rw [reported front word back split isFun formed]
  cases phrase with
  | atom word name brackets args => rfl
  | constant | negation | connected | quantified => cases same

end FirstOrderText
