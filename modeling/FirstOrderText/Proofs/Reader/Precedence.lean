import FirstOrderText.Proofs.Token.Lexemes
import FirstOrderText.Reader.Stage

/-! Which failure decides. The stages are judged each by itself, and what reading a text
comes to is what the first of them that fails raises. The journal holds the verdict that
goes with it, once, and no other verdict. -/
namespace FirstOrderText

namespace Reader

variable (reader : Reader) (text : String)

theorem raisedAt_presence : reader.raisedAt text .presence =
    if isBlank text then some ((Failure.rejected .blank).raised text) else none := rfl

theorem raisedAt_length : reader.raisedAt text .length =
    (reader.exceededLimit? text).map fun limit =>
      (Failure.rejected (.tooLong text.length limit)).raised text := by
  unfold raisedAt exceededLimit?
  cases reader.limit with
  | none => rfl
  | some limit =>
    dsimp only
    rw [Option.filter_some]
    by_cases exceeds : limit < text.length
    · rw [if_pos exceeds, if_pos (decide_eq_true exceeds)]
      rfl
    · rw [if_neg exceeds, if_neg (by simpa using exceeds)]
      rfl

theorem raisedAt_construction : reader.raisedAt text .construction =
    match reader.engine.build with
    | .error reason => some ((Failure.unbuilt reason).raised text)
    | .ok () => none := by
  unfold raisedAt Engine.build
  cases reader.engine.scanner with
  | error reason => rfl
  | ok _ => cases reader.engine.parser <;> rfl

theorem raisedAt_scanning : reader.raisedAt text .scanning =
    match (Scan.ofText text).result with
    | .error fault => some ((Failure.rejected (.lexical fault)).raised text)
    | .ok _ => none := by
  unfold raisedAt Scan.result
  cases (Scan.ofText text).fault <;> rfl

theorem parsed?_eq : reader.parsed? text =
    match (Scan.ofText text).result with
    | .error _ => none
    | .ok tokens => some (reader.engine.parse text (tokens.map PlacedToken.toToken)) := by
  unfold parsed? Scan.result
  cases (Scan.ofText text).fault <;> rfl

/-- Once a text has tokens, what the parser makes of them decides. -/
theorem findSome?_of_tokens {tokens : List PlacedToken} (blank : ¬isBlank text = true)
    (fits : reader.exceededLimit? text = none) (built : reader.engine.build = .ok ())
    (scanned : (Scan.ofText text).result = .ok tokens) :
    Stage.toTree.findSome? (reader.raisedAt text) =
      (reader.raisedAt text .parsing).or (reader.raisedAt text .derivation) := by
  simp only [Stage.toTree, List.findSome?, raisedAt_presence, if_neg blank, raisedAt_length, fits,
    Option.map_none, raisedAt_construction, built, raisedAt_scanning, scanned]
  cases reader.raisedAt text .parsing with
  | some raised => rfl
  | none => cases reader.raisedAt text .derivation <;> rfl

/-- A text has a tree when no stage fails, and otherwise the first failure is raised. -/
theorem derive_first_failure (level : LogLevel) :
    match Stage.toTree.findSome? (reader.raisedAt text) with
    | some raised => ∃ failure, (reader.derive level text).outcome = .error failure ∧
        failure.raised text = raised
    | none => ∃ tree, (reader.derive level text).outcome = .ok tree ∧
        reader.parsed? text = some (.tree tree) := by
  fun_cases derive reader level text with
  | case1 blank =>
    simp only [Stage.toTree, List.findSome?, raisedAt_presence, if_pos blank]
    exact ⟨_, rfl, rfl⟩
  | case2 blank limit exceeded =>
    simp only [Stage.toTree, List.findSome?, raisedAt_presence, if_neg blank, raisedAt_length,
      exceeded, Option.map_some]
    exact ⟨_, rfl, rfl⟩
  | case3 blank fits reason unbuilt =>
    simp only [Stage.toTree, List.findSome?, raisedAt_presence, if_neg blank, raisedAt_length, fits,
      Option.map_none, raisedAt_construction, unbuilt]
    exact ⟨_, rfl, rfl⟩
  | case4 blank fits built fault scanned =>
    simp only [Stage.toTree, List.findSome?, raisedAt_presence, if_neg blank, raisedAt_length, fits,
      Option.map_none, raisedAt_construction, built, raisedAt_scanning, scanned]
    exact ⟨_, rfl, rfl⟩
  | case5 blank fits built tokens scanned counted rejection parsed =>
    rw [findSome?_of_tokens reader text blank fits built scanned]
    simp only [raisedAt, parsed?_eq, scanned, parsed, Option.some_or]
    exact ⟨_, rfl, rfl⟩
  | case6 blank fits built tokens scanned counted message parsed =>
    rw [findSome?_of_tokens reader text blank fits built scanned]
    simp only [raisedAt, parsed?_eq, scanned, parsed, Option.some_or]
    exact ⟨_, rfl, rfl⟩
  | case7 blank fits built tokens scanned counted parsed =>
    rw [findSome?_of_tokens reader text blank fits built scanned]
    simp only [raisedAt, parsed?_eq, scanned, parsed, Option.none_or]
    exact ⟨_, rfl, rfl⟩
  | case8 blank fits built tokens scanned counted tree parsed =>
    rw [findSome?_of_tokens reader text blank fits built scanned]
    simp only [raisedAt, parsed?_eq, scanned, parsed, Option.none_or]
    exact ⟨tree, rfl, rfl⟩

end Reader

/-- A verdict that is recorded with all details is the only one when none came before. -/
theorem Journal.filter_isVerdict {journal : Journal} {entry : Entry}
    (undecided : journal.filter Entry.isVerdict = []) (verdict : entry.isVerdict = true) :
    (journal ++ record .debug entry).filter Entry.isVerdict = [entry] := by
  rw [List.filter_append, undecided, record_debug, List.nil_append, List.filter_cons_of_pos verdict,
    List.filter_nil]

namespace Reader

theorem reject_verdicts (text : String) {journal : Journal} (rejection : Rejection)
    (undecided : journal.filter Entry.isVerdict = []) :
    (reject .debug text journal rejection).journal.filter Entry.isVerdict =
      verdicts text (.error ((Failure.rejected rejection).raised text)) :=
  Journal.filter_isVerdict undecided rfl

/-- Deriving a tree records a verdict only where it turns the text down. -/
theorem derive_verdicts (reader : Reader) (text : String) :
    (reader.derive .debug text).journal.filter Entry.isVerdict =
      match (reader.derive .debug text).outcome with
      | .error failure => verdicts text (.error (failure.raised text))
      | .ok _ => [] := by
  fun_cases derive reader .debug text with
  | case1 blank => exact reject_verdicts text _ rfl
  | case2 blank limit exceeded => exact reject_verdicts text _ rfl
  | case3 blank fits reason unbuilt => rfl
  | case4 blank fits built fault scanned => exact reject_verdicts text _ rfl
  | case5 blank fits built tokens scanned counted rejection parsed =>
    exact reject_verdicts text rejection rfl
  | case6 blank fits built tokens scanned counted message parsed => rfl
  | case7 blank fits built tokens scanned counted parsed => exact reject_verdicts text _ rfl
  | case8 blank fits built tokens scanned counted tree parsed => rfl

section
variable {reader : Reader} {level : LogLevel} {text : String}

/-- Without a tree, reading ends as deriving did. -/
theorem read_of_error {failure : Failure}
    (stopped : (reader.derive level text).outcome = .error failure) :
    reader.read level text = ⟨(reader.derive level text).journal, .error failure⟩ := by
  unfold read
  cases logged : reader.derive level text with
  | mk journal outcome =>
    rw [logged] at stopped
    obtain rfl := stopped
    rfl

/-- With a tree, its conversion decides. -/
theorem read_of_tree {tree : Tree} (derived : (reader.derive level text).outcome = .ok tree) :
    reader.read level text =
      match tree.convert with
      | .ok formula =>
        ⟨(reader.derive level text).journal ++ Journal.record level (.accepted text), .ok formula⟩
      | .error fault =>
        ⟨(reader.derive level text).journal ++ Journal.record level (.unconverted text fault.message),
          .error (.unconverted fault)⟩ := by
  unfold read
  cases logged : reader.derive level text with
  | mk journal outcome =>
    rw [logged] at derived
    obtain rfl := derived
    rfl

end

/-- What reading a text comes to is decided by the first stage that fails, and when none
does, it is the formula of the tree. At the level of all details the journal holds the
verdict that goes with it and no other. -/
theorem read_decided_by_first_failure (reader : Reader) (text : String) :
    (∀ level, match Stage.order.findSome? (reader.raisedAt text) with
      | some raised => reader.outcome level text = .error raised
      | none => ∃ tree formula, reader.parsed? text = some (.tree tree) ∧
          tree.convert = .ok formula ∧ reader.outcome level text = .ok formula) ∧
    (reader.read .debug text).journal.filter Entry.isVerdict =
      verdicts text (reader.outcome .debug text) := by
  constructor
  · intro level
    have derived := derive_first_failure reader text level
    rw [Stage.order, List.findSome?_append]
    cases early : Stage.toTree.findSome? (reader.raisedAt text) with
    | some raised =>
      rw [early] at derived
      obtain ⟨failure, stopped, rfl⟩ := derived
      rw [Option.some_or, outcome, read_of_error stopped]
      rfl
    | none =>
      rw [early] at derived
      obtain ⟨tree, derived, parsed⟩ := derived
      rw [Option.none_or, outcome, read_of_tree derived]
      cases converted : tree.convert with
      | error fault =>
        have late : [Stage.conversion].findSome? (reader.raisedAt text) =
            some ((Failure.unconverted fault).raised text) := by
          simp only [List.findSome?, raisedAt, parsed, converted]
          rfl
        rw [late]
        rfl
      | ok formula =>
        have late : [Stage.conversion].findSome? (reader.raisedAt text) = none := by
          simp only [List.findSome?, raisedAt, parsed, converted]
        rw [late]
        exact ⟨tree, formula, parsed, converted, rfl⟩
  · have undecided := derive_verdicts reader text
    rw [outcome]
    cases derived : (reader.derive .debug text).outcome with
    | error failure =>
      rw [read_of_error derived]
      rw [derived] at undecided
      exact undecided
    | ok tree =>
      rw [derived] at undecided
      rw [read_of_tree derived]
      cases tree.convert with
      | error fault => exact Journal.filter_isVerdict undecided rfl
      | ok formula => exact Journal.filter_isVerdict undecided rfl

/-- A word that is not reserved, at the end of a text, comes before the first token that
continues no sentence. -/
example : Stage.order.findSome? (standard.raisedAt ") x") = some (.reported
    (.rejection "Unknown word 'x' at index 2 in formula: ) x" (some ") x") (some 2))
    (some .lexical)) := by
  decide +kernel

end Reader

end FirstOrderText
