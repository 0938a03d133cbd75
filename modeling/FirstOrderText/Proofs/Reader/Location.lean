import FirstOrderText.Proofs.Conversion.Agreement
import FirstOrderText.Proofs.Grammar.ViablePrefix
import FirstOrderText.Proofs.Reader.Precedence
import FirstOrderText.Proofs.Token.Scan

/-! Where a text that is turned down is at fault. A rejection keeps the text, and it has an
index unless the text is blank, too long, or the beginning of a formula. What stands before
the index scans to its end, and at the index stands what the message names: a word or a
character that cannot be scanned, or a token that continues no sentence. -/
namespace FirstOrderText

namespace Scan

open Layout

/-- What stands before a token scans to its end. -/
theorem faultless_before_token {text : String} {token : PlacedToken}
    (member : token ∈ (ofText text).tokens) :
    (ofText (String.ofList (charsBetween text 0 token.index))).fault = none := by
  obtain ⟨layout, after, rest, whole, admissible, _, stops⟩ := exists_reads_run text 1
  have member : token ∈ placed 1 0 layout := stops.tokens_eq ▸ member
  obtain ⟨front, before, lexeme, back, rfl, rfl⟩ := exists_split_of_mem_placed admissible member
  obtain ⟨spaced, _⟩ := admissible.of_mem (List.mem_append_right front List.mem_cons_self)
  rw [chars_split] at whole
  simp only [Lexeme.place, Int.zero_add, charsBetween_zero whole]
  exact (ofText_chars admissible.of_append spaced).1

end Scan

/-- A text exceeds a limit on its length, if there is one. -/
def TooLong (limit : Option Int) (text : String) : Prop :=
  ∃ bound, limit = some bound ∧ bound < text.length

/-- Why the grammar of formulas turns a text down, under a limit on its length. -/
inductive TurnedDown (limit : Option Int) (text : String) : Rejection → Prop where
  | blank (blank : isBlank text = true) : TurnedDown limit text .blank
  | tooLong {bound : Int} (present : isBlank text = false) (limited : limit = some bound)
      (exceeds : bound < text.length) : TurnedDown limit text (.tooLong text.length bound)
  | lexical {fault : LexicalFault} (present : isBlank text = false) (fits : ¬TooLong limit text)
      (failed : (Scan.ofText text).fault = some fault) : TurnedDown limit text (.lexical fault)
  | ungrammatical {tokens : List PlacedToken} {fault : SyntaxFault}
      (present : isBlank text = false) (fits : ¬TooLong limit text)
      (scanned : (Scan.ofText text).result = .ok tokens)
      (failed : Grammar.derive (tokens.map PlacedToken.toToken) = .error fault) :
      TurnedDown limit text (.ungrammatical fault)

/-- The parser of the grammar of formulas gives the tree of the tokens, or their fault. -/
theorem Engine.standard_parse (text : String) (tokens : List Token) :
    (∃ tree, standard.parse text tokens = .tree tree) ∨
      ∃ fault, standard.parse text tokens = .rejected (.ungrammatical fault) ∧
        Grammar.derive tokens = .error fault := by
  cases derived : Grammar.derive tokens with
  | ok tree => exact Or.inl ⟨tree, by simp only [standard, derived]⟩
  | error fault => exact Or.inr ⟨fault, by simp only [standard, derived], rfl⟩

namespace Reader

variable {limit : Option Int} {level : LogLevel} {text message : String}
  {source : Option String} {index : Option Int} {cause : Option Cause}

theorem not_tooLong_of_fits (fits : exceededLimit? ⟨.standard, limit⟩ text = none) :
    ¬TooLong limit text := by
  rintro ⟨bound, rfl, exceeds⟩
  rw [exceededLimit?, Option.filter_some, if_pos (decide_eq_true exceeds)] at fits
  cases fits

/-- With the grammar of formulas, a text has a tree or is turned down. -/
theorem turnedDown_of_derive {failure : Failure}
    (failed : (derive ⟨.standard, limit⟩ level text).outcome = .error failure) :
    ∃ rejection, failure = .rejected rejection ∧ TurnedDown limit text rejection := by
  revert failed
  fun_cases derive ⟨.standard, limit⟩ level text with
  | case1 blank =>
    rintro ⟨⟩
    exact ⟨_, rfl, .blank blank⟩
  | case2 blank bound exceeded =>
    rintro ⟨⟩
    obtain ⟨limited, exceeds⟩ := Option.filter_eq_some_iff.mp exceeded
    exact ⟨_, rfl, .tooLong (Bool.eq_false_iff.mpr blank) limited (of_decide_eq_true exceeds)⟩
  | case3 _ _ _ unbuilt => cases unbuilt
  | case4 blank fits _ fault scanned =>
    rintro ⟨⟩
    exact ⟨_, rfl, .lexical (Bool.eq_false_iff.mpr blank) (not_tooLong_of_fits fits)
      (Scan.result_eq_error_iff.mp scanned)⟩
  | case5 blank fits _ tokens scanned _ _ parsed =>
    rintro ⟨⟩
    rcases Engine.standard_parse text (tokens.map PlacedToken.toToken) with
      ⟨tree, made⟩ | ⟨fault, made, refused⟩
    · cases made.symm.trans parsed
    · cases made.symm.trans parsed
      exact ⟨_, rfl, .ungrammatical (Bool.eq_false_iff.mpr blank) (not_tooLong_of_fits fits)
        scanned refused⟩
  | case6 _ _ _ tokens _ _ _ parsed | case7 _ _ _ tokens _ _ parsed =>
    rcases Engine.standard_parse text (tokens.map PlacedToken.toToken) with
      ⟨_, made⟩ | ⟨_, made, _⟩ <;> cases made.symm.trans parsed
  | case8 => rintro ⟨⟩

/-- A text that is turned down while it is read has no tree. -/
theorem derive_of_read {reader : Reader} {rejection : Rejection}
    (failed : (reader.read level text).outcome = .error (.rejected rejection)) :
    (reader.derive level text).outcome = .error (.rejected rejection) := by
  cases derived : (reader.derive level text).outcome with
  | error failure =>
    rw [read_of_error derived] at failed
    cases failed
    rfl
  | ok tree =>
    rw [read_of_tree derived] at failed
    cases converted : tree.convert <;> rw [converted] at failed <;> cases failed

/-- Reading a text, or deriving its tree, ends with a rejection and its cause, if any. -/
def Rejects (reader : Reader) (level : LogLevel) (text message : String) (source : Option String)
    (index : Option Int) (cause : Option Cause) : Prop :=
  ∃ failure, ((reader.read level text).outcome = .error failure ∨
      (reader.derive level text).outcome = .error failure) ∧
    failure.raised text = .reported (.rejection message source index) cause

/-- What the grammar of formulas rejects is turned down, and the rejection says why. -/
theorem exists_turnedDown
    (rejects : Rejects ⟨.standard, limit⟩ level text message source index cause) :
    ∃ rejection, TurnedDown limit text rejection ∧ rejection.message text = message ∧
      rejection.source? text = source ∧ rejection.index? = index ∧ rejection.cause? = cause := by
  obtain ⟨failure, failed, raised⟩ := rejects
  cases failure with
  | unbuilt _ | broken _ | unconverted _ => cases raised
  | rejected rejection =>
    cases raised
    have derived := failed.elim derive_of_read id
    obtain ⟨_, ⟨⟩, turnedDown⟩ := turnedDown_of_derive derived
    exact ⟨rejection, turnedDown, rfl, rfl, rfl, rfl⟩

end Reader

/-- What is at fault at a place of a text, with the message that names it and the cause: what
cannot be scanned, or a token of the text. -/
inductive FaultAt (text : String) (place : Int) : String → Option Cause → Prop where
  | lexical {fault : LexicalFault} {stop : Int} (index : fault.index = place)
      (impasse : Scan.Impasse (text.toList.drop place.toNat) fault stop) :
      FaultAt text place (fault.message ++ " in formula: " ++ text) (some .lexical)
  | syntactic {token : PlacedToken} (member : token ∈ (Scan.ofText text).tokens)
      (index : token.index = place)
      (value : token.value = String.ofList (charsBetween text place token.stop)) :
      FaultAt text place ("Syntax error at '" ++ token.value ++ "' (type: " ++ token.kind ++
        ", index: " ++ toString place ++ ") in formula: " ++ text) none

namespace TurnedDown

variable {limit : Option Int} {text : String} {rejection : Rejection}

theorem source?_eq (turnedDown : TurnedDown limit text rejection) :
    rejection.source? text = some text := by
  cases turnedDown <;> rfl

/-- The tokens of a text that is no formula could go on to be one when no token is at fault. -/
theorem index?_eq_none_iff (turnedDown : TurnedDown limit text rejection) :
    rejection.index? = none ↔ isBlank text = true ∨ TooLong limit text ∨
      ∃ tokens, (Scan.ofText text).result = .ok tokens ∧
        Grammar.ProperBeginning (tokens.map fun token => token.kind) := by
  cases turnedDown with
  | blank blank => exact iff_of_true rfl (Or.inl blank)
  | tooLong _ limited exceeds => exact iff_of_true rfl (Or.inr (Or.inl ⟨_, limited, exceeds⟩))
  | lexical present fits failed =>
    apply iff_of_false nofun
    rintro (blank | exceeds | ⟨tokens, scanned, _⟩)
    · exact Bool.false_ne_true (present.symm.trans blank)
    · exact fits exceeds
    · rw [Scan.result_eq_error_iff.mpr failed] at scanned
      cases scanned
  | @ungrammatical tokens fault present fits scanned failed =>
    have unmarked := kinds_unmarked (Scan.isLexeme_of_result scanned)
    have proper := Grammar.index?_eq_none_iff unmarked failed
    rw [List.map_map] at proper
    refine proper.trans ⟨?_, ?_⟩
    · intro beginning
      exact Or.inr (Or.inr ⟨tokens, scanned, beginning⟩)
    · rintro (blank | exceeds | ⟨_, scanned', beginning⟩)
      · exact absurd (present.symm.trans blank) Bool.false_ne_true
      · exact absurd exceeds fits
      · cases scanned.symm.trans scanned'
        exact beginning

theorem cause?_eq_lexical_iff (turnedDown : TurnedDown limit text rejection) :
    rejection.cause? = some .lexical ↔ isBlank text = false ∧ ¬TooLong limit text ∧
      ∃ fault, (Scan.ofText text).fault = some fault := by
  cases turnedDown with
  | blank blank =>
    apply iff_of_false nofun
    rintro ⟨present, _⟩
    exact Bool.false_ne_true (present.symm.trans blank)
  | tooLong _ limited exceeds =>
    apply iff_of_false nofun
    rintro ⟨_, fits, _⟩
    exact fits ⟨_, limited, exceeds⟩
  | lexical present fits failed => exact iff_of_true rfl ⟨present, fits, _, failed⟩
  | ungrammatical _ _ scanned _ =>
    apply iff_of_false nofun
    rintro ⟨_, _, _, failed⟩
    rw [(Scan.result_eq_ok_iff.mp scanned).1] at failed
    cases failed

theorem exists_fault_of_cause (turnedDown : TurnedDown limit text rejection)
    (caused : rejection.cause? = some .lexical) :
    ∃ fault, (Scan.ofText text).fault = some fault ∧ rejection.index? = some fault.index := by
  cases turnedDown with
  | lexical _ _ failed => exact ⟨_, failed, rfl⟩
  | blank _ | tooLong _ _ _ | ungrammatical _ _ _ _ => cases caused

/-- At the index of a rejection stands what is at fault, and what is before it scans. -/
theorem faultAt (turnedDown : TurnedDown limit text rejection) {place : Int}
    (placed : rejection.index? = some place) :
    (0 ≤ place ∧ place < text.length) ∧
      (Scan.ofText (String.ofList (charsBetween text 0 place))).fault = none ∧
      FaultAt text place (rejection.message text) rejection.cause? := by
  cases turnedDown with
  | blank _ | tooLong _ _ _ => cases placed
  | lexical _ _ failed =>
    cases placed
    obtain ⟨inside, faultless, _, impasse⟩ := Scan.stuckAt_of_fault failed
    exact ⟨inside, faultless, .lexical rfl impasse⟩
  | @ungrammatical tokens fault _ _ scanned failed =>
    have unmarked := kinds_unmarked (Scan.isLexeme_of_result scanned)
    obtain ⟨faultless, rfl⟩ := Scan.result_eq_ok_iff.mp scanned
    rcases Grammar.derive_error_cases unmarked failed with
      ⟨rfl, _⟩ | ⟨front, token, rest, rfl, whole, _, _⟩
    · cases placed
    · have among : token ∈ (Scan.ofText text).tokens.map PlacedToken.toToken :=
        whole ▸ List.mem_append_right front List.mem_cons_self
      obtain ⟨read, member, rfl⟩ := List.mem_map.mp among
      cases placed
      have lossless := Scan.lossless_ofText text
      obtain ⟨begins, spans, ends⟩ := lossless.within read member
      have stops := lossless.stop
      refine ⟨⟨begins, by omega⟩, Scan.faultless_before_token member, ?_⟩
      exact .syntactic member rfl (lossless.value read member)

end TurnedDown

/-- How a rejection of a text under a limit on its length tells where the text is at fault. -/
structure Locates (limit : Option Int) (text message : String) (source : Option String)
    (index : Option Int) (cause : Option Cause) : Prop where
  /-- The rejection keeps the text. -/
  source : source = some text
  /-- There is no index when the text is blank, too long, or could go on to be a formula. -/
  unplaced : index = none ↔ isBlank text = true ∨ TooLong limit text ∨
    ∃ tokens, (Scan.ofText text).result = .ok tokens ∧
      Grammar.ProperBeginning (tokens.map fun token => token.kind)
  /-- The cause is a lexical fault when a text that is neither blank nor too long has one. -/
  lexical : cause = some .lexical ↔
    isBlank text = false ∧ ¬TooLong limit text ∧ ∃ fault, (Scan.ofText text).fault = some fault
  /-- The index is then that of the lexical fault, whatever the tokens before it are. -/
  lexicalIndex : cause = some .lexical →
    ∃ fault, (Scan.ofText text).fault = some fault ∧ index = some fault.index
  /-- An index is a place in the text. -/
  inside : ∀ place, index = some place → 0 ≤ place ∧ place < text.length
  /-- What stands before the index scans to its end. -/
  before : ∀ place, index = some place →
    (Scan.ofText (String.ofList (charsBetween text 0 place))).fault = none
  /-- At the index stands what is at fault. -/
  fault : ∀ place, index = some place → FaultAt text place message cause

/-- Every rejection of a text by the grammar of formulas, with any limit on the length of
texts, tells where the text is at fault. -/
theorem rejection_locates (limit : Option Int) (level : LogLevel) (text message : String)
    (source : Option String) (index : Option Int) (cause : Option Cause)
    (rejects : Reader.Rejects ⟨.standard, limit⟩ level text message source index cause) :
    Locates limit text message source index cause := by
  obtain ⟨rejection, turnedDown, rfl, rfl, rfl, rfl⟩ := Reader.exists_turnedDown rejects
  constructor
  case source => exact turnedDown.source?_eq
  case unplaced => exact turnedDown.index?_eq_none_iff
  case lexical => exact turnedDown.cause?_eq_lexical_iff
  case lexicalIndex => exact turnedDown.exists_fault_of_cause
  case inside => exact fun _ placed => (turnedDown.faultAt placed).1
  case before => exact fun _ placed => (turnedDown.faultAt placed).2.1
  case fault => exact fun _ placed => (turnedDown.faultAt placed).2.2

/-- A character that cannot be scanned is at fault, though the parenthesis before it already
begins no formula. -/
theorem rejection_locates_invalid_character :
    let text := "\n(T) 𝔽"
    let message := "Invalid character '𝔽' at index 5 in formula: \n(T) 𝔽"
    Reader.Rejects ⟨.standard, some 9⟩ .silent text message (some text) (some 5) (some .lexical) ∧
      FaultAt text 5 message (some .lexical) := by
  intro text message
  have rejects : Reader.Rejects ⟨.standard, some 9⟩ .silent text message (some text) (some 5)
      (some .lexical) := by
    refine ⟨.rejected (.lexical (.invalidCharacter '𝔽' 5)), Or.inl ?_, ?_⟩ <;> decide +kernel
  exact ⟨rejects, (rejection_locates _ _ _ _ _ _ _ rejects).fault 5 rfl⟩

/-! What a reason repeats of the text. What a reason names itself stays on its line: a word, a
character, a token, a number, or the labels of a node. The reason for turning a text down goes
on with the whole text, unless the text is blank or too long. -/

section
variable {token : Token} {rest : List Char} {fault : LexicalFault} {stop : Int}

theorem Terminal.inline_label (kind : Terminal) : Inline kind.label :=
  (by decide : ∀ kind ∈ all, Inline kind.label) kind (mem_all kind)

/-- No token runs over a newline. -/
theorem Token.Agrees.inline (agrees : token.Agrees) : Inline token.value ∧ Inline token.kind := by
  rcases agrees with ⟨keyword, value, kind⟩ | ⟨mark, value, kind⟩ | ⟨content, value, _, inline, kind⟩
  · rw [value, kind]
    exact ⟨(by decide : ∀ keyword ∈ Keyword.all, Inline keyword.spelling) keyword keyword.mem_all,
      (Terminal.keyword keyword).inline_label⟩
  · rw [value, kind]
    exact ⟨by cases mark <;> decide, (Terminal.delimiter mark).inline_label⟩
  · rw [value, kind, Inline, String.toList_ofList]
    exact ⟨by simp [inline], Terminal.name.inline_label⟩

theorem LexicalFault.message_unknownWord (word : String) (index : Int) :
    (unknownWord word index).message =
      "Unknown word '" ++ word ++ "' at index " ++ toString index := rfl

theorem LexicalFault.message_invalidCharacter (char : Char) (index : Int) :
    (invalidCharacter char index).message =
      "Invalid character '" ++ String.singleton char ++ "' at index " ++ toString index := rfl

/-- What cannot be scanned is named on one line. -/
theorem Scan.Impasse.inline_message (impasse : Impasse rest fault stop) : Inline fault.message := by
  cases impasse with
  | @word c more _ _ letter inside _ _ =>
    have part : Inline (String.ofList (c :: more)) := by
      rw [Inline, String.toList_ofList]
      intro newline
      have inWord : isWordPart '\n' = true := by
        rcases List.mem_cons.mp newline with rfl | later
        · exact absurd letter (by decide)
        · exact inside _ later
      exact absurd inWord (by decide)
    simp only [LexicalFault.message_unknownWord, inline_append, part, inline_toString_int]
    decide
  | @character c _ _ visible _ _ _ =>
    have part : Inline (String.singleton c) := by
      rw [Inline, String.toList_singleton, List.mem_singleton]
      rintro rfl
      exact absurd visible (by decide)
    simp only [LexicalFault.message_invalidCharacter, inline_append, part, inline_toString_int]
    decide

end

/-- The report of a problem stays on its line when what it is made of does. -/
theorem ConversionFault.inline_message {fault : ConversionFault}
    (problem : Inline fault.problem.message) (label : Inline fault.label)
    (children : ∀ label ∈ fault.childLabels, Inline label) : Inline fault.message := by
  have context : Inline fault.context := inline_intercalate children
  rw [message, conversionMessage]
  split
  · simp only [inline_append, problem, label]
    decide
  · simp only [inline_append, problem, label, context]
    decide

/-- The labels of a phrase's root and of its children stay on their line. -/
theorem FormulaPhrase.inline_labels (phrase : FormulaPhrase) :
    ∀ label ∈ phrase.tree.label :: phrase.tree.childLabels, Inline label := by
  cases phrase with
  | constant value word =>
    cases value with
    | true => exact (by decide : ∀ label ∈ ["truth", "TRUE"], Inline label)
    | false => exact (by decide : ∀ label ∈ ["truth", "FALSE"], Inline label)
  | atom word name brackets args =>
    exact (by decide : ∀ label ∈ ["relation", "REL", "name", "LBRACKET", "terms", "RBRACKET"],
      Inline label)
  | negation word parens operand =>
    exact (by decide : ∀ label ∈ ["not", "NOT", "group"], Inline label)
  | connected op word parens left parens' right =>
    cases op with
    | conjunction => exact (by decide : ∀ label ∈ ["and", "AND", "group", "group"], Inline label)
    | disjunction => exact (by decide : ∀ label ∈ ["or", "OR", "group", "group"], Inline label)
    | implication =>
      exact (by decide : ∀ label ∈ ["implies", "IMPLIES", "group", "group"], Inline label)
  | quantified binder word name parens body =>
    cases binder with
    | existential =>
      exact (by decide : ∀ label ∈ ["exists", "EXISTS", "name", "group"], Inline label)
    | universal =>
      exact (by decide : ∀ label ∈ ["forall", "FORALL", "name", "group"], Inline label)

/-- A phrase that was read off a text fails to convert for a reason on one line. -/
theorem FormulaPhrase.inline_message {phrase : FormulaPhrase} {fault : ConversionFault}
    (read : ∀ token ∈ phrase.tokens, token.IsLexeme)
    (inline : ∀ token ∈ phrase.tokens, Inline token.value)
    (failed : phrase.tree.convert = .error fault) : Inline fault.message := by
  rw [phrase.convert_eq] at failed
  cases stopped : firstObstacle? 0 phrase.tokens with
  | none =>
    rw [stopped] at failed
    cases failed
  | some obstacle =>
    rw [stopped] at failed
    cases obstacle with
    | overflow =>
      cases failed
      obtain ⟨label, children⟩ := List.forall_mem_cons.mp phrase.inline_labels
      exact ConversionFault.inline_message (by decide : Inline "Nesting too deep to convert") label
        children
    | fault found =>
      cases failed
      obtain ⟨⟨token, depth⟩, member, here⟩ := List.exists_of_findSome?_eq_some stopped
      have member : token ∈ phrase.tokens := by
        rw [← map_fst_atDepths 0 phrase.tokens]
        exact List.mem_map_of_mem member
      rw [obstacleAt?] at here
      split at here
      · cases here
      · obtain ⟨_, faulty, same⟩ := Option.map_eq_some_iff.mp here
        cases same
        obtain ⟨_, rfl⟩ := Token.fault?_of_isLexeme (read token member) faulty
        rw [message_improperName]
        simp only [inline_append, inline token member]
        decide

section
variable {limit : Option Int} {level : LogLevel} {text : String} {rejection : Rejection}

/-- The reason for turning a text down goes on with the text, unless this is blank or too
long. -/
theorem TurnedDown.message_cases (turnedDown : TurnedDown limit text rejection) :
    ((isBlank text = true ∨ TooLong limit text) ∧ Inline (rejection.message text)) ∨
      (¬TooLong limit text ∧ ∃ front, Inline front ∧ rejection.message text = front ++ text) := by
  cases turnedDown with
  | blank blank => exact Or.inl ⟨Or.inl blank, (by decide : Inline "Syntax error: empty formula")⟩
  | @tooLong bound _ limited exceeds =>
    refine Or.inl ⟨Or.inr ⟨bound, limited, exceeds⟩, ?_⟩
    have message : (Rejection.tooLong text.length bound).message text =
        "Formula length " ++ toString text.length ++ " exceeds limit of " ++ toString bound := rfl
    simp only [message, inline_append, inline_toString_nat, inline_toString_int]
    decide
  | @lexical fault _ fits failed =>
    have named := (Scan.stuckAt_of_fault failed).impasse.inline_message
    have seam : Inline " in formula: " := by decide
    exact Or.inr ⟨fits, fault.message ++ " in formula: ", inline_append.mpr ⟨named, seam⟩, rfl⟩
  | @ungrammatical tokens fault _ fits scanned failed =>
    have unmarked := kinds_unmarked (Scan.isLexeme_of_result scanned)
    obtain ⟨_, rfl⟩ := Scan.result_eq_ok_iff.mp scanned
    refine Or.inr ⟨fits, ?_⟩
    rcases Grammar.derive_error_cases unmarked failed with
      ⟨rfl, _⟩ | ⟨front, token, rest, rfl, whole, _, _⟩
    · exact ⟨"Syntax error: unexpected end of formula: ", by decide, rfl⟩
    · have among : token ∈ (Scan.ofText text).tokens.map PlacedToken.toToken :=
        whole ▸ List.mem_append_right front List.mem_cons_self
      obtain ⟨read, member, rfl⟩ := List.mem_map.mp among
      obtain ⟨value, kind⟩ := ((Scan.lossless_ofText text).agrees read member).1.inline
      refine ⟨"Syntax error at '" ++ read.value ++ "' (type: " ++ read.kind ++ ", index: " ++
        toString read.index ++ ") in formula: ", ?_, rfl⟩
      simp only [inline_append, value, kind, inline_toString_int]
      decide

/-- A text that has a tree scans, and the tree is that of its tokens. -/
theorem Reader.exists_tokens_of_derive {tree : Tree}
    (derived : (derive ⟨.standard, limit⟩ level text).outcome = .ok tree) :
    ∃ tokens, (Scan.ofText text).result = .ok tokens ∧
      Grammar.derive (tokens.map PlacedToken.toToken) = .ok tree := by
  revert derived
  fun_cases derive ⟨.standard, limit⟩ level text with
  | case8 _ _ _ tokens scanned _ made parsed =>
    rintro ⟨⟩
    refine ⟨tokens, scanned, ?_⟩
    cases derived : Grammar.derive (tokens.map PlacedToken.toToken) with
    | ok tree =>
      simp only [Engine.standard, derived] at parsed
      cases parsed
      rfl
    | error fault =>
      simp only [Engine.standard, derived] at parsed
      cases parsed
  | _ => rintro ⟨⟩

end

/-- What reading a text leaves behind at the verbose level: one verdict, which is that of the
outcome. Only where the text is turned down need it not scan, nor the reason stay on its line. -/
inductive Told (limit : Option Int) (text : String) : Logged Formula → Prop where
  | accepted {formula : Formula} (faultless : (Scan.ofText text).fault = none) :
      Told limit text ⟨[.accepted text], .ok formula⟩
  | rejected {rejection : Rejection} (turnedDown : TurnedDown limit text rejection) :
      Told limit text ⟨[.rejected text (rejection.message text)], .error (.rejected rejection)⟩
  | unconverted {fault : ConversionFault} (faultless : (Scan.ofText text).fault = none)
      (inline : Inline fault.message) :
      Told limit text ⟨[.unconverted text fault.message], .error (.unconverted fault)⟩

namespace Reader

/-- At the verbose level nothing is written on the way to a tree but that there is none. -/
theorem derive_verbose_journal (reader : Reader) (text : String) :
    (reader.derive .verbose text).journal =
      match (reader.derive .verbose text).outcome with
      | .error (.rejected rejection) => [.rejected text (rejection.message text)]
      | _ => [] := by
  fun_cases derive reader .verbose text <;> rfl

theorem told_read (limit : Option Int) (text : String) :
    Told limit text (read ⟨.standard, limit⟩ .verbose text) := by
  have written := derive_verbose_journal ⟨.standard, limit⟩ text
  cases derived : (derive ⟨.standard, limit⟩ .verbose text).outcome with
  | error failure =>
    obtain ⟨rejection, rfl, turnedDown⟩ := turnedDown_of_derive derived
    rw [derived] at written
    rw [read_of_error derived, written]
    exact .rejected turnedDown
  | ok tree =>
    obtain ⟨tokens, scanned, parsed⟩ := exists_tokens_of_derive derived
    have lexemes := Scan.isLexeme_of_result scanned
    obtain ⟨phrase, tokens_eq, rfl⟩ := (Grammar.derive_unmarked_iff (kinds_unmarked lexemes)).mp parsed
    obtain ⟨faultless, rfl⟩ := Scan.result_eq_ok_iff.mp scanned
    rw [derived] at written
    rw [read_of_tree derived, written]
    cases converted : phrase.tree.convert with
    | ok formula => exact .accepted faultless
    | error fault =>
      have inline : ∀ token ∈ phrase.tokens, Inline token.value := by
        rw [tokens_eq, List.forall_mem_map]
        intro token member
        exact ((Scan.lossless_ofText text).agrees token member).1.inline.1
      exact .unconverted faultless (phrase.inline_message (tokens_eq ▸ lexemes) inline converted)

end Reader

end FirstOrderText
