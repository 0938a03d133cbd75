import FirstOrderText.Proofs.Token.Layout

/-! Scanning one text behind another. Where no word runs across the seam, the tokens of
the first are followed by those of the second, which is scanned as if it stood alone but
for its place. What the tokens are, as opposed to where they stand, is the same at every
place, so that texts can be put together from the lexemes that they hold. -/
namespace FirstOrderText

/-- A token so many lines and characters further on. -/
def PlacedToken.moved (lines characters : Int) (token : PlacedToken) : PlacedToken where
  kind := token.kind
  value := token.value
  index := token.index + characters
  line := token.line + lines
  stop := token.stop + characters

/-- A fault so many characters further on. -/
def LexicalFault.moved (characters : Int) : LexicalFault → LexicalFault
  | .unknownWord word index => .unknownWord word (index + characters)
  | .invalidCharacter char index => .invalidCharacter char (index + characters)

theorem Lexeme.place_moved (lexeme : Lexeme) (line index lines characters : Int) :
    lexeme.place (line + lines) (index + characters) =
      (lexeme.place line index).moved lines characters := by
  simp only [place, PlacedToken.moved, PlacedToken.mk.injEq, true_and]
  omega

namespace Scan

open Layout

/-- A scan so many lines and characters further on. -/
def moved (lines characters : Int) (scan : Scan) : Scan where
  tokens := scan.tokens.map (.moved lines characters)
  fault := scan.fault.map (.moved characters)
  line := scan.line + lines
  index := scan.index + characters

/-- What is read does not depend on the place where it is read. -/
theorem remaining_moved (line index lines characters : Int) (text : List Char) :
    remaining (line + lines) (index + characters) text =
      (remaining line index text).moved lines characters := by
  fun_induction remaining line index text with
  | case1 line index => rw [remaining, moved]; rfl
  | case2 line index c rest space ih =>
    rw [remaining, if_pos space, ← ih, Int.add_right_comm]
  | case3 line index c rest layout lexeme found ih =>
    rw [remaining_lexeme _ _ found, lexeme.place_moved, Int.add_right_comm, ih]
    rfl
  | case4 line index c rest layout newline ih =>
    rw [remaining, if_neg layout, newline]
    dsimp only
    rw [Int.add_right_comm, Int.add_right_comm index, ih]
  | case5 line index c rest layout word unknown =>
    rw [remaining, if_neg layout, unknown, moved]
    simp only [Int.add_right_comm, List.map_nil, Option.map_some, LexicalFault.moved]
  | case6 line index c rest layout nothing =>
    rw [remaining, if_neg layout, nothing]
    rfl

/-- A scan without a fault has read an admissible layout to its end. -/
theorem exists_layout {line index : Int} {text : List Char}
    (faultless : (remaining line index text).fault = none) :
    ∃ layout after, Layout.Admissible layout ∧ (∀ c ∈ after, isLayout c = true) ∧
      text = chars layout after ∧ (remaining line index text).tokens = placed line index layout := by
  obtain ⟨layout, after, rest, written, admissible, passed, stops⟩ :=
    exists_reads line index text false nofun
  generalize remaining line index text = scan at faultless stops ⊢
  cases stops with
  | atEnd =>
    rw [List.append_nil] at written
    exact ⟨layout, after, admissible, passed, written, rfl⟩
  | atWord _ | atCharacter _ => cases faultless

/-- What stands behind a text without a fault is scanned from where that text ends. -/
theorem remaining_append (line index : Int) {front back : List Char}
    (faultless : (remaining line index front).fault = none) (ends : WordEnds back) :
    remaining line index (front ++ back) = behind (remaining line index front).tokens
      (remaining (line + newlines front) (index + front.length) back) := by
  obtain ⟨layout, after, admissible, passed, rfl, tokens⟩ := exists_layout faultless
  have apart : WordEnds (after ++ back) := wordEnds_of_layout passed fun _ => ends
  rw [tokens, ← chars_after_append, remaining_chars line index admissible apart, remaining_layout _ _ passed,
    chars_eq_append layout after, newlines_append, List.length_append]
  push_cast
  simp only [Int.add_assoc]

/-- Behind layout, a text is scanned as if it stood alone but for its place. -/
theorem remaining_apart (line index : Int) {front gap : List Char}
    (faultless : (remaining line index front).fault = none)
    (spaced : ∀ c ∈ gap, isLayout c = true) (apart : gap ≠ []) (back : List Char) :
    remaining line index (front ++ (gap ++ back)) = behind (remaining line index front).tokens
      ((remaining line index back).moved (newlines (front ++ gap)) (front ++ gap).length) := by
  have ends : WordEnds (gap ++ back) := wordEnds_of_layout spaced fun touching => absurd touching apart
  rw [remaining_append line index faultless ends, remaining_layout _ _ spaced, ← remaining_moved,
    newlines_append, List.length_append]
  push_cast
  simp only [Int.add_assoc]

/-- Some characters hold tokens of these kinds and values, wherever they stand, and nothing
else but layout. -/
def Holds (text : List Char) (written : List (String × String)) : Prop :=
  ∀ line index, (remaining line index text).fault = none ∧
    (remaining line index text).tokens.map (fun token => token.toToken.written) = written

theorem holds_chars {layout : Layout} {after : List Char} (admissible : layout.Admissible)
    (passed : ∀ c ∈ after, isLayout c = true) :
    Holds (chars layout after) (layout.map fun piece => piece.2.written) := by
  intro line index
  rw [remaining_to_end line index admissible passed]
  exact ⟨rfl, map_written_placed line index layout⟩

/-- What a whole text holds is what its scan finds. -/
theorem holds_iff {text : String} {written : List (String × String)} :
    Holds text.toList written ↔ ∃ tokens, (ofText text).result = .ok tokens ∧
      tokens.map (fun token => token.toToken.written) = written := by
  simp only [result_eq_ok_iff, ofText_eq_remaining]
  constructor
  · intro holds
    obtain ⟨faultless, same⟩ := holds 1 0
    exact ⟨_, ⟨faultless, rfl⟩, same⟩
  · rintro ⟨tokens, ⟨faultless, rfl⟩, same⟩
    obtain ⟨layout, after, admissible, passed, whole, placed⟩ := exists_layout faultless
    rw [placed, map_written_placed] at same
    rw [whole, ← same]
    exact holds_chars admissible passed

theorem holds_nil : Holds [] [] := by
  have admissible : Layout.Admissible [] := trivial
  exact holds_chars admissible (List.forall_mem_nil _)

section
variable {text back : List Char} {written first second : List (String × String)}

theorem Holds.layout (after : Holds text written) {gap : List Char}
    (spaced : ∀ c ∈ gap, isLayout c = true) : Holds (gap ++ text) written := by
  intro line index
  rw [remaining_layout line index spaced]
  exact after _ _

theorem Holds.lexeme (after : Holds text written) (lexeme : Lexeme) (formed : lexeme.WellFormed)
    (ends : isWord lexeme = true → WordEnds text) :
    Holds (lexeme.chars ++ text) (lexeme.written :: written) := by
  intro line index
  rw [remaining_lexeme line index (Head.read_chars formed ends), Lexeme.drop_chars]
  obtain ⟨faultless, tokens⟩ := after line (index + lexeme.width)
  refine ⟨faultless, ?_⟩
  rw [cons, List.map_cons, tokens]
  rfl

theorem Holds.delimiter (after : Holds text written) (mark : Delimiter) :
    Holds (mark.char :: text) ((Lexeme.delimiter mark).written :: written) :=
  after.lexeme (.delimiter mark) trivial nofun

theorem Holds.space (after : Holds text written) : Holds (' ' :: text) written :=
  after.layout (List.all_eq_true.mp (by decide : [' '].all isLayout = true))

/-- Texts that do not run into one word together hold the tokens of both. -/
theorem Holds.append (before : Holds text first) (after : Holds back second)
    (ends : WordEnds back) : Holds (text ++ back) (first ++ second) := by
  intro line index
  obtain ⟨faultless, tokens⟩ := before line index
  obtain ⟨faultless', tokens'⟩ := after (line + newlines text) (index + text.length)
  rw [remaining_append line index faultless ends]
  refine ⟨faultless', ?_⟩
  rw [behind, List.map_append, tokens, tokens']

end

/-- The line on which a scan starts has no part in whether it fails. -/
theorem fault_run (text : String) (line : Int) : (run text line 0).fault = (ofText text).fault := by
  have moves := remaining_moved 1 0 (line - 1) 0 text.toList
  rw [Int.add_comm, Int.sub_add_cancel, Int.add_zero] at moves
  rw [run_zero, ofText_eq_remaining, moves, moved]
  cases (remaining 1 0 text.toList).fault with
  | none => rfl
  | some fault => cases fault <;> simp [LexicalFault.moved]

/-- Behind a text without a fault and some layout, a text is scanned as if it stood alone
but for its place. -/
theorem run_apart (first gap second : String) (line : Int) (faultless : (ofText first).fault = none)
    (spaced : ∀ c ∈ gap.toList, isLayout c = true) (apart : gap ≠ "") :
    run (first ++ gap ++ second) line 0 = behind (run first line 0).tokens
      ((run second line 0).moved (newlines (first ++ gap).toList) (first ++ gap).length) := by
  have apart' : gap.toList ≠ [] := by simpa using apart
  rw [← fault_run first line, run_zero] at faultless
  simp only [run_zero, ← String.length_toList, String.toList_append, List.append_assoc]
  exact remaining_apart line 0 faultless spaced apart' second.toList

/-- Scanning is memoryless. Behind a text without a fault and some layout, a text has the
tokens that it has alone, fails where it fails alone, and ends where it ends alone, all at its
place in the whole. A scan that is started at that place comes to the same. -/
theorem run_concatenates (first gap second : String) (line : Int)
    (faultless : (ofText first).fault = none) (spaced : ∀ c ∈ gap.toList, isLayout c = true)
    (apart : gap ≠ "") :
    let text := first ++ gap ++ second
    let lines : Int := line - 1 + newlines (first ++ gap).toList
    let characters : Int := (first ++ gap).length
    (run text line 0).tokens =
        (run first line 0).tokens ++ (ofText second).tokens.map (.moved lines characters) ∧
      (run text line 0).fault = (ofText second).fault.map (.moved characters) ∧
      (run text line 0).line = (ofText second).line + lines ∧
      (run text line 0).index = (ofText second).index + characters ∧
      run text (line + newlines (first ++ gap).toList) characters =
        (ofText second).moved lines characters := by
  intro text lines characters
  have begins : text.toList = (first ++ gap).toList ++ second.toList := String.toList_append
  have place : characters = (first ++ gap).toList.length := by rw [String.length_toList]
  -- The second text is read at its place, on the line that the first and the gap lead to.
  have there : remaining (line + newlines (first ++ gap).toList) characters second.toList =
      (ofText second).moved lines characters := by
    rw [ofText_eq_remaining, ← remaining_moved]
    congr 1 <;> omega
  have started : run text (line + newlines (first ++ gap).toList) characters =
      (ofText second).moved lines characters := by
    rw [← there, place, run_eq_remaining, begins, List.drop_left]
  have scanned : run text line 0 =
      behind (run first line 0).tokens ((ofText second).moved lines characters) := by
    rw [run_apart first gap second line faultless spaced apart, run_zero second,
      ← remaining_moved, Int.zero_add, there]
  rw [scanned]
  exact ⟨rfl, rfl, rfl, rfl, started⟩

theorem run_concatenates_failing_second :
    (ofText "Not\n").fault = none ∧ (∀ c ∈ "\n ".toList, isLayout c = true) ∧ "\n " ≠ "" ∧
      (run ("Not\n" ++ "\n " ++ "(\n nor") 5 0).tokens =
        [⟨⟨"NOT", "Not", 0⟩, 5, 3⟩, ⟨⟨"LPAREN", "(", 6⟩, 7, 7⟩] ∧
      (run ("Not\n" ++ "\n " ++ "(\n nor") 5 0).fault = some (.unknownWord "nor" 9) := by
  have faultless : (ofText "Not\n").fault = none := by decide +kernel
  have spaced : ∀ c ∈ "\n ".toList, isLayout c = true := List.all_eq_true.mp (by decide)
  have apart : "\n " ≠ "" := by decide
  obtain ⟨tokens, fault, _⟩ := run_concatenates "Not\n" "\n " "(\n nor" 5 faultless spaced apart
  refine ⟨faultless, spaced, apart, tokens.trans ?_, fault.trans ?_⟩ <;> decide +kernel

end Scan

end FirstOrderText
