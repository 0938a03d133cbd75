import FirstOrderText.Proofs.Token.Concatenation

/-! Scanning is lossless. The tokens of a scan are pieces of the text at the places and
on the lines that they tell, and nothing but layout lies between them. -/
namespace FirstOrderText

/-- The characters of a text from one index up to another. -/
def charsBetween (text : String) (start stop : Int) : List Char :=
  (text.toList.take stop.toNat).drop start.toNat

theorem charsBetween_eq {text : String} {front middle back : List Char}
    (whole : text.toList = front ++ (middle ++ back)) {start stop : Int}
    (starts : start = front.length) (stops : stop = start + middle.length) :
    charsBetween text start stop = middle := by
  have length : stop.toNat = (front ++ middle).length := by
    rw [List.length_append]
    omega
  rw [charsBetween, whole, ← List.append_assoc, length, List.take_left, starts, Int.toNat_natCast,
    List.drop_left]

theorem charsBetween_zero {text : String} {front back : List Char}
    (whole : text.toList = front ++ back) : charsBetween text 0 front.length = front := by
  rw [charsBetween, whole, Int.toNat_natCast, List.take_left]
  rfl

/-- Kind and value of a token agree: it is a reserved word, a delimiter, or a quoted name
that holds neither a quote nor a newline. -/
def Token.Agrees (token : Token) : Prop :=
  (∃ keyword : Keyword, token.value = keyword.spelling ∧ token.kind = keyword.label) ∨
  (∃ mark : Delimiter, token.value = String.singleton mark.char ∧ token.kind = mark.label) ∨
  (∃ content : List Char, token.value = String.ofList ('\x22' :: (content ++ ['\x22'])) ∧
    '\x22' ∉ content ∧ '\n' ∉ content ∧ token.kind = "STRING")

theorem Lexeme.agrees_place {lexeme : Lexeme} (formed : lexeme.WellFormed) (line index : Int) :
    (lexeme.place line index).Agrees := by
  cases lexeme with
  | keyword keyword => exact Or.inl ⟨keyword, String.ofList_toList, rfl⟩
  | delimiter mark => exact Or.inr (Or.inl ⟨mark, by simp [place, text, chars], rfl⟩)
  | quoted content =>
    obtain ⟨closed, inline⟩ := Lexeme.wellFormed_quoted_iff.mp formed
    exact Or.inr (Or.inr ⟨content, rfl, closed, inline, rfl⟩)

namespace Scan

open Layout

/-- How far a scan got through a text: to its fault, or to the end. -/
def reached (scan : Scan) (text : String) : Int :=
  match scan.fault with
  | some fault => fault.index
  | none => text.length

/-- A scan of a text from a line and an index on that loses nothing. -/
structure Lossless (text : String) (line start : Int) (scan : Scan) : Prop where
  /-- The spans are not empty, and they lie within what was scanned. -/
  within : ∀ token ∈ scan.tokens, start ≤ token.index ∧ token.index < token.stop ∧
    token.stop ≤ scan.reached text
  /-- The spans follow one another. -/
  apart : scan.tokens.Pairwise fun a b => a.stop ≤ b.index
  /-- A value is what stands in the span. -/
  value : ∀ token ∈ scan.tokens,
    token.value = String.ofList (charsBetween text token.index token.stop)
  /-- Kinds and values agree, and no kind is that of an unknown word. -/
  agrees : ∀ token ∈ scan.tokens, token.Agrees ∧ token.kind ≠ "WORD"
  /-- What was scanned and lies in no span is layout. -/
  gaps : ∀ (i : Nat) (c : Char), text.toList[i]? = some c → start ≤ i → i < scan.reached text →
    (∀ token ∈ scan.tokens, ¬(token.index ≤ i ∧ i < token.stop)) → isLayout c = true
  /-- The line of a token counts the newlines before it. -/
  lines : ∀ token ∈ scan.tokens, token.line = line + newlines (charsBetween text start token.index)
  /-- The scan stops inside the text. -/
  stop : scan.reached text ≤ scan.index ∧ scan.index ≤ text.length
  /-- The line of the scan counts the newlines up to where it stops. -/
  lastLine : scan.line = line + newlines (charsBetween text start scan.index)

/-- What a scan has when it stops behind some characters. An unknown word is passed over. -/
theorem Stops.measured {text : String} {line start : Int} {tokens : List PlacedToken}
    {front done rest : List Char} {scan : Scan} (starts : start = front.length)
    (whole : text.toList = front ++ (done ++ rest))
    (stops : Stops line (start + done.length) tokens rest scan) :
    scan.tokens = tokens ∧ scan.reached text = start + done.length ∧ scan.line = line ∧
      ∃ word more, rest = word ++ more ∧ newlines word = 0 ∧
        scan.index = start + done.length + word.length := by
  cases stops with
  | atEnd =>
    have length : text.length = front.length + done.length := by
      rw [← String.length_toList, whole, List.append_nil, List.length_append]
    refine ⟨rfl, ?_, rfl, [], [], rfl, rfl, (Int.add_zero _).symm⟩
    simp only [reached]
    omega
  | atWord found =>
    have stands := Head.stands_read rest
    rw [found] at stands
    obtain ⟨inside, more, split⟩ := stands
    exact ⟨rfl, rfl, rfl, _, more, split, newlines_of_wordPart inside, rfl⟩
  | atCharacter found => exact ⟨rfl, rfl, rfl, [], _, rfl, rfl, (Int.add_zero _).symm⟩

section
variable {text : String} {line start : Int} {front rest after : List Char} {layout : Layout}

/-- A token that was read has its characters in the text, behind those read before it. -/
theorem exists_span (line start : Int) {token : PlacedToken}
    (whole : text.toList = front ++ (chars layout after ++ rest))
    (admissible : AdmissibleAfter false layout) (member : token ∈ placed line start layout) :
    ∃ (before : List Char) (lexeme : Lexeme) (behind : List Char),
      text.toList = front ++ (before ++ (lexeme.chars ++ behind)) ∧
        before.length + lexeme.width ≤ (chars layout after).length ∧ lexeme.WellFormed ∧
          token = lexeme.place (line + newlines before) (start + before.length) := by
  obtain ⟨before, lexeme, behind, split, formed, placed⟩ :=
    exists_of_mem_placed after admissible member
  refine ⟨before, lexeme, behind ++ rest, ?_, ?_, formed, placed⟩
  · rw [whole, split, List.append_assoc, List.append_assoc]
  · rw [split, List.length_append, List.length_append, Lexeme.length_chars]
    omega

theorem lossless_of_reads {scan : Scan} {scanned : List Char} (starts : start = front.length)
    (whole : text.toList = front ++ scanned)
    (reads : Reads false line start scanned scan layout after rest) :
    Lossless text line start scan := by
  obtain ⟨rfl, admissible, passed, stops⟩ := reads
  rw [chars_after_append] at whole
  obtain ⟨tokens, reached, lastLine, word, more, rfl, inline, index⟩ := stops.measured starts whole
  have span (token : PlacedToken) (member : token ∈ scan.tokens) :=
    exists_span line start whole admissible (tokens ▸ member)
  constructor
  case within =>
    intro token member
    obtain ⟨before, lexeme, _, _, fits, _, rfl⟩ := span token member
    have positive := lexeme.width_pos
    simp only [Lexeme.place]
    omega
  case apart =>
    rw [tokens]
    exact pairwise_placed line start admissible
  case value =>
    intro token member
    obtain ⟨before, lexeme, behind, there, _, _, rfl⟩ := span token member
    rw [← List.append_assoc] at there
    have found : charsBetween text (start + before.length) (start + before.length + lexeme.width) =
        lexeme.chars := by
      apply charsBetween_eq there
      · rw [List.length_append, starts, Int.natCast_add]
      · rfl
    simp only [Lexeme.place, found]
    rfl
  case agrees =>
    intro token member
    obtain ⟨_, lexeme, _, _, _, formed, rfl⟩ := span token member
    refine ⟨lexeme.agrees_place formed _ _, ?_⟩
    exact (by decide : ∀ kind ∈ Terminal.all, kind.label ≠ "WORD") _ (Terminal.mem_all _)
  case gaps =>
    intro i c here later earlier uncovered
    have offset : (i : Int) = start + (i - front.length : Nat) := by omega
    rw [whole, List.getElem?_append_right (by omega), List.getElem?_append_left (by omega)] at here
    rw [tokens, offset] at uncovered
    exact isLayout_of_uncovered line start admissible passed here uncovered
  case lines =>
    intro token member
    obtain ⟨before, lexeme, _, there, _, _, rfl⟩ := span token member
    have found : charsBetween text start (start + before.length) = before :=
      charsBetween_eq there starts rfl
    simp only [Lexeme.place, found]
  case stop =>
    have length := congrArg List.length whole
    simp only [String.length_toList, List.length_append] at length
    omega
  case lastLine =>
    have there : text.toList = front ++ ((chars layout after ++ word) ++ more) := by
      rw [whole, List.append_assoc]
    have found : charsBetween text start scan.index = chars layout after ++ word := by
      apply charsBetween_eq there starts
      rw [index, List.length_append, Int.natCast_add, Int.add_assoc]
    rw [found, lastLine, newlines_append, inline, Nat.add_zero]

end

theorem lossless_ofText (text : String) : Lossless text 1 0 (ofText text) := by
  obtain ⟨layout, after, rest, reads⟩ := exists_reads_run text 1
  exact lossless_of_reads rfl (List.nil_append _).symm reads

/-- A scan from any place of a text and any line loses nothing. -/
theorem lossless_run (text : String) (line start : Int) (nonneg : 0 ≤ start)
    (inside : start ≤ text.length) : Lossless text line start (run text line start) := by
  have starts : start = (text.toList.take start.toNat).length := by
    rw [List.length_take, String.length_toList]
    omega
  obtain ⟨layout, after, rest, reads⟩ :=
    exists_reads line start (text.toList.drop start.toNat) false nofun
  unfold run
  dsimp only
  rw [if_pos nonneg]
  exact lossless_of_reads starts (List.take_append_drop ..).symm reads

theorem lossless_run_inner_lines :
    (0 : Int) ≤ 1 ∧ (1 : Int) ≤ "T\n \"a\"\nVar x".length ∧
      Lossless "T\n \"a\"\nVar x" 7 1 (run "T\n \"a\"\nVar x" 7 1) ∧
      run "T\n \"a\"\nVar x" 7 1 =
        ⟨[⟨⟨"STRING", "\"a\"", 3⟩, 8, 6⟩, ⟨⟨"VAR", "Var", 7⟩, 9, 10⟩],
          some (.unknownWord "x" 11), 9, 12⟩ := by
  refine ⟨by decide, by decide, lossless_run _ 7 1 (by decide) (by decide), by decide +kernel⟩

/-! Where a scan cannot go on. Layout, delimiters, closed quoted names and reserved words
that nothing lengthens are read in any order, and nothing else is. A scan that fails has read
all that stands before its fault, and what stands at the fault is a word that is not reserved
or a character that begins nothing. -/

/-- Characters that can be scanned to their end. -/
inductive Readable : List Char → Prop where
  | nil : Readable []
  | layout {c : Char} {rest : List Char} (space : isLayout c = true) (more : Readable rest) :
      Readable (c :: rest)
  | delimiter (mark : Delimiter) {rest : List Char} (more : Readable rest) :
      Readable (mark.char :: rest)
  | quoted {content rest : List Char} (closed : '\x22' ∉ content) (inline : '\n' ∉ content)
      (more : Readable rest) : Readable ('\x22' :: (content ++ '\x22' :: rest))
  | word (keyword : Keyword) {rest : List Char} (ends : WordEnds rest) (more : Readable rest) :
      Readable (keyword.spelling.toList ++ rest)

/-- Characters that a scan cannot begin to read, with the fault that is found there and the
place where the scan is left. A word that is not reserved is passed over, a character that
begins nothing is not. -/
inductive Impasse : List Char → LexicalFault → Int → Prop where
  | word {c : Char} {more rest : List Char} {place : Int} (letter : isWordStart c = true)
      (inside : ∀ part ∈ more, isWordPart part = true) (ends : WordEnds rest)
      (unreserved : ∀ keyword : Keyword, keyword.spelling ≠ String.ofList (c :: more)) :
      Impasse (c :: more ++ rest) (.unknownWord (String.ofList (c :: more)) place)
        (place + (c :: more).length)
  | character {c : Char} {rest : List Char} {place : Int} (visible : isLayout c = false)
      (unmarked : ∀ mark : Delimiter, mark.char ≠ c) (letterless : isWordStart c = false)
      (unclosed : c = '\x22' → '\x22' ∉ rest.takeWhile (· != '\n')) :
      Impasse (c :: rest) (.invalidCharacter c place) place

/-- A quoted name that is closed on its line is read. -/
theorem quotedContent?_ne_none {rest : List Char} (closed : '\x22' ∈ rest.takeWhile (· != '\n')) :
    Head.quotedContent? rest ≠ none := by
  obtain ⟨content, more, line, first⟩ := List.eq_append_cons_of_mem closed
  have inside : ∀ c ∈ content, isQuotable c = true := by
    intro c member
    have inline := forall_mem_takeWhile (· != '\n') rest c (by simp [line, member])
    have other : c ≠ '\x22' := ne_of_mem_of_not_mem member first
    rw [isQuotable, inline, Bool.and_true]
    exact bne_iff_ne.mpr other
  have whole : rest = content ++ '\x22' :: (more ++ rest.dropWhile (· != '\n')) := by
    rw [← List.cons_append, ← List.append_assoc, ← line, List.takeWhile_append_dropWhile]
  rw [Head.quotedContent?_eq_some_iff.mpr ⟨inside, _, whole⟩]
  exact Option.some_ne_none _

/-- Where no lexeme and no newline is found, there is an impasse, unless a line space is
to be passed over. -/
theorem impasse_read (chars : List Char) (place : Int) :
    match Head.read chars with
    | .unknownWord word =>
      Impasse chars (.unknownWord (String.ofList word) place) (place + word.length)
    | .nothing => ∀ c rest, chars = c :: rest → isLineSpace c = false →
      Impasse chars (.invalidCharacter c place) place
    | _ => True := by
  fun_cases Head.read chars with
  | case1 => rintro _ _ ⟨⟩
  | case2 | case3 | case5 | case7 => trivial
  | case4 rest unclosed _ =>
    rintro _ _ ⟨⟩ dense
    refine .character rfl ?_ rfl ?_
    · intro mark
      cases mark <;> decide
    · intro _ closed
      exact quotedContent?_ne_none closed unclosed
  | case6 c rest line quote letter word unknown =>
    have whole : c :: rest = (c :: rest.takeWhile isWordPart) ++ rest.dropWhile isWordPart := by
      rw [List.cons_append, List.takeWhile_append_dropWhile]
    rw [whole]
    refine .word letter (forall_mem_takeWhile isWordPart rest) (ends_dropWhile rest) ?_
    intro keyword spelled
    rw [Keyword.ofSpelling?_eq_some_iff.mpr spelled] at unknown
    cases unknown
  | case8 c rest line quote letter unmarked =>
    rintro _ _ ⟨⟩ dense
    refine .character ?_ ?_ (Bool.eq_false_iff.mpr letter) (absurd · quote)
    · rw [isLayout, dense, Bool.false_or]
      exact beq_eq_false_iff_ne.mpr line
    · intro mark written
      rw [Delimiter.ofChar?_eq_some_iff.mpr written] at unmarked
      cases unmarked

/-- A character at fault is no layout within a line. -/
theorem not_lineSpace_of_invalid {line index place : Int} {text : List Char} {c : Char}
    (failed : (remaining line index text).fault = some (.invalidCharacter c place)) :
    isLineSpace c = false := by
  fun_induction remaining line index text with
  | case1 => cases failed
  | case2 _ _ _ _ _ ih | case4 _ _ _ _ _ _ ih => exact ih failed
  | case3 _ _ _ _ _ _ _ ih => exact ih failed
  | case5 => cases failed
  | case6 _ _ _ _ dense _ =>
    cases failed
    exact Bool.eq_false_iff.mpr dense

theorem holds_of_readable {text : List Char} (readable : Readable text) :
    ∃ written, Holds text written := by
  induction readable with
  | nil => exact ⟨_, holds_nil⟩
  | @layout c _ space _ ih =>
    obtain ⟨_, holds⟩ := ih
    have spaced : ∀ part ∈ [c], isLayout part = true := List.forall_mem_singleton.mpr space
    exact ⟨_, holds.layout spaced⟩
  | delimiter mark _ ih =>
    obtain ⟨_, holds⟩ := ih
    exact ⟨_, holds.delimiter mark⟩
  | @quoted content rest closed inline _ ih =>
    obtain ⟨_, holds⟩ := ih
    have formed := Lexeme.wellFormed_quoted_iff.mpr ⟨closed, inline⟩
    have whole : '\x22' :: (content ++ '\x22' :: rest) = (Lexeme.quoted content).chars ++ rest := by
      simp [Lexeme.chars]
    rw [whole]
    exact ⟨_, holds.lexeme (.quoted content) formed (absurd · Bool.false_ne_true)⟩
  | word keyword ends _ ih =>
    obtain ⟨_, holds⟩ := ih
    exact ⟨_, holds.lexeme (.keyword keyword) trivial fun _ => ends⟩

theorem Readable.gap {gap rest : List Char} (spaced : ∀ c ∈ gap, isLayout c = true)
    (more : Readable rest) : Readable (gap ++ rest) := by
  induction gap with
  | nil => exact more
  | cons c gap ih =>
    obtain ⟨space, spaced⟩ := List.forall_mem_cons.mp spaced
    exact .layout space (ih spaced)

theorem Readable.lexeme {lexeme : Lexeme} {rest : List Char} (formed : lexeme.WellFormed)
    (ends : isWord lexeme = true → WordEnds rest) (more : Readable rest) :
    Readable (lexeme.chars ++ rest) := by
  cases lexeme with
  | keyword keyword => exact .word keyword (ends rfl) more
  | delimiter mark => exact .delimiter mark more
  | quoted content =>
    obtain ⟨closed, inline⟩ := Lexeme.wellFormed_quoted_iff.mp formed
    rw [Lexeme.chars, List.cons_append, List.append_assoc]
    exact .quoted closed inline more

theorem readable_chars {afterWord : Bool} {layout : Layout} {after : List Char}
    (admissible : AdmissibleAfter afterWord layout) (passed : ∀ c ∈ after, isLayout c = true) :
    Readable (chars layout after) := by
  induction layout generalizing afterWord with
  | nil =>
    rw [chars, ← List.append_nil after]
    exact Readable.gap passed .nil
  | cons piece rest ih =>
    obtain ⟨gap, lexeme⟩ := piece
    obtain ⟨spaced, formed, _, admissible⟩ := admissible
    refine Readable.gap (List.all_eq_true.mp spaced) (Readable.lexeme formed ?_ (ih admissible))
    intro word
    rw [word] at admissible
    exact wordEnds_chars admissible (wordEnds_of_passed passed)

/-- A scan fails unless all is readable. -/
theorem fault_eq_none_iff {line index : Int} {text : List Char} :
    (remaining line index text).fault = none ↔ Readable text := by
  constructor
  · intro faultless
    obtain ⟨layout, after, admissible, passed, rfl, _⟩ := exists_layout faultless
    exact readable_chars admissible passed
  · intro readable
    obtain ⟨_, holds⟩ := holds_of_readable readable
    exact (holds line index).1

theorem Impasse.ne_nil {rest : List Char} {fault : LexicalFault} {stop : Int}
    (impasse : Impasse rest fault stop) : rest ≠ [] := by
  cases impasse <;> nofun

/-- Where a scan stops with a fault, there is an impasse. -/
theorem Stops.impasse {line index : Int} {tokens : List PlacedToken} {rest : List Char}
    {scan : Scan} {fault : LexicalFault} (stops : Stops line index tokens rest scan)
    (failed : scan.fault = some fault)
    (dense : ∀ c place, fault = .invalidCharacter c place → isLineSpace c = false) :
    scan.tokens = tokens ∧ fault.index = index ∧ Impasse rest fault scan.index := by
  cases stops with
  | atEnd => cases failed
  | atWord found =>
    cases failed
    have blocked := impasse_read rest index
    rw [found] at blocked
    exact ⟨rfl, rfl, blocked⟩
  | @atCharacter c rest found =>
    cases failed
    have blocked := impasse_read (c :: rest) index
    rw [found] at blocked
    exact ⟨rfl, rfl, blocked c rest rfl (dense c index rfl)⟩

/-- How a scan of a text fails. -/
structure StuckAt (text : String) (line : Int) (fault : LexicalFault) : Prop where
  /-- The fault is in the text. -/
  inside : 0 ≤ fault.index ∧ fault.index < text.length
  /-- What stands before the fault scans to its end. -/
  faultless : (run (String.ofList (charsBetween text 0 fault.index)) line 0).fault = none
  /-- The tokens that were read are those of what stands before the fault. -/
  tokens : (run (String.ofList (charsBetween text 0 fault.index)) line 0).tokens =
    (run text line 0).tokens
  /-- The scan cannot go on at the fault, and is left behind what it passed over. -/
  impasse : Impasse (text.toList.drop fault.index.toNat) fault (run text line 0).index

theorem stuckAt_of_fault {text : String} {line : Int} {fault : LexicalFault}
    (failed : (run text line 0).fault = some fault) : StuckAt text line fault := by
  obtain ⟨layout, after, rest, whole, admissible, passed, stops⟩ := exists_reads_run text line
  have dense (c : Char) (place : Int) (same : fault = .invalidCharacter c place) :
      isLineSpace c = false := by
    rw [run_zero, same] at failed
    exact not_lineSpace_of_invalid failed
  obtain ⟨tokens, index, impasse⟩ := stops.impasse failed dense
  rw [Int.zero_add] at index
  rw [chars_after_append] at whole
  have before : charsBetween text 0 fault.index = chars layout after := by
    rw [index, charsBetween_zero whole]
  have alone : (run (String.ofList (charsBetween text 0 fault.index)) line 0).fault = none ∧
      (run (String.ofList (charsBetween text 0 fault.index)) line 0).tokens =
        placed line 0 layout := by
    rw [before, run_zero, String.toList_ofList, remaining_to_end line 0 admissible passed]
    exact ⟨rfl, rfl⟩
  constructor
  case inside =>
    have some := List.length_pos_iff.mpr impasse.ne_nil
    have length := congrArg List.length whole
    rw [String.length_toList, List.length_append] at length
    omega
  case faultless => exact alone.1
  case tokens => exact alone.2.trans tokens.symm
  case impasse =>
    rw [whole, index, Int.toNat_natCast, List.drop_left]
    exact impasse

/-- A scan fails exactly where it cannot go on: it fails unless the whole text is readable,
and then it has read what stands before an impasse. -/
theorem run_fails_at_impasse (text : String) (line : Int) :
    ((run text line 0).fault = none ↔ Readable text.toList) ∧
      ∀ fault, (run text line 0).fault = some fault → StuckAt text line fault := by
  constructor
  · rw [run_zero]
    exact fault_eq_none_iff
  · intro fault failed
    exact stuckAt_of_fault failed

/-- A quote that is closed only on the next line is open. -/
theorem run_fails_at_open_quote :
    (run "Rel\n \"a\n\"" 3 0).fault = some (.invalidCharacter '\x22' 5) ∧
      StuckAt "Rel\n \"a\n\"" 3 (.invalidCharacter '\x22' 5) ∧
      ¬Readable "Rel\n \"a\n\"".toList := by
  have failed : (run "Rel\n \"a\n\"" 3 0).fault = some (.invalidCharacter '\x22' 5) := by
    decide +kernel
  obtain ⟨readable, stuck⟩ := run_fails_at_impasse "Rel\n \"a\n\"" 3
  refine ⟨failed, stuck _ failed, ?_⟩
  rw [← readable, failed]
  exact Option.some_ne_none _

end Scan

end FirstOrderText
