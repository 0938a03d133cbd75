import FirstOrderText.Text
import FirstOrderText.Token.Scan

/-! The tokens of a scan are lexemes: their kinds are terminals, and each is spelled
as its kind demands. Layout alone is scanned into nothing. -/
namespace FirstOrderText

/-- The kind and the value of the tokens of a lexeme. -/
def Lexeme.written (lexeme : Lexeme) : String × String :=
  (lexeme.terminal.label, lexeme.text)

/-- The kind and the value of a token. -/
def Token.written (token : Token) : String × String :=
  (token.kind, token.value)

theorem Lexeme.wellFormed_quoted_iff {content : List Char} :
    (quoted content).WellFormed ↔ '\x22' ∉ content ∧ '\n' ∉ content := by
  have apart (c : Char) : isQuotable c = true ↔ c ≠ '\x22' ∧ c ≠ '\n' := by
    rw [isQuotable, Bool.and_eq_true, bne_iff_ne, bne_iff_ne]
  simp only [WellFormed, apart, forall_and, List.forall_mem_ne']

/-- Kind and value of a token that was read off a text are those of one lexeme. -/
def Token.IsLexeme (token : Token) : Prop :=
  ∃ lexeme : Lexeme, token.written = lexeme.written

/-- Tokens that were read off a text hold no end marker. -/
theorem kinds_unmarked {tokens : List Token} (read : ∀ token ∈ tokens, token.IsLexeme) :
    ∀ token ∈ tokens, token.kind ≠ "$end" := by
  intro token member
  obtain ⟨lexeme, written⟩ := read token member
  have kind : token.kind = lexeme.terminal.label := congrArg Prod.fst written
  rw [kind]
  exact (by decide : ∀ kind ∈ Terminal.all, kind.label ≠ "$end") _ (Terminal.mem_all _)

namespace Scan

theorem isLexeme_remaining (line index : Int) (chars : List Char) :
    ∀ token ∈ (remaining line index chars).tokens, token.toToken.IsLexeme := by
  fun_induction remaining line index chars with
  | case1 line index => exact List.forall_mem_nil _
  | case2 line index c rest space ih => exact ih
  | case3 line index c rest layout lexeme found ih =>
    intro token member
    rcases List.mem_cons.mp member with rfl | later
    · exact ⟨lexeme, rfl⟩
    · exact ih token later
  | case4 line index c rest layout newline ih => exact ih
  | case5 line index c rest layout word unknown => exact List.forall_mem_nil _
  | case6 line index c rest layout nothing => exact List.forall_mem_nil _

/-- Every token of a text is a lexeme, wherever the scan starts. -/
theorem isLexeme_run (text : String) (line start : Int) :
    ∀ token ∈ (run text line start).tokens, token.toToken.IsLexeme := by
  unfold run backwards
  dsimp only
  split
  · exact isLexeme_remaining line start _
  · split
    · exact List.forall_mem_nil _
    · split
      · exact isLexeme_remaining line 0 _
      · split
        · rename_i lexeme _
          intro token member
          rcases List.mem_cons.mp member with rfl | later
          · exact ⟨lexeme, rfl⟩
          · exact isLexeme_remaining line _ _ token later
        · exact isLexeme_remaining (line + 1) 1 _
        · exact List.forall_mem_nil _
        · exact List.forall_mem_nil _

theorem result_eq_ok_iff {scan : Scan} {placed : List PlacedToken} :
    scan.result = .ok placed ↔ scan.fault = none ∧ scan.tokens = placed := by
  unfold result
  cases scan.fault <;> simp

theorem result_eq_error_iff {scan : Scan} {fault : LexicalFault} :
    scan.result = .error fault ↔ scan.fault = some fault := by
  unfold result
  cases scan.fault <;> simp

theorem run_eq_remaining (text : String) (line : Int) (start : Nat) :
    run text line start = remaining line start (text.toList.drop start) := by
  unfold run
  exact if_pos (Int.natCast_nonneg start)

theorem run_zero (text : String) (line : Int) : run text line 0 = remaining line 0 text.toList :=
  run_eq_remaining text line 0

theorem ofText_eq_remaining (text : String) : ofText text = remaining 1 0 text.toList :=
  run_zero text 1

theorem isLexeme_of_result {text : String} {placed : List PlacedToken}
    (scanned : (ofText text).result = .ok placed) :
    ∀ token ∈ placed.map PlacedToken.toToken, token.IsLexeme := by
  obtain ⟨_, rfl⟩ := result_eq_ok_iff.mp scanned
  rw [List.forall_mem_map]
  exact isLexeme_run text 1 0

end Scan

namespace Head

theorem letter_range {c : Char} (letter : isWordStart c = true) :
    65 ≤ c.toNat ∧ c.toNat ≤ 90 ∨ 97 ≤ c.toNat ∧ c.toNat ≤ 122 := by
  have cased : (decide ('A'.val ≤ c.val ∧ c.val ≤ 'Z'.val) ||
      (decide ('a'.val ≤ c.val) && decide (c.val ≤ 'z'.val))) = true := letter
  simp only [Bool.or_eq_true, Bool.and_eq_true, decide_eq_true_eq, UInt32.le_iff_toNat_le] at cased
  exact cased

/-- No lexeme begins with white space. -/
theorem read_ne_lexeme_of_blank {c : Char} (blank : isBlankChar c = true) (rest : List Char)
    (lexeme : Lexeme) : read (c :: rest) ≠ .lexeme lexeme := by
  have quote : c ≠ '\x22' := by
    rintro rfl
    exact absurd blank (by decide)
  have letter : isWordStart c = false := by
    rw [Bool.eq_false_iff]
    intro letter
    have range := letter_range letter
    simp only [isBlankChar, Bool.or_eq_true, Bool.and_eq_true, decide_eq_true_eq, beq_iff_eq]
      at blank
    omega
  have delimiter : Delimiter.ofChar? c = none := by
    apply Option.eq_none_iff_forall_ne_some.mpr
    intro mark found
    have written := Delimiter.ofChar?_eq_some_iff.mp found
    subst written
    exact absurd blank (by cases mark <;> decide)
  unfold read
  simp only [quote, letter, delimiter, if_false]
  split <;> simp

end Head

namespace Scan

/-- A blank text has no tokens. -/
theorem tokens_of_blank (line index : Int) {chars : List Char}
    (blank : ∀ c ∈ chars, isBlankChar c = true) : (remaining line index chars).tokens = [] := by
  fun_induction remaining line index chars with
  | case1 line index => rfl
  | case2 line index c rest space ih =>
    apply ih
    intro c member
    exact blank c (List.mem_cons_of_mem _ member)
  | case3 line index c rest layout lexeme found ih =>
    exact absurd found (Head.read_ne_lexeme_of_blank (blank c List.mem_cons_self) rest lexeme)
  | case4 line index c rest layout newline ih =>
    apply ih
    intro c member
    exact blank c (List.mem_cons_of_mem _ member)
  | case5 line index c rest layout word unknown => rfl
  | case6 line index c rest layout nothing => rfl

end Scan

/-! What stands at the head of a text. A lexeme is read there exactly when the text
begins with it and, if it is a reserved word, the word does not go on behind it. -/

/-- A word that stands before these characters does not go on in them. -/
def WordEnds (rest : List Char) : Prop :=
  ∀ c ∈ rest.head?, isWordPart c = false

/-- No word runs into what begins with another character. -/
theorem wordEnds_cons {c : Char} (other : isWordPart c = false) (chars : List Char) :
    WordEnds (c :: chars) := by
  intro first head
  obtain rfl := Option.some.inj head
  exact other

theorem takeWhile_of_ends {word rest : List Char} (inside : ∀ c ∈ word, isWordPart c = true)
    (ends : WordEnds rest) : (word ++ rest).takeWhile isWordPart = word := by
  have stopped : rest.takeWhile isWordPart = [] := by
    cases rest with
    | nil => rfl
    | cons c more => exact List.takeWhile_cons_of_neg (by simp [ends c rfl])
  rw [List.takeWhile_append_of_pos inside, stopped, List.append_nil]

theorem ends_dropWhile (chars : List Char) : WordEnds (chars.dropWhile isWordPart) := by
  intro c first
  have stopped := List.head?_dropWhile_not isWordPart chars
  rw [Option.mem_def.mp first] at stopped
  exact stopped

theorem forall_mem_takeWhile (p : Char → Bool) (chars : List Char) :
    ∀ c ∈ chars.takeWhile p, p c = true :=
  List.all_eq_true.mp List.all_takeWhile

/-- A reserved word is a word: a letter, then letters and digits. -/
theorem Keyword.spelling_eq_cons (keyword : Keyword) : ∃ c more,
    keyword.spelling.toList = c :: more ∧ isWordStart c = true ∧
      ∀ c ∈ more, isWordPart c = true := by
  rcases keyword with (_ | _) | _ | _ | _ | _ | (_ | _ | _) | (_ | _) <;>
    exact ⟨_, _, rfl, by decide, List.all_eq_true.mp (by decide)⟩

namespace Head

theorem quotedContent?_eq_some_iff {rest content : List Char} :
    quotedContent? rest = some content ↔
      (∀ c ∈ content, isQuotable c = true) ∧ ∃ more, rest = content ++ '\x22' :: more := by
  unfold quotedContent?
  constructor
  · intro found
    have whole := List.takeWhile_append_dropWhile (p := isQuotable) (l := rest)
    split at found
    · rename_i c more stopped
      obtain ⟨rfl, content⟩ := Option.ite_none_right_eq_some.mp found
      cases content
      refine ⟨forall_mem_takeWhile isQuotable rest, more, ?_⟩
      rw [← stopped, whole]
    · cases found
  · rintro ⟨inside, more, rfl⟩
    have stopped : ('\x22' :: more).dropWhile isQuotable = '\x22' :: more := rfl
    have taken : ('\x22' :: more).takeWhile isQuotable = [] := rfl
    rw [List.dropWhile_append_of_pos inside, List.takeWhile_append_of_pos inside, stopped, taken]
    simp

theorem read_newline (rest : List Char) : read ('\n' :: rest) = .newline := by
  rw [read, if_pos rfl]

theorem read_quote (rest : List Char) : read ('\x22' :: rest) =
    match quotedContent? rest with
    | some content => .lexeme (.quoted content)
    | none => .nothing := by
  rfl

theorem read_word {c : Char} (letter : isWordStart c = true) (rest : List Char) :
    read (c :: rest) =
      match Keyword.ofSpelling? (String.ofList (c :: rest.takeWhile isWordPart)) with
      | some keyword => .lexeme (.keyword keyword)
      | none => .unknownWord (c :: rest.takeWhile isWordPart) := by
  have line : c ≠ '\n' := by
    rintro rfl
    exact absurd letter (by decide)
  have quote : c ≠ '\x22' := by
    rintro rfl
    exact absurd letter (by decide)
  exact (if_neg line).trans ((if_neg quote).trans (if_pos letter))

theorem read_delimiter (mark : Delimiter) (rest : List Char) :
    read (mark.char :: rest) = .lexeme (.delimiter mark) := by
  cases mark <;> rfl

/-- A lexeme stands at the head of a text when nothing lengthens it. -/
theorem read_chars {lexeme : Lexeme} {rest : List Char} (formed : lexeme.WellFormed)
    (ends : Layout.isWord lexeme = true → WordEnds rest) :
    read (lexeme.chars ++ rest) = .lexeme lexeme := by
  cases lexeme with
  | keyword keyword =>
    obtain ⟨c, more, spelled, letter, inside⟩ := keyword.spelling_eq_cons
    have word : String.ofList (c :: more) = keyword.spelling := by
      rw [← spelled, String.ofList_toList]
    rw [Lexeme.chars, spelled, List.cons_append, read_word letter,
      takeWhile_of_ends inside (ends rfl), word, Keyword.ofSpelling?_eq_some_iff.mpr rfl]
  | delimiter mark => exact read_delimiter mark rest
  | quoted content =>
    have found : quotedContent? (content ++ '\x22' :: rest) = some content :=
      quotedContent?_eq_some_iff.mpr ⟨formed, rest, rfl⟩
    rw [Lexeme.chars, List.cons_append, List.append_assoc, List.singleton_append, read_quote, found]

/-- What it means for a text that something is found at its head. -/
def Stands (chars : List Char) : Head → Prop
  | .lexeme found => found.WellFormed ∧ ∃ rest, chars = found.chars ++ rest ∧
      (Layout.isWord found = true → WordEnds rest)
  | .newline => ∃ rest, chars = '\n' :: rest
  | .unknownWord word => (∀ c ∈ word, isWordPart c = true) ∧ ∃ rest, chars = word ++ rest
  | .nothing => True

theorem stands_read (chars : List Char) : Stands chars (read chars) := by
  fun_cases read chars with
  | case1 | case4 rest _ _ | case8 c rest _ _ _ _ => exact True.intro
  | case2 rest => exact ⟨rest, rfl⟩
  | case3 rest content closed =>
    obtain ⟨inside, more, rfl⟩ := quotedContent?_eq_some_iff.mp closed
    refine ⟨inside, more, by simp [Lexeme.chars], ?_⟩
    intro word
    cases word
  | case5 c rest line quote letter word keyword reserved =>
    refine ⟨trivial, rest.dropWhile isWordPart, ?_, fun _ => ends_dropWhile rest⟩
    rw [Lexeme.chars, Keyword.ofSpelling?_eq_some_iff.mp reserved, String.toList_ofList,
      List.cons_append, List.takeWhile_append_dropWhile]
  | case6 c rest line quote letter word unknown =>
    refine ⟨?_, rest.dropWhile isWordPart, ?_⟩
    · intro part member
      rcases List.mem_cons.mp member with rfl | inside
      · exact Bool.or_eq_true_iff.mpr (Or.inl letter)
      · exact forall_mem_takeWhile isWordPart rest part inside
    · rw [List.cons_append, List.takeWhile_append_dropWhile]
  | case7 c rest line quote letter mark known =>
    have written := Delimiter.ofChar?_eq_some_iff.mp known
    refine ⟨trivial, rest, by rw [Lexeme.chars, written, List.singleton_append], ?_⟩
    intro word
    cases word

end Head

end FirstOrderText
