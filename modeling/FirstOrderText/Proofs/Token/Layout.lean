import FirstOrderText.Proofs.Token.Lexemes

/-! Lexemes in a layout, and where they stand. The place of each is the end of what
is written before it, the spans follow one another, and what lies in no span is layout. -/
namespace FirstOrderText

theorem Lexeme.length_chars (lexeme : Lexeme) : lexeme.chars.length = lexeme.width := rfl

theorem Lexeme.drop_chars (lexeme : Lexeme) (rest : List Char) :
    (lexeme.chars ++ rest).drop lexeme.width = rest :=
  List.drop_left' rfl

namespace Layout

variable {layout front back : Layout} {before after : List Char} {lexeme : Lexeme}
  {afterWord : Bool}

theorem newlines_append (front back : List Char) :
    newlines (front ++ back) = newlines front + newlines back :=
  List.count_append

theorem newlines_cons (c : Char) (chars : List Char) :
    newlines (c :: chars) = newlines [c] + newlines chars :=
  newlines_append [c] chars

theorem newlines_eq_zero {chars : List Char} (inline : ∀ c ∈ chars, c ≠ '\n') :
    newlines chars = 0 :=
  List.count_eq_zero.mpr fun member => inline _ member rfl

theorem newlines_lineSpace {c : Char} (space : isLineSpace c = true) : newlines [c] = 0 := by
  apply newlines_eq_zero
  rintro _ member rfl
  obtain rfl := List.mem_singleton.mp member
  exact absurd space (by decide)

theorem newlines_of_wordPart {chars : List Char} (word : ∀ c ∈ chars, isWordPart c = true) :
    newlines chars = 0 := by
  apply newlines_eq_zero
  rintro c member rfl
  exact absurd (word _ member) (by decide)

/-- A lexeme stands on one line. -/
theorem newlines_lexeme (formed : lexeme.WellFormed) : newlines lexeme.chars = 0 := by
  apply newlines_eq_zero
  rintro c member rfl
  cases lexeme with
  | keyword keyword =>
    rcases keyword with (_ | _) | _ | _ | _ | _ | (_ | _ | _) | (_ | _) <;>
      exact absurd member (by decide)
  | delimiter mark => cases mark <;> exact absurd member (by decide)
  | quoted content =>
    have inside : '\n' ∈ content := by simpa [Lexeme.chars] using member
    exact absurd (formed _ inside) (by decide)

theorem chars_append (front back : Layout) (after : List Char) :
    chars (front ++ back) after = chars front (chars back after) := by
  induction front with
  | nil => rfl
  | cons piece front ih =>
    obtain ⟨before, lexeme⟩ := piece
    simp only [List.cons_append, chars, ih]

theorem chars_eq_append (layout : Layout) (after : List Char) :
    chars layout after = chars layout [] ++ after := by
  induction layout with
  | nil => rfl
  | cons piece layout ih =>
    obtain ⟨before, lexeme⟩ := piece
    simp only [chars, List.append_assoc]
    rw [ih]

theorem chars_after_append (layout : Layout) (after rest : List Char) :
    chars layout (after ++ rest) = chars layout after ++ rest := by
  rw [chars_eq_append, chars_eq_append layout after, List.append_assoc]

/-- What is written in a layout before a lexeme, that lexeme, and what is written behind it. -/
theorem chars_split (front back : Layout) (before : List Char) (lexeme : Lexeme)
    (after : List Char) : chars (front ++ (before, lexeme) :: back) after =
      chars front before ++ (lexeme.chars ++ chars back after) := by
  rw [chars_append, chars, chars_eq_append front, chars_eq_append front before, List.append_assoc]

theorem AdmissibleAfter.of_mem (admissible : AdmissibleAfter afterWord layout)
    (member : (before, lexeme) ∈ layout) :
    (∀ c ∈ before, isLayout c = true) ∧ lexeme.WellFormed := by
  induction layout generalizing afterWord with
  | nil => cases member
  | cons piece rest ih =>
    obtain ⟨spaced, formed, _, admissible⟩ := admissible
    rcases List.mem_cons.mp member with rfl | later
    · exact ⟨List.all_eq_true.mp spaced, formed⟩
    · exact ih admissible later

theorem length_placed (line index : Int) (layout : Layout) :
    (placed line index layout).length = layout.length := by
  induction layout generalizing line index with
  | nil => rfl
  | cons piece rest ih => simp only [placed, List.length_cons, ih]

theorem map_written_placed (line index : Int) (layout : Layout) :
    (placed line index layout).map (fun token => token.toToken.written) =
      layout.map fun piece => piece.2.written := by
  induction layout generalizing line index with
  | nil => rfl
  | cons piece rest ih =>
    rw [placed, List.map_cons, List.map_cons, ih]
    rfl

/-- Each lexeme of a layout is placed behind all that is written before it. -/
theorem placed_split (line index : Int) (front back : Layout) (before : List Char) (lexeme : Lexeme)
    (admissible : AdmissibleAfter afterWord (front ++ (before, lexeme) :: back)) :
    (placed line index (front ++ (before, lexeme) :: back))[front.length]? =
      some (lexeme.place (line + newlines (chars front before))
        (index + (chars front before).length)) := by
  induction front generalizing line index afterWord with
  | nil => rfl
  | cons piece front ih =>
    obtain ⟨gap, first⟩ := piece
    obtain ⟨_, formed, _, admissible⟩ := admissible
    have lines : newlines (chars ((gap, first) :: front) before) =
        newlines gap + newlines (chars front before) := by
      simp only [chars, newlines_append, newlines_lexeme formed, Nat.zero_add]
    have places : (chars ((gap, first) :: front) before).length =
        gap.length + first.width + (chars front before).length := by
      simp only [chars, List.length_append, Lexeme.width, Nat.add_assoc]
    simp only [List.cons_append, placed, List.length_cons, List.getElem?_cons_succ]
    rw [ih _ _ admissible, lines, places]
    push_cast
    simp only [Int.add_assoc]

theorem AdmissibleAfter.of_append (admissible : AdmissibleAfter afterWord (front ++ back)) :
    AdmissibleAfter afterWord front := by
  induction front generalizing afterWord with
  | nil => trivial
  | cons piece front ih =>
    obtain ⟨spaced, formed, separate, admissible⟩ := admissible
    exact ⟨spaced, formed, separate, ih admissible⟩

/-- A token of a layout is one of its lexemes, placed behind all that is written before. -/
theorem exists_split_of_mem_placed {line index : Int} {token : PlacedToken}
    (admissible : AdmissibleAfter afterWord layout) (member : token ∈ placed line index layout) :
    ∃ (front : Layout) (before : List Char) (lexeme : Lexeme) (back : Layout),
      layout = front ++ (before, lexeme) :: back ∧
        token = lexeme.place (line + newlines (chars front before))
          (index + (chars front before).length) := by
  obtain ⟨k, bound, rfl⟩ := List.getElem_of_mem member
  rw [length_placed] at bound
  have split : layout = layout.take k ++ (layout[k].1, layout[k].2) :: layout.drop (k + 1) := by
    rw [List.getElem_cons_drop, List.take_append_drop]
  refine ⟨_, _, _, _, split, ?_⟩
  rw [split] at admissible
  have there := placed_split line index _ _ _ _ admissible
  rw [← split, List.length_take_of_le (Nat.le_of_lt bound)] at there
  exact (List.getElem_eq_iff _).mpr there

/-- A token of a layout is a lexeme that is written there, behind all that is before it. -/
theorem exists_of_mem_placed {line index : Int} {token : PlacedToken} (after : List Char)
    (admissible : AdmissibleAfter afterWord layout) (member : token ∈ placed line index layout) :
    ∃ (before : List Char) (lexeme : Lexeme) (behind : List Char),
      chars layout after = before ++ (lexeme.chars ++ behind) ∧ lexeme.WellFormed ∧
        token = lexeme.place (line + newlines before) (index + before.length) := by
  obtain ⟨front, before, lexeme, back, rfl, placed⟩ := exists_split_of_mem_placed admissible member
  have formed := (admissible.of_mem (List.mem_append_right front List.mem_cons_self)).2
  exact ⟨_, lexeme, _, chars_split front back before lexeme after, formed, placed⟩

theorem le_index_of_mem_placed {line index : Int} {token : PlacedToken}
    (admissible : AdmissibleAfter afterWord layout) (member : token ∈ placed line index layout) :
    index ≤ token.index := by
  obtain ⟨before, lexeme, behind, _, _, rfl⟩ := exists_of_mem_placed [] admissible member
  exact Int.le_add_of_nonneg_right (Int.natCast_nonneg _)

/-- The spans of a layout follow one another. -/
theorem pairwise_placed (line index : Int) (admissible : AdmissibleAfter afterWord layout) :
    (placed line index layout).Pairwise fun a b => a.stop ≤ b.index := by
  induction layout generalizing line index afterWord with
  | nil => exact .nil
  | cons piece rest ih =>
    obtain ⟨gap, first⟩ := piece
    obtain ⟨_, _, _, admissible⟩ := admissible
    refine .cons ?_ (ih _ _ admissible)
    intro token member
    exact le_index_of_mem_placed admissible member

/-- What lies in no span is layout. -/
theorem isLayout_of_uncovered (line index : Int) {after : List Char} {i : Nat} {c : Char}
    (admissible : AdmissibleAfter afterWord layout) (passed : ∀ c ∈ after, isLayout c = true)
    (here : (chars layout after)[i]? = some c)
    (uncovered : ∀ token ∈ placed line index layout,
      ¬(token.index ≤ index + i ∧ index + i < token.stop)) : isLayout c = true := by
  induction layout generalizing line index afterWord i with
  | nil => exact passed c (List.mem_of_getElem? here)
  | cons piece rest ih =>
    obtain ⟨gap, first⟩ := piece
    obtain ⟨spaced, _, _, admissible⟩ := admissible
    obtain ⟨outside, uncovered⟩ := List.forall_mem_cons.mp uncovered
    simp only [chars] at here
    by_cases early : i < gap.length
    · rw [List.getElem?_append_left early] at here
      exact List.all_eq_true.mp spaced c (List.mem_of_getElem? here)
    · by_cases inside : i < gap.length + first.width
      · exact absurd ⟨by simp only [Lexeme.place]; omega, by simp only [Lexeme.place]; omega⟩ outside
      · rw [List.getElem?_append_right (by omega),
          List.getElem?_append_right (by rw [Lexeme.length_chars]; omega)] at here
        refine ih (line + newlines gap) (index + gap.length + first.width) admissible here ?_
        intro token member
        have apart := uncovered token member
        rw [Lexeme.length_chars]
        omega

end Layout

/-! Scanning and layouts. A scan undoes every admissible layout, and conversely every
scan reads some admissible layout up to the place where it stops. -/

namespace Scan

open Layout

/-- A scan behind tokens that were read before. -/
def behind (tokens : List PlacedToken) (scan : Scan) : Scan :=
  { scan with tokens := tokens ++ scan.tokens }

theorem cons_behind (token : PlacedToken) (tokens : List PlacedToken) (scan : Scan) :
    (behind tokens scan).cons token = behind (token :: tokens) scan := rfl

/-- A line space begins no lexeme, so a lexeme found at the head is the next token. -/
theorem remaining_lexeme {chars : List Char} {lexeme : Lexeme} (line index : Int)
    (found : Head.read chars = .lexeme lexeme) : remaining line index chars =
      (remaining line (index + lexeme.width) (chars.drop lexeme.width)).cons
        (lexeme.place line index) := by
  cases chars with
  | nil => cases found
  | cons c rest =>
    have dense : ¬isLineSpace c = true := by
      intro space
      have blank : isBlankChar c = true := by
        simp only [isLineSpace, Bool.or_eq_true, beq_iff_eq] at space
        rcases space with (rfl | rfl) | rfl <;> decide
      exact Head.read_ne_lexeme_of_blank blank rest lexeme found
    rw [remaining, if_neg dense, found]

/-- Layout is passed over, and its newlines are counted. -/
theorem remaining_layout (line index : Int) {gap : List Char}
    (spaced : ∀ c ∈ gap, isLayout c = true) (rest : List Char) :
    remaining line index (gap ++ rest) =
      remaining (line + newlines gap) (index + gap.length) rest := by
  induction gap generalizing line index with
  | nil => simp [newlines]
  | cons c gap ih =>
    obtain ⟨first, later⟩ := List.forall_mem_cons.mp spaced
    by_cases space : isLineSpace c = true
    · have inline := newlines_lineSpace space
      rw [List.cons_append, remaining, if_pos space, ih _ _ later, newlines_cons, inline,
        List.length_cons]
      congr 1 <;> omega
    · have newline : c = '\n' := by
        simpa [isLayout, space] using first
      subst newline
      have counted : newlines ['\n'] = 1 := rfl
      rw [List.cons_append, remaining, if_neg space, Head.read_newline]
      dsimp only
      rw [ih _ _ later, newlines_cons, counted, List.length_cons]
      congr 1 <;> omega

/-- Layout alone is passed over to its end. -/
theorem remaining_of_layout (line index : Int) {gap : List Char}
    (spaced : ∀ c ∈ gap, isLayout c = true) :
    remaining line index gap = ⟨[], none, line + newlines gap, index + gap.length⟩ := by
  have passed := remaining_layout line index spaced []
  rwa [List.append_nil, remaining] at passed

theorem wordEnds_of_layout {gap rest : List Char} (spaced : ∀ c ∈ gap, isLayout c = true)
    (ends : gap = [] → WordEnds rest) : WordEnds (gap ++ rest) := by
  cases gap with
  | nil => exact ends rfl
  | cons c gap =>
    intro first head
    obtain rfl := Option.some.inj (Option.mem_def.mp head)
    have space := spaced c List.mem_cons_self
    simp only [isLayout, isLineSpace, Bool.or_eq_true, beq_iff_eq] at space
    rcases space with ((rfl | rfl) | rfl) | rfl <;> decide

theorem wordEnds_of_passed {after : List Char} (passed : ∀ c ∈ after, isLayout c = true) :
    WordEnds after := by
  rw [← List.append_nil after]
  exact wordEnds_of_layout passed fun _ => nofun

/-- A word ends before a lexeme exactly when that is no reserved word. -/
theorem wordEnds_lexeme_iff {lexeme : Lexeme} {rest : List Char} :
    WordEnds (lexeme.chars ++ rest) ↔ isWord lexeme = false := by
  cases lexeme with
  | keyword keyword =>
    obtain ⟨c, more, spelled, letter, _⟩ := keyword.spelling_eq_cons
    have part : isWordPart c = true := Bool.or_eq_true_iff.mpr (Or.inl letter)
    simp [Lexeme.chars, spelled, WordEnds, part, isWord]
  | delimiter mark => cases mark <;> simp [Lexeme.chars, WordEnds, isWord] <;> decide
  | quoted content => simp [Lexeme.chars, WordEnds, isWord]; decide

/-- A reserved word before an admissible layout ends there. -/
theorem wordEnds_chars {layout : Layout} {after : List Char}
    (admissible : AdmissibleAfter true layout) (ends : WordEnds after) :
    WordEnds (chars layout after) := by
  cases layout with
  | nil => exact ends
  | cons piece rest =>
    obtain ⟨gap, lexeme⟩ := piece
    obtain ⟨spaced, _, separate, _⟩ := admissible
    apply wordEnds_of_layout (List.all_eq_true.mp spaced)
    intro touching
    apply wordEnds_lexeme_iff.mpr
    rw [Bool.eq_false_iff]
    intro word
    exact separate rfl word touching

/-- A scan reads the lexemes of an admissible layout, and goes on behind them. -/
theorem remaining_chars (line index : Int) {afterWord : Bool} {layout : Layout} {after : List Char}
    (admissible : AdmissibleAfter afterWord layout) (ends : WordEnds after) :
    remaining line index (chars layout after) =
      behind (placed line index layout)
        (remaining (line + newlines (chars layout [])) (index + (chars layout []).length) after) := by
  induction layout generalizing line index afterWord with
  | nil => simp [chars, placed, behind, newlines]
  | cons piece rest ih =>
    obtain ⟨gap, lexeme⟩ := piece
    obtain ⟨spaced, formed, _, admissible⟩ := admissible
    -- The longest match ends with the lexeme, because the layout separates reserved words.
    have found : Head.read (lexeme.chars ++ chars rest after) = .lexeme lexeme := by
      apply Head.read_chars formed
      intro word
      rw [word] at admissible
      exact wordEnds_chars admissible ends
    rw [chars, remaining_layout _ _ (List.all_eq_true.mp spaced), remaining_lexeme _ _ found,
      Lexeme.drop_chars, ih _ _ admissible, cons_behind]
    simp only [placed, chars, newlines_append, newlines_lexeme formed, List.length_append,
      Lexeme.length_chars]
    push_cast
    simp only [Int.add_assoc, Int.zero_add]

/-- A scan reads an admissible layout and the layout behind it to their end. -/
theorem remaining_to_end (line index : Int) {afterWord : Bool} {layout : Layout} {after : List Char}
    (admissible : AdmissibleAfter afterWord layout) (passed : ∀ c ∈ after, isLayout c = true) :
    remaining line index (chars layout after) =
      ⟨placed line index layout, none, line + newlines (chars layout after),
        index + (chars layout after).length⟩ := by
  rw [remaining_chars line index admissible (wordEnds_of_passed passed),
    remaining_of_layout _ _ passed, chars_eq_append layout after, newlines_append,
    List.length_append]
  push_cast
  simp only [behind, List.append_nil, Int.add_assoc]

theorem ofText_chars {layout : Layout} {after : List Char} (admissible : layout.Admissible)
    (passed : ∀ c ∈ after, isLayout c = true) :
    (ofText (String.ofList (chars layout after))).fault = none ∧
      (ofText (String.ofList (chars layout after))).tokens = placed 1 0 layout := by
  rw [ofText_eq_remaining, String.toList_ofList, remaining_to_end 1 0 admissible passed]
  exact ⟨rfl, rfl⟩

/-- Scanning undoes every admissible layout. The lexemes come back in order, with their
kinds and texts, and each stands where it was written. -/
theorem scan_undoes_layout (layout : Layout) (after : List Char) (admissible : layout.Admissible)
    (passed : ∀ c ∈ after, isLayout c = true) :
    let scan := ofText (String.ofList (chars layout after))
    scan.fault = none ∧
      scan.tokens.map (fun token => token.toToken.written) =
        layout.map (fun piece => piece.2.written) ∧
      ∀ front before lexeme back, layout = front ++ (before, lexeme) :: back →
        ∃ token : PlacedToken, scan.tokens[front.length]? = some token ∧
          token.index = (chars front before).length ∧
          token.stop = token.index + lexeme.width := by
  intro scan
  obtain ⟨faultless, tokens⟩ := ofText_chars admissible passed
  refine ⟨faultless, ?_, ?_⟩
  · rw [tokens, map_written_placed]
  · rintro front before lexeme back rfl
    refine ⟨lexeme.place (1 + newlines (chars front before)) (0 + (chars front before).length),
      ?_, Int.zero_add _, rfl⟩
    rw [tokens]
    exact placed_split 1 0 front back before lexeme admissible

theorem scan_undoes_crowded_layout :
    let layout : Layout := [([], .keyword (.constant true)), ([], .quoted "And(é\t".toList),
      ([], .quoted []), ([], .keyword .relation), (['\n', ' '], .keyword .negation),
      ([], .delimiter .openParen)]
    layout.Admissible ∧ (∀ c ∈ ['\r'], isLayout c = true) ∧
      String.ofList (chars layout ['\r']) = "T\"And(é\t\"\"\"Rel\n Not(\r" ∧
      (ofText "T\"And(é\t\"\"\"Rel\n Not(\r").tokens.map (fun token => token.toToken.written) =
        [("TRUE", "T"), ("STRING", "\"And(é\t\""), ("STRING", "\"\""), ("REL", "Rel"),
          ("NOT", "Not"), ("LPAREN", "(")] := by
  intro layout
  have admissible : layout.Admissible := by
    simp [layout, Admissible, AdmissibleAfter, isWord, isLayout, isLineSpace, Lexeme.WellFormed,
      isQuotable]
  have passed : ∀ c ∈ ['\r'], isLayout c = true := List.all_eq_true.mp (by decide)
  have written : String.ofList (chars layout ['\r']) = "T\"And(é\t\"\"\"Rel\n Not(\r" := by decide
  refine ⟨admissible, passed, written, ?_⟩
  have undone := (scan_undoes_layout layout ['\r'] admissible passed).2.1
  rw [written] at undone
  rw [undone]
  decide

/-- Where a scan stops behind the tokens that it read: at the end of the text, at a word
that is not reserved, or at a character that begins nothing. -/
inductive Stops (line index : Int) (tokens : List PlacedToken) : List Char → Scan → Prop where
  | atEnd : Stops line index tokens [] ⟨tokens, none, line, index⟩
  | atWord {rest word : List Char} (found : Head.read rest = .unknownWord word) :
      Stops line index tokens rest
        ⟨tokens, some (.unknownWord (String.ofList word) index), line, index + word.length⟩
  | atCharacter {c : Char} {rest : List Char} (found : Head.read (c :: rest) = .nothing) :
      Stops line index tokens (c :: rest) ⟨tokens, some (.invalidCharacter c index), line, index⟩

theorem Stops.tokens_eq {line index : Int} {tokens : List PlacedToken} {rest : List Char}
    {scan : Scan} (stops : Stops line index tokens rest scan) : scan.tokens = tokens := by
  cases stops <;> rfl

theorem Stops.cons {line index : Int} {tokens : List PlacedToken} {rest : List Char} {scan : Scan}
    (stops : Stops line index tokens rest scan) (token : PlacedToken) :
    Stops line index (token :: tokens) rest (scan.cons token) := by
  cases stops with
  | atEnd => exact .atEnd
  | atWord found => exact .atWord found
  | atCharacter found => exact .atCharacter found

/-- How a scan goes: it reads the lexemes of an admissible layout, passes over the layout
behind them, and stops there. -/
structure Reads (afterWord : Bool) (line index : Int) (text : List Char) (scan : Scan)
    (layout : Layout) (after rest : List Char) : Prop where
  written : text = chars layout (after ++ rest)
  admissible : AdmissibleAfter afterWord layout
  passed : ∀ c ∈ after, isLayout c = true
  stops : Stops (line + newlines (chars layout after)) (index + (chars layout after).length)
    (placed line index layout) rest scan

section
variable {line index : Int} {text rest after : List Char} {scan : Scan} {layout : Layout}

/-- Layout at the beginning of a text belongs to its first gap. -/
theorem Reads.skip {afterWord : Bool} {c : Char} (space : isLayout c = true)
    (reads : Reads false (line + newlines [c]) (index + 1) text scan layout after rest) :
    ∃ layout after, Reads afterWord line index (c :: text) scan layout after rest := by
  obtain ⟨rfl, admissible, passed, stops⟩ := reads
  have lines (chars : List Char) :
      line + newlines [c] + newlines chars = line + newlines (c :: chars) := by
    rw [newlines_cons c chars]
    omega
  have places (chars : List Char) :
      index + 1 + (chars.length : Int) = index + (c :: chars).length := by
    rw [List.length_cons]
    omega
  rw [lines, places] at stops
  cases layout with
  | nil => exact ⟨[], c :: after, rfl, trivial, List.forall_mem_cons.mpr ⟨space, passed⟩, stops⟩
  | cons piece more =>
    obtain ⟨gap, lexeme⟩ := piece
    obtain ⟨spaced, formed, _, admissible⟩ := admissible
    refine ⟨(c :: gap, lexeme) :: more, after, rfl, ?_, passed, ?_⟩
    · exact ⟨by rw [List.all_cons, space, spaced]; rfl, formed, fun _ _ => nofun, admissible⟩
    · have written : chars ((c :: gap, lexeme) :: more) after =
          c :: chars ((gap, lexeme) :: more) after := rfl
      simpa only [placed, lines, places, written] using stops

theorem Reads.lexeme {afterWord : Bool} {lexeme : Lexeme} (formed : lexeme.WellFormed)
    (apart : afterWord = true → isWord lexeme = false)
    (reads : Reads (isWord lexeme) line (index + lexeme.width) text scan layout after rest) :
    Reads afterWord line index (lexeme.chars ++ text) (scan.cons (lexeme.place line index))
      (([], lexeme) :: layout) after rest := by
  obtain ⟨rfl, admissible, passed, stops⟩ := reads
  refine ⟨rfl, ?_, passed, ?_⟩
  · refine ⟨rfl, formed, ?_, admissible⟩
    intro touching word
    rw [apart touching] at word
    cases word
  · have lines : newlines (chars (([], lexeme) :: layout) after) = newlines (chars layout after) := by
      simp only [chars, newlines_append, newlines_lexeme formed, Nat.zero_add]
      simp [newlines]
    have places : index + ((chars (([], lexeme) :: layout) after).length : Int) =
        index + lexeme.width + (chars layout after).length := by
      simp only [chars, List.nil_append, List.length_append, Lexeme.length_chars]
      omega
    have first : placed line index (([], lexeme) :: layout) =
        lexeme.place line index :: placed line (index + lexeme.width) layout := by
      simp [placed, newlines]
    rw [lines, places, first]
    exact stops.cons _

end

/-- Every scan reads some admissible layout up to the place where it stops. What comes
right behind a reserved word does not lengthen it, so no two reserved words touch. -/
theorem exists_reads (line index : Int) (text : List Char) (afterWord : Bool)
    (ends : afterWord = true → WordEnds text) :
    ∃ layout after rest,
      Reads afterWord line index text (remaining line index text) layout after rest := by
  fun_induction remaining line index text generalizing afterWord with
  | case1 line index =>
    refine ⟨[], [], [], rfl, trivial, List.forall_mem_nil _, ?_⟩
    simpa [chars, placed, newlines] using Stops.atEnd
  | case2 line index c rest space ih =>
    have spaced : isLayout c = true := by rw [isLayout, space, Bool.true_or]
    have inline := newlines_lineSpace space
    obtain ⟨layout, after, stop, reads⟩ := ih false (absurd · Bool.false_ne_true)
    obtain ⟨layout, after, reads⟩ := Reads.skip spaced (by rwa [inline, Int.natCast_zero, Int.add_zero])
    exact ⟨layout, after, stop, reads⟩
  | case3 line index c rest dense lexeme found ih =>
    have stands := Head.stands_read (c :: rest)
    rw [found] at stands
    obtain ⟨formed, behind, text, apart⟩ := stands
    rw [text, Lexeme.drop_chars] at ih ⊢
    rw [text] at ends
    obtain ⟨layout, after, stop, reads⟩ := ih (isWord lexeme) apart
    have separate : afterWord = true → isWord lexeme = false := by
      intro touching
      exact wordEnds_lexeme_iff.mp (ends touching)
    exact ⟨_, after, stop, reads.lexeme formed separate⟩
  | case4 line index c rest dense newline ih =>
    have stands := Head.stands_read (c :: rest)
    rw [newline] at stands
    obtain ⟨_, rfl, rfl⟩ := stands
    obtain ⟨layout, after, stop, reads⟩ := ih false (absurd · Bool.false_ne_true)
    obtain ⟨layout, after, reads⟩ := Reads.skip (c := '\n') rfl reads
    exact ⟨layout, after, stop, reads⟩
  | case5 line index c rest dense word unknown =>
    refine ⟨[], [], c :: rest, rfl, trivial, List.forall_mem_nil _, ?_⟩
    simpa [chars, placed, newlines] using Stops.atWord unknown
  | case6 line index c rest dense nothing =>
    refine ⟨[], [], c :: rest, rfl, trivial, List.forall_mem_nil _, ?_⟩
    simpa [chars, placed, newlines] using Stops.atCharacter nothing

theorem exists_reads_run (text : String) (line : Int) : ∃ layout after rest,
    Reads false line 0 text.toList (run text line 0) layout after rest := by
  rw [run_zero]
  exact exists_reads line 0 text.toList false nofun

end Scan

end FirstOrderText
