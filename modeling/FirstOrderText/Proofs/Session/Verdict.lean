import FirstOrderText.Proofs.Reader.Location
import FirstOrderText.Proofs.Session.Replies
import Mathlib.Algebra.GroupWithZero.Nat

/-! What the lines of a log tell. Texts are written as they are, so that a line of a text may
look like a verdict. Only a text that is turned down can have such a line, because what begins
a verdict is no lexeme, and it brings the line into the log each time that it is written. -/
namespace FirstOrderText

/-- What reading a text comes to, as a log tells it. -/
inductive Verdict where
  | accepted
  | rejected
  | unconverted
  deriving DecidableEq, Repr

/-- The verdict that a reply gives on a text that was to be read. -/
def Reply.verdict? (reply : Reply) : Option Verdict :=
  match reply.outcome with
  | .ok (.formula _) => some .accepted
  | .error (.reading (.rejected _)) => some .rejected
  | .error (.reading (.unconverted _)) => some .unconverted
  | _ => none

namespace Verdict

/-- What begins the line of a verdict. -/
def heading : Verdict → String
  | .accepted => "ACCEPTED: "
  | .rejected => "REJECTED: "
  | .unconverted => "CONVERSION FAILED: "

/-- Whether a line begins as that of a verdict does. -/
def begins (verdict : Verdict) (line : List Char) : Bool :=
  verdict.heading.toList.isPrefixOf line

/-- How many lines of a text begin as that of a verdict does. -/
def linesIn (verdict : Verdict) (text : String) : Nat :=
  (linesOf text).countP verdict.begins

/-- How many lines of a text behind its first one begin so. -/
def echoesIn (verdict : Verdict) (text : String) : Nat :=
  (linesOf text).tail.countP verdict.begins

variable (verdict : Verdict)

theorem inline_heading : Inline verdict.heading := by
  cases verdict <;> decide

theorem begins_heading (other : Verdict) (line : List Char) :
    verdict.begins (other.heading.toList ++ line) = decide (other = verdict) := by
  by_cases same : other = verdict
  · subst same
    rw [decide_eq_true rfl]
    exact List.isPrefixOf_iff_prefix.mpr (List.prefix_append _ _)
  · rw [decide_eq_false same]
    cases verdict <;> cases other <;> first | rfl | exact absurd rfl same

/-- What comes in front of a text decides whether the first line begins so. -/
theorem linesIn_append {front : String} (inline : Inline front) {starts : Bool}
    (each : ∀ line, verdict.begins (front.toList ++ line) = starts) (text : String) :
    verdict.linesIn (front ++ text) = starts.toNat + verdict.echoesIn text := by
  rw [linesIn, linesOf_append inline, echoesIn, linesOf, splitOn_eq_cons, List.modifyHead_cons,
    List.countP_cons, each, List.tail_cons, Nat.add_comm]
  cases starts <;> rfl

theorem linesIn_heading (other : Verdict) (text : String) :
    verdict.linesIn (other.heading ++ text) =
      (decide (other = verdict)).toNat + verdict.echoesIn text :=
  verdict.linesIn_append other.inline_heading (verdict.begins_heading other) text

theorem linesIn_reason (reason : String) :
    verdict.linesIn ("  reason: " ++ reason) = verdict.echoesIn reason := by
  have indented (line : List Char) :
      verdict.begins ("  reason: ".toList ++ line) = false := by
    cases verdict <;> rfl
  rw [verdict.linesIn_append (by decide) indented]
  exact Nat.zero_add _

theorem echoesIn_append {front : String} (inline : Inline front) (text : String) :
    verdict.echoesIn (front ++ text) = verdict.echoesIn text := by
  rw [echoesIn, linesOf_append inline, List.tail_modifyHead, echoesIn]

theorem echoesIn_inline {text : String} (inline : Inline text) : verdict.echoesIn text = 0 := by
  rw [echoesIn, linesOf_inline inline]
  rfl

/-- A text has an echo when the heading stands right behind a newline. -/
theorem echoesIn_eq_zero_iff (text : String) :
    verdict.echoesIn text = 0 ↔ ¬('\n' :: verdict.heading.toList) <:+: text.toList := by
  rw [← exists_later_line_iff verdict.inline_heading, echoesIn, List.countP_eq_zero]
  simp only [begins, List.isPrefixOf_iff_prefix, not_exists, not_and]
  rfl

/-- The lines of a journal are those of its entries, and what is written behind it leaves them
as they are. -/
theorem linesIn_text_append (journal : Journal) (back : String) :
    verdict.linesIn (journal.text ++ back) =
      ((journal.flatMap Entry.lines).map verdict.linesIn).sum + verdict.linesIn back := by
  rw [linesIn, Journal.text, linesOf_join_append, List.countP_append, List.countP_flatMap]
  rfl

theorem linesIn_empty : verdict.linesIn "" = 0 := by
  cases verdict <;> rfl

theorem linesIn_text (journal : Journal) :
    verdict.linesIn journal.text = ((journal.flatMap Entry.lines).map verdict.linesIn).sum := by
  have whole := verdict.linesIn_text_append journal ""
  rwa [String.append_empty, linesIn_empty] at whole

theorem linesIn_written (replies : List Reply) : verdict.linesIn (written replies) =
    (replies.map fun reply => verdict.linesIn reply.journal.text).sum := by
  induction replies with
  | nil => exact verdict.linesIn_empty
  | cons reply rest ih =>
    rw [written, List.map_cons, String.join_cons, linesIn_text_append, ← linesIn_text, ← written,
      ih, List.map_cons, List.sum_cons]

end Verdict

namespace Scan

theorem newline_suffix_of_append {front rest back : List Char} (inline : '\n' ∉ front)
    (behind : ('\n' :: back) <:+ front ++ rest) : ('\n' :: back) <:+ rest := by
  induction front with
  | nil => exact behind
  | cons c front ih =>
    obtain ⟨other, inline⟩ := not_or.mp (mt List.mem_cons.mpr inline)
    rcases List.suffix_cons_iff.mp behind with same | behind
    · exact absurd (List.cons.inj same).1 other
    · exact ih inline behind

/-- What stands behind a newline of a readable text is readable, for no lexeme holds one. -/
theorem Readable.behind_newline {text back : List Char} (readable : Readable text)
    (behind : ('\n' :: back) <:+ text) : Readable back := by
  induction readable with
  | nil => simp at behind
  | layout _ more ih =>
    rcases List.suffix_cons_iff.mp behind with same | behind
    · cases same
      exact more
    · exact ih behind
  | @delimiter mark rest _ ih =>
    have inline : '\n' ∉ [mark.char] := by cases mark <;> decide
    exact ih (newline_suffix_of_append inline behind)
  | @quoted content rest _ inline _ ih =>
    have inline : '\n' ∉ '\x22' :: (content ++ ['\x22']) := by simp [inline]
    have split : '\x22' :: (content ++ '\x22' :: rest) =
        '\x22' :: (content ++ ['\x22']) ++ rest := by simp
    rw [split] at behind
    exact ih (newline_suffix_of_append inline behind)
  | word keyword _ _ ih =>
    have inline : Inline keyword.spelling :=
      (by decide : ∀ keyword ∈ Keyword.all, Inline keyword.spelling) keyword keyword.mem_all
    exact ih (newline_suffix_of_append inline behind)

end Scan

namespace Verdict

variable (verdict : Verdict)

theorem read_heading (rest : List Char) :
    ∃ word, Head.read (verdict.heading.toList ++ rest) = .unknownWord word := by
  cases verdict <;> exact ⟨_, rfl⟩

/-- What begins a verdict cannot be scanned. -/
theorem not_readable_heading (rest : List Char) :
    ¬Scan.Readable (verdict.heading.toList ++ rest) := by
  intro readable
  obtain ⟨word, unknown⟩ := verdict.read_heading rest
  have faultless : (Scan.remaining 1 0 (verdict.heading.toList ++ rest)).fault = none :=
    Scan.fault_eq_none_iff.mpr readable
  obtain ⟨c, more, begun, dense⟩ : ∃ c more, verdict.heading.toList ++ rest = c :: more ∧
      ¬isLineSpace c = true := by
    cases verdict <;> exact ⟨_, _, rfl, by decide⟩
  rw [begun] at unknown faultless
  rw [Scan.remaining, if_neg dense, unknown] at faultless
  cases faultless

/-- A text that scans has no echo. -/
theorem echoesIn_of_faultless {text : String} (faultless : (Scan.ofText text).fault = none) :
    verdict.echoesIn text = 0 := by
  rw [echoesIn_eq_zero_iff]
  rintro ⟨front, back, whole⟩
  rw [Scan.ofText_eq_remaining, Scan.fault_eq_none_iff] at faultless
  have behind : ('\n' :: (verdict.heading.toList ++ back)) <:+ text.toList := by
    rw [← whole, List.append_assoc]
    exact List.suffix_append _ _
  exact verdict.not_readable_heading back (faultless.behind_newline behind)

/-- A blank text has no echo. -/
theorem echoesIn_of_blank {text : String} (blank : isBlank text = true) :
    verdict.echoesIn text = 0 := by
  rw [echoesIn_eq_zero_iff]
  intro echo
  have colon : ':' ∈ verdict.heading.toList := by
    cases verdict <;> decide
  have blankColon := List.all_eq_true.mp blank ':' (echo.subset (List.mem_cons_of_mem _ colon))
  exact absurd blankColon (by decide)

end Verdict

/-- The reply to a text that is to be read, at the verbose level. -/
def readingReply (limit : Option Int) (text : String) : Reply :=
  (Step.read text).reply ⟨.standard, limit⟩ .verbose

/-- How often a text that is turned down is written: with its verdict, and again in the reason
unless it is too long. -/
def timesWritten (limit : Option Int) (text : String) : Nat :=
  match limit with
  | some bound => if bound < text.length then 1 else 2
  | none => 2

theorem timesWritten_of_tooLong {limit : Option Int} {text : String}
    (exceeds : TooLong limit text) : timesWritten limit text = 1 := by
  obtain ⟨bound, rfl, exceeds⟩ := exceeds
  exact if_pos exceeds

theorem timesWritten_of_fits {limit : Option Int} {text : String}
    (fits : ¬TooLong limit text) : timesWritten limit text = 2 := by
  cases limit with
  | none => rfl
  | some bound => exact if_neg fun exceeds => fits ⟨bound, rfl, exceeds⟩

theorem timesWritten_pos (limit : Option Int) (text : String) : 0 < timesWritten limit text := by
  unfold timesWritten
  split
  · split <;> decide
  · decide

namespace Verdict

variable (verdict : Verdict) {limit : Option Int} {text : String}

/-- A reason echoes the text with which it goes on. -/
theorem echoesIn_message {rejection : Rejection} (turnedDown : TurnedDown limit text rejection) :
    verdict.echoesIn text + verdict.echoesIn (rejection.message text) =
      timesWritten limit text * verdict.echoesIn text := by
  rcases turnedDown.message_cases with ⟨blank | exceeds, inline⟩ | ⟨fits, front, inline, message⟩
  · rw [verdict.echoesIn_inline inline, verdict.echoesIn_of_blank blank, Nat.mul_zero]
  · rw [verdict.echoesIn_inline inline, timesWritten_of_tooLong exceeds, Nat.one_mul, Nat.add_zero]
  · rw [message, verdict.echoesIn_append inline, timesWritten_of_fits fits, Nat.two_mul]

theorem linesIn_accepted (text : String) : verdict.linesIn (Journal.text [.accepted text]) =
    (decide (accepted = verdict)).toNat + verdict.echoesIn text := by
  rw [linesIn_text, ← linesIn_heading]
  exact Nat.add_zero _

theorem linesIn_reasoned (other : Verdict) {entry : Entry} {text reason : String}
    (lines : entry.lines = [other.heading ++ text, "  reason: " ++ reason]) :
    verdict.linesIn (Journal.text [entry]) =
      (decide (other = verdict)).toNat + (verdict.echoesIn text + verdict.echoesIn reason) := by
  rw [linesIn_text, ← Nat.add_assoc, ← linesIn_heading, ← linesIn_reason, List.flatMap_singleton,
    lines]
  exact congrArg (verdict.linesIn (other.heading ++ text) + ·) (Nat.add_zero _)

/-- What the reading of one text adds to the lines that begin as a verdict does: its own, and
the echoes of the text each time that it is written. -/
theorem linesIn_readingReply (limit : Option Int) (text : String) :
    verdict.linesIn (readingReply limit text).journal.text =
      (decide ((readingReply limit text).verdict? = some verdict)).toNat +
        timesWritten limit text * verdict.echoesIn text := by
  have told := Reader.told_read limit text
  rw [readingReply, Step.reply]
  generalize Reader.read ⟨.standard, limit⟩ .verbose text = logged at told ⊢
  -- A text that has a tree scans, and so only one that is turned down keeps its echoes.
  cases told with
  | accepted faultless =>
    dsimp only
    rw [linesIn_accepted, verdict.echoesIn_of_faultless faultless]
    simp [Reply.verdict?]
  | @rejected rejection turnedDown =>
    dsimp only
    rw [verdict.linesIn_reasoned rejected rfl, verdict.echoesIn_message turnedDown]
    simp [Reply.verdict?]
  | unconverted faultless inline =>
    dsimp only
    rw [verdict.linesIn_reasoned unconverted rfl, verdict.echoesIn_of_faultless faultless,
      verdict.echoesIn_inline inline]
    simp [Reply.verdict?]

/-- Only a text that is turned down has echoes. -/
theorem rejected_of_echoes {limit : Option Int} {text : String}
    (echoes : verdict.echoesIn text ≠ 0) :
    (readingReply limit text).verdict? = some .rejected := by
  have told := Reader.told_read limit text
  rw [readingReply, Step.reply]
  generalize Reader.read ⟨.standard, limit⟩ .verbose text = logged at told ⊢
  cases told with
  | rejected _ => rfl
  | accepted faultless => exact absurd (verdict.echoesIn_of_faultless faultless) echoes
  | unconverted faultless _ => exact absurd (verdict.echoesIn_of_faultless faultless) echoes

theorem linesIn_readings (limit : Option Int) (texts : List String) :
    verdict.linesIn (written (texts.map (readingReply limit))) =
      ((texts.map (readingReply limit)).countP fun reply => reply.verdict? = some verdict) +
        (texts.map fun text => timesWritten limit text * verdict.echoesIn text).sum := by
  rw [linesIn_written]
  induction texts with
  | nil => rfl
  | cons text rest ih =>
    rw [List.map_cons, List.map_cons, List.sum_cons, ih, linesIn_readingReply, List.countP_cons,
      List.map_cons, List.sum_cons]
    by_cases own : (readingReply limit text).verdict? = some verdict
    · rw [decide_eq_true own, if_pos rfl, Bool.toNat_true]
      omega
    · rw [decide_eq_false own, if_neg Bool.false_ne_true, Bool.toNat_false]
      omega

theorem linesIn_opening (grammarGiven : Bool) :
    verdict.linesIn (Session.opening .verbose grammarGiven).text = 0 := by
  rw [linesIn_text]
  cases grammarGiven <;> cases verdict <;> rfl

/-- Every text is written, so that nothing is counted only where no text has an echo. -/
theorem echoes_eq_zero_iff (limit : Option Int) (texts : List String) :
    (texts.map fun text => timesWritten limit text * verdict.echoesIn text).sum = 0 ↔
      ∀ text ∈ texts, ¬('\n' :: verdict.heading.toList) <:+: text.toList := by
  have each (text : String) : timesWritten limit text * verdict.echoesIn text = 0 ↔
      ¬('\n' :: verdict.heading.toList) <:+: text.toList := by
    rw [Nat.mul_eq_zero, or_iff_right (timesWritten_pos limit text).ne', echoesIn_eq_zero_iff]
  rw [List.sum_eq_zero_iff_forall_eq_nat, List.forall_mem_map]
  exact forall₂_congr fun text _ => each text

end Verdict

namespace Session

/-- Readings leave the level as it is, and so each text is read for itself. -/
theorem takeAll_read (session : Session) (texts : List String) :
    (session.takeAll (texts.map .read)).1 =
      texts.map fun text => (Step.read text).reply session.reader session.level := by
  induction texts generalizing session with
  | nil => rfl
  | cons text rest ih =>
    simp only [List.map_cons, takeAll, ih]
    rfl

/-- How many lines of a log begin as that of a verdict does. Each text that is read gives its
verdict one, and every later line of a text that begins so is counted with them, each time that
the text is written. Such a text is turned down. The lines are as many as the verdicts just
when no text holds the heading right behind a newline. -/
theorem verdict_lines_counted (limit : Option Int) (grammarGiven : Bool) (texts : List String)
    (verdict : Verdict) :
    let (replies, ended) :=
      (begun ⟨.standard, limit⟩ .verbose grammarGiven).takeAll (texts.map .read)
    let verdicts := replies.countP fun reply => reply.verdict? = some verdict
    verdict.linesIn ended.received = verdicts +
        (texts.map fun text => timesWritten limit text * verdict.echoesIn text).sum ∧
      (verdict.linesIn ended.received = verdicts ↔
        ∀ text ∈ texts, ¬('\n' :: verdict.heading.toList) <:+: text.toList) ∧
      ∀ text reply, (text, reply) ∈ texts.zip replies → verdict.echoesIn text ≠ 0 →
        reply.verdict? = some .rejected := by
  let first := begun ⟨.standard, limit⟩ .verbose grammarGiven
  have replies : (first.takeAll (texts.map .read)).1 = texts.map (readingReply limit) :=
    takeAll_read first texts
  have received : (first.takeAll (texts.map .read)).2.received =
      (opening .verbose grammarGiven).text ++ written (texts.map (readingReply limit)) := by
    rw [takeAll_ended, replies]
    rfl
  have counted : verdict.linesIn (first.takeAll (texts.map .read)).2.received =
      ((texts.map (readingReply limit)).countP fun reply => reply.verdict? = some verdict) +
        (texts.map fun text => timesWritten limit text * verdict.echoesIn text).sum := by
    rw [received, Verdict.linesIn_text_append, ← Verdict.linesIn_text, verdict.linesIn_opening,
      verdict.linesIn_readings, Nat.zero_add]
  dsimp only
  rw [replies, counted, Nat.add_eq_left, verdict.echoes_eq_zero_iff]
  refine ⟨rfl, Iff.rfl, ?_⟩
  intro text reply member echoes
  rw [← List.map_prod_left_eq_zip] at member
  obtain ⟨_, _, rfl, rfl⟩ := List.mem_map.mp member
  exact verdict.rejected_of_echoes echoes

/-- The second line of this text is an echo in its verdict and in the reason for it, and
nothing was accepted. -/
theorem echoed_heading_counted :
    let (replies, ended) := (begun .standard .verbose true).takeAll [.read "T\nACCEPTED: T"]
    ended.received = "REJECTED: T\nACCEPTED: T\n" ++
        "  reason: Unknown word 'ACCEPTED' at index 2 in formula: T\nACCEPTED: T\n" ∧
      Verdict.accepted.linesIn ended.received ≠
        replies.countP fun reply => reply.verdict? = some .accepted := by
  decide +kernel

end Session

end FirstOrderText
