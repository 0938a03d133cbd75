import FirstOrderText.Session

/-! What a session remembers. A step leaves nothing behind but the level and what it
wrote, so that each reply is the one that a new session at the level in force would
give, and the stream holds what was written at the beginning and by the steps. -/
namespace FirstOrderText

/-- The level that a step sets, if it sets one. -/
def Step.levelSet? : Step → Option LogLevel
  | .setLevel level | .log (.setLevel level) => some level
  | .read _ | .inspect _ _ | .log (.write _) => none

/-- The level in force after some steps: the last that was set, or else the first level. -/
def levelInForce (first : LogLevel) (steps : List Step) : LogLevel :=
  (steps.filterMap Step.levelSet?).getLast?.getD first

theorem Step.levelAfter_eq (level : LogLevel) (step : Step) :
    step.levelAfter level = step.levelSet?.getD level := by
  cases step with
  | log call => cases call <;> rfl
  | read _ | inspect _ _ | setLevel _ => rfl

theorem levelInForce_cons (first : LogLevel) (step : Step) (rest : List Step) :
    levelInForce first (step :: rest) = levelInForce (step.levelAfter first) rest := by
  rw [levelInForce, levelInForce, step.levelAfter_eq]
  cases set : step.levelSet? with
  | none => rw [List.filterMap_cons_none set, Option.getD_none]
  | some level =>
    rw [List.filterMap_cons_some set, List.getLast?_cons, Option.getD_some, Option.getD_some]

/-- What some replies wrote, one after another. -/
def written (replies : List Reply) : String :=
  String.join (replies.map fun reply => reply.journal.text)

namespace Session

/-- Sessions of one reader at one level reply alike, whatever became of them before. -/
theorem take_reply (session fresh : Session) (step : Step) (reader : session.reader = fresh.reader)
    (level : session.level = fresh.level) : (session.take step).1 = (fresh.take step).1 := by
  unfold take
  rw [reader, level]

/-- The reply to a step is given by the session that the steps before it left. -/
theorem reply_takeAll (session : Session) (front back : List Step) (step : Step) :
    (session.takeAll (front ++ step :: back)).1[front.length]? =
      some ((session.takeAll front).2.take step).1 := by
  induction front generalizing session with
  | nil => rfl
  | cons first front ih =>
    simp only [List.cons_append, takeAll, List.length_cons, List.getElem?_cons_succ, ih]

theorem length_takeAll (session : Session) (steps : List Step) :
    (session.takeAll steps).1.length = steps.length := by
  induction steps generalizing session with
  | nil => rfl
  | cons step rest ih => simp only [takeAll, List.length_cons, ih]

/-- All that steps leave behind is the last level set and what they wrote. -/
theorem takeAll_ended (session : Session) (steps : List Step) :
    (session.takeAll steps).2 = ⟨session.reader, levelInForce session.level steps,
      session.received ++ written (session.takeAll steps).1⟩ := by
  induction steps generalizing session with
  | nil => simp [takeAll, written, levelInForce]
  | cons step rest ih =>
    simp only [takeAll, ih, levelInForce_cons]
    simp [take, written, String.append_assoc]

/-- A session remembers nothing but its level. Each reply, with what it wrote, is the one
that a new session at the level in force gives to that step alone, and the stream has
received what was written at the beginning and then by each step. -/
theorem replies_memoryless (reader : Reader) (level : LogLevel) (grammarGiven : Bool)
    (steps : List Step) :
    let (replies, ended) := (begun reader level grammarGiven).takeAll steps
    replies.length = steps.length ∧
      (∀ front step back, steps = front ++ step :: back → replies[front.length]? =
        some ((begun reader (levelInForce level front) grammarGiven).take step).1) ∧
      ended.level = levelInForce level steps ∧
      ended.received = (opening level grammarGiven).text ++ written replies := by
  have ended := takeAll_ended (begun reader level grammarGiven) steps
  refine ⟨length_takeAll _ _, ?_, congrArg Session.level ended, congrArg received ended⟩
  rintro front step back rfl
  have left := takeAll_ended (begun reader level grammarGiven) front
  rw [reply_takeAll]
  congr 1
  apply take_reply
  · rw [left]
    rfl
  · rw [left]
    rfl

end Session

/-! What the level of a journal does. It takes part in nothing that is answered, and of what
is written with all details it leaves out the entries that it does not show. -/

/-- What each level shows. The normal level shows only that a text came to nothing, and why;
the verbose level leaves out the details of reading. -/
def LogLevel.shows : LogLevel → Entry → Bool
  | .silent, _ => false
  | .normal, .rejected _ _ | .normal, .unconverted _ _ => true
  | .normal, _ => false
  | .verbose, .debug _ _ | .verbose, .statistics _ => false
  | .verbose, _ => true
  | .debug, _ => true

theorem LogLevel.shows_eq (level : LogLevel) (entry : Entry) :
    level.shows entry = decide (entry.threshold ≤ level) := by
  cases level <;> cases entry <;> rfl

namespace Journal

theorem upTo_eq_filter_shows (level : LogLevel) (journal : Journal) :
    upTo level journal = journal.filter level.shows := by
  rw [upTo, funext level.shows_eq]

/-- At every level an entry is written as far as the level lets through what is written with
all details. -/
theorem record_eq_upTo_debug (level : LogLevel) (entry : Entry) :
    record level entry = upTo level (record .debug entry) := by
  rw [record_debug, record_eq_upTo]

/-- What a level keeps of what a higher one keeps is what it keeps of all. -/
theorem upTo_upTo {level level' : LogLevel} (below : level ≤ level') (journal : Journal) :
    upTo level (upTo level' journal) = upTo level journal := by
  rw [upTo, upTo, upTo, List.filter_filter]
  apply List.filter_congr
  intro entry _
  rw [Bool.eq_iff_iff, Bool.and_eq_true, decide_eq_true_iff, decide_eq_true_iff]
  exact ⟨And.left, fun reached => ⟨reached, Nat.le_trans reached below⟩⟩

theorem upTo_silent (journal : Journal) : upTo .silent journal = [] := by
  rw [upTo_eq_filter_shows, List.filter_eq_nil_iff]
  exact fun _ _ => Bool.false_ne_true

end Journal

/-- What is left of what was written when only a level is shown. -/
def Logged.upTo {α : Type} (level : LogLevel) (logged : Logged α) : Logged α :=
  ⟨logged.journal.upTo level, logged.outcome⟩

namespace Reader

variable (reader : Reader) (level : LogLevel) (text : String)

theorem reject_eq_upTo (journal : Journal) (rejection : Rejection) :
    reject level text (journal.upTo level) rejection =
      (reject .debug text journal rejection).upTo level := by
  rw [reject, Journal.record_eq_upTo_debug, ← Journal.upTo_append]
  rfl

/-- The depth of a tree is measured only where it is shown, as if it were always recorded. -/
theorem recordDepth_eq_upTo (tree : Tree) :
    recordDepth level tree = (recordDepth .debug tree).upTo level := by
  cases level <;> rfl

/-- A text has the same tree at every level, or fails in the same way. -/
theorem derive_eq_upTo : reader.derive level text = (reader.derive .debug text).upTo level := by
  unfold derive
  by_cases blank : isBlank text = true
  · rw [if_pos blank, if_pos blank]
    exact reject_eq_upTo level text [] .blank
  · rw [if_neg blank, if_neg blank]
    cases reader.exceededLimit? text with
    | some limit => exact reject_eq_upTo level text [] _
    | none =>
      cases reader.engine.build with
      | error reason => rfl
      | ok _ =>
        cases (Scan.ofText text).result with
        | error fault => exact reject_eq_upTo level text [] _
        | ok tokens =>
          have counted := Journal.record_eq_upTo_debug level (tokenCount tokens.length)
          dsimp only
          rw [counted]
          cases reader.engine.parse text (tokens.map PlacedToken.toToken) with
          | rejected rejection => exact reject_eq_upTo level text _ rejection
          | broken message => rfl
          | nothing => exact reject_eq_upTo level text _ .underivable
          | tree tree =>
            dsimp only
            rw [recordDepth_eq_upTo, ← Journal.upTo_append]
            rfl

/-- A text is read as the same formula at every level, or fails in the same way. -/
theorem read_eq_upTo : reader.read level text = (reader.read .debug text).upTo level := by
  unfold read
  rw [derive_eq_upTo]
  rcases reader.derive .debug text with ⟨journal, _ | tree⟩
  · rfl
  · dsimp only [Logged.upTo]
    cases tree.convert with
    | error fault =>
      dsimp only
      rw [Journal.record_eq_upTo_debug, ← Journal.upTo_append]
    | ok formula =>
      dsimp only
      rw [Journal.record_eq_upTo_debug, ← Journal.upTo_append]

end Reader

namespace Step

variable (reader : Reader) (level : LogLevel) (step : Step)

/-- A step is answered in the same way at every level, which only filters what is written. -/
theorem reply_eq_upTo : step.reply reader level =
    ⟨(step.reply reader .debug).journal.upTo level, (step.reply reader .debug).outcome⟩ := by
  cases step with
  | read text =>
    rw [reply, reply, reader.read_eq_upTo]
    rcases reader.read .debug text with ⟨journal, _ | formula⟩ <;> rfl
  | inspect text inspection =>
    rw [reply, reply, reader.derive_eq_upTo]
    rcases reader.derive .debug text with ⟨journal, _ | tree⟩ <;> rfl
  | setLevel changed => rfl
  | log call =>
    cases call with
    | write entry => exact congrArg (Reply.mk · _) (Journal.record_eq_upTo_debug level entry)
    | setLevel changed => rfl

end Step

/-- The level only filters. At any two levels a text has the same tree, whatever is then done
with it, or fails in the same way, and a step has the same answer or the same trouble. What
it writes at a level are, in order, those of the entries written with all details that the
level shows: a part of what it writes at a higher level, and at the silent level nothing. -/
theorem level_filters (reader : Reader) (level level' : LogLevel) :
    (∀ text, (reader.derive level text).outcome = (reader.derive level' text).outcome) ∧
    ∀ step : Step,
      (step.reply reader level).outcome = (step.reply reader level').outcome ∧
      (step.reply reader level).journal =
        (step.reply reader .debug).journal.filter level.shows ∧
      (level ≤ level' →
        (step.reply reader level).journal.Sublist (step.reply reader level').journal) ∧
      (step.reply reader .silent).journal = [] := by
  constructor
  · intro text
    rw [reader.derive_eq_upTo level, reader.derive_eq_upTo level']
    rfl
  · intro step
    have here := step.reply_eq_upTo reader level
    have there := step.reply_eq_upTo reader level'
    refine ⟨?_, ?_, ?_, ?_⟩
    · rw [here, there]
    · rw [here, Journal.upTo_eq_filter_shows]
    · intro below
      rw [here, there]
      dsimp only
      rw [← Journal.upTo_upTo below]
      exact List.filter_sublist
    · rw [step.reply_eq_upTo reader .silent]
      exact Journal.upTo_silent _

/-- A syntax error behind the count of the tokens, which only the level of all details shows. -/
theorem level_filters_rejection :
    let reply := (Step.read ") T").reply .standard
    let rejected := Entry.rejected ") T" "Syntax error at ')' (type: RPAREN, index: 0) in formula: ) T"
    LogLevel.normal ≤ .debug ∧ (reply .debug).journal = [Reader.tokenCount 2, rejected] ∧
      (reply .normal).journal = [rejected] ∧
      (reply .normal).journal.Sublist (reply .debug).journal := by
  intro reply rejected
  have below : LogLevel.normal ≤ .debug := by decide
  have detailed : (reply .debug).journal = [Reader.tokenCount 2, rejected] := by decide +kernel
  obtain ⟨_, filtered, part, _⟩ := (level_filters .standard .normal .debug).2 (.read ") T")
  refine ⟨below, detailed, ?_, part below⟩
  exact filtered.trans (congrArg (List.filter LogLevel.normal.shows) detailed)

end FirstOrderText
