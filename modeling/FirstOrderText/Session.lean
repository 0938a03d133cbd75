import FirstOrderText.Reader

/-! A session: a reader and a journal used step by step. What a step answers and
writes depends on the step and on the level in force, and the level is all that a
step can leave behind. -/
namespace FirstOrderText

/-- What is asked of a tree while it is at hand. The last refuses it. -/
inductive Inspection where
  | label
  | depth
  | childLabels
  | walk
  | size
  | build
  | refuse
  deriving DecidableEq

/-- What a step answers. -/
inductive Answer where
  | text (value : String)
  | texts (values : List String)
  | number (value : Nat)
  | formula (value : Formula)
  | nothing

/-- Why a step has no answer: the text was not read, the tree at hand did not
convert, or it was refused by its label. -/
inductive Trouble where
  | reading (failure : Failure)
  | converting (obstacle : Obstacle)
  | refused (label : String)
  deriving DecidableEq

/-- What an inspection finds in a tree. -/
def Inspection.find (tree : Tree) : Inspection → Except Trouble Answer
  | .label => .ok (.text tree.label)
  | .depth => .ok (.number tree.depth)
  | .childLabels => .ok (.texts tree.childLabels)
  | .walk => .ok (.texts tree.walkLabels)
  | .size => .ok (.number tree.walk.length)
  | .build =>
    match tree.toFormula with
    | .ok formula => .ok (.formula formula)
    | .error obstacle => .error (.converting obstacle)
  | .refuse => .error (.refused tree.label)

/-- What can be done in a session. -/
inductive Step where
  | read (text : String)
  | inspect (text : String) (inspection : Inspection)
  | setLevel (level : LogLevel)
  | log (call : JournalCall)

/-- The answer of a step, and what it wrote. -/
structure Reply where
  journal : Journal
  outcome : Except Trouble Answer

namespace Step

/-- The level after a step. -/
def levelAfter (level : LogLevel) : Step → LogLevel
  | .read _ | .inspect _ _ => level
  | .setLevel changed => changed
  | .log call => call.levelAfter level

/-- The reply to a step at a level. -/
def reply (reader : Reader) (level : LogLevel) : Step → Reply
  | .read text =>
    match reader.read level text with
    | ⟨journal, .ok formula⟩ => ⟨journal, .ok (.formula formula)⟩
    | ⟨journal, .error failure⟩ => ⟨journal, .error (.reading failure)⟩
  | .inspect text inspection =>
    match reader.derive level text with
    | ⟨journal, .ok tree⟩ => ⟨journal, inspection.find tree⟩
    | ⟨journal, .error failure⟩ => ⟨journal, .error (.reading failure)⟩
  | .setLevel changed => ⟨[], .ok (.number changed.rank)⟩
  | .log call => ⟨call.written level, .ok .nothing⟩

end Step

/-- A session under way: its reader, the level in force, and what the stream behind the
journal has received. -/
structure Session where
  reader : Reader
  level : LogLevel
  received : String

namespace Session

/-- What is written when a session begins. A reader that is not given a grammar
compiles the shared one, and says so. -/
def opening (level : LogLevel) (grammarGiven : Bool) : Journal :=
  if grammarGiven then []
  else Journal.record level (.info "Grammar ready" [("parser", .text "_FormulaGrammar")])

/-- A session at its beginning. -/
def begun (reader : Reader) (level : LogLevel) (grammarGiven : Bool) : Session :=
  ⟨reader, level, (opening level grammarGiven).text⟩

/-- The reply to a step, and the session after it. -/
def take (session : Session) (step : Step) : Reply × Session :=
  let reply := step.reply session.reader session.level
  (reply, { session with
    level := step.levelAfter session.level
    received := session.received ++ reply.journal.text })

/-- The replies to steps, in order, and the session after the last. -/
def takeAll (session : Session) : List Step → List Reply × Session
  | [] => ([], session)
  | step :: rest =>
    let (reply, next) := session.take step
    let (replies, ended) := next.takeAll rest
    (reply :: replies, ended)

/-- The replies to the steps of a session that is given its grammar. -/
def run (reader : Reader) (level : LogLevel) (steps : List Step) : List Reply :=
  ((begun reader level true).takeAll steps).1

end Session

end FirstOrderText
