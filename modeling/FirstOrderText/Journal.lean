import FirstOrderText.Text.Case

/-! The journal of a reader. An entry has a threshold, and a journal at a given
level keeps the entries whose threshold the level reaches, so a level filters
what is written and never changes it. -/
namespace FirstOrderText

/-- How much is written, in ascending order. -/
inductive LogLevel where
  | silent
  | normal
  | verbose
  | debug
  deriving DecidableEq, Repr

namespace LogLevel

/-- The rank of a level. -/
def rank : LogLevel → Nat
  | .silent => 0
  | .normal => 1
  | .verbose => 2
  | .debug => 3

instance : LE LogLevel := ⟨fun a b => a.rank ≤ b.rank⟩

instance (a b : LogLevel) : Decidable (a ≤ b) :=
  inferInstanceAs (Decidable (a.rank ≤ b.rank))

/-- The level of a journal for which none is chosen. -/
def standard : LogLevel := .normal

end LogLevel

/-- A value written beside a key. -/
inductive FieldValue where
  | number (value : Int)
  | text (value : String)
  | flag (value : Bool)
  | absent
  deriving DecidableEq

/-- The text of a value. Text is written as it is, without quotes. -/
def FieldValue.display : FieldValue → String
  | .number value => toString value
  | .text value => value
  | .flag true => "True"
  | .flag false => "False"
  | .absent => "None"

/-- Keys with their values, in the order of their first appearance. -/
abbrev Fields := List (String × FieldValue)

namespace Fields

/-- Gives a key a value. A key that is already there keeps its place. -/
def put (fields : Fields) (key : String) (value : FieldValue) : Fields :=
  if fields.any fun field => field.1 == key then
    fields.map fun field => if field.1 == key then (key, value) else field
  else fields ++ [(key, value)]

/-- The fields of a list of pairs, in which a key may be repeated. -/
def ofPairs (pairs : List (String × FieldValue)) : Fields :=
  pairs.foldl (fun fields pair => fields.put pair.1 pair.2) []

end Fields

/-- What a journal can record. The last three are the verdicts on a text. -/
inductive Entry where
  | debug (message : String) (fields : Fields)
  | info (message : String) (fields : Fields)
  | statistics (fields : Fields)
  | accepted (text : String)
  | rejected (text reason : String)
  | unconverted (text reason : String)
  deriving DecidableEq

namespace Entry

/-- The lowest level at which an entry is written. -/
def threshold : Entry → LogLevel
  | .debug _ _ | .statistics _ => .debug
  | .info _ _ | .accepted _ => .verbose
  | .rejected _ _ | .unconverted _ _ => .normal

/-- A key and its value on a line of their own. -/
def fieldLine (field : String × FieldValue) : String :=
  "  " ++ field.1 ++ ": " ++ field.2.display

/-- The lines of an entry. Text that spans lines is written as it is. -/
def lines : Entry → List String
  | .debug message fields => ("[DEBUG] " ++ message) :: fields.map fieldLine
  | .info message fields => ("[INFO] " ++ message) :: fields.map fieldLine
  | .statistics fields =>
    "=== Parse Statistics ===" :: fields.map fun field => fieldLine (titleLabel field.1, field.2)
  | .accepted text => ["ACCEPTED: " ++ text]
  | .rejected text reason => ["REJECTED: " ++ text, "  reason: " ++ reason]
  | .unconverted text reason => ["CONVERSION FAILED: " ++ text, "  reason: " ++ reason]

/-- Whether an entry is a verdict on a text. -/
def isVerdict : Entry → Bool
  | .accepted _ | .rejected _ _ | .unconverted _ _ => true
  | _ => false

end Entry

/-- The entries written, in order. -/
abbrev Journal := List Entry

namespace Journal

/-- What is written when an entry is recorded at a level. -/
def record (level : LogLevel) (entry : Entry) : Journal :=
  if entry.threshold ≤ level then [entry] else []

/-- The entries that a level keeps. -/
def upTo (level : LogLevel) (journal : Journal) : Journal :=
  journal.filter fun entry => entry.threshold ≤ level

/-- The text of a journal: every line of every entry, each ended by a newline. -/
def text (journal : Journal) : String :=
  String.join ((journal.flatMap Entry.lines).map (· ++ "\n"))

theorem record_eq_upTo (level : LogLevel) (entry : Entry) :
    record level entry = upTo level [entry] := by
  simp [record, upTo, List.filter_cons]

/-- At the level of all details every entry is written. -/
theorem record_debug (entry : Entry) : record .debug entry = [entry] := by
  cases entry <;> rfl

theorem upTo_append (level : LogLevel) (front back : Journal) :
    upTo level (front ++ back) = upTo level front ++ upTo level back :=
  List.filter_append ..

end Journal

/-- What is asked of a journal: to record an entry, or to change its level. -/
inductive JournalCall where
  | write (entry : Entry)
  | setLevel (level : LogLevel)
  deriving DecidableEq

namespace JournalCall

/-- The level after a call. -/
def levelAfter (level : LogLevel) : JournalCall → LogLevel
  | .write _ => level
  | .setLevel changed => changed

/-- What a call writes. -/
def written (level : LogLevel) : JournalCall → Journal
  | .write entry => Journal.record level entry
  | .setLevel _ => []

/-- What each of a sequence of calls writes, and the level after the last. -/
def runAll (level : LogLevel) : List JournalCall → List Journal × LogLevel
  | [] => ([], level)
  | call :: rest =>
    let (journals, final) := runAll (call.levelAfter level) rest
    (call.written level :: journals, final)

end JournalCall

end FirstOrderText
