import FirstOrderText.Reader

/-! The stages of reading, each judged by itself. Whether a text fails at a stage, and
with what, does not look at the stages before; a stage that works on what an earlier one
made does not fail where there is nothing to work on. -/
namespace FirstOrderText

/-- The stages of reading a text. -/
inductive Stage where
  | presence
  | length
  | construction
  | scanning
  | parsing
  | derivation
  | conversion
  deriving DecidableEq, Repr

/-- The stages up to a tree, in their order. -/
def Stage.toTree : List Stage :=
  [.presence, .length, .construction, .scanning, .parsing, .derivation]

/-- All stages, in their order. -/
def Stage.order : List Stage :=
  toTree ++ [.conversion]

namespace Reader

/-- What the parser makes of the tokens of a text, if the text scans. -/
def parsed? (reader : Reader) (text : String) : Option Parsed :=
  match (Scan.ofText text).fault with
  | some _ => none
  | none => some (reader.engine.parse text ((Scan.ofText text).tokens.map PlacedToken.toToken))

/-- What is raised because a text fails at a stage, if it does. -/
def raisedAt (reader : Reader) (text : String) : Stage → Option Raised
  | .presence =>
    if text.toList.all isBlankChar then
      some (.reported (.rejection "Syntax error: empty formula" (some text) none) none)
    else none
  | .length =>
    match reader.limit with
    | none => none
    | some limit =>
      if limit < text.length then
        some (.reported (.rejection ("Formula length " ++ toString text.length ++
          " exceeds limit of " ++ toString limit) (some text) none) none)
      else none
  | .construction =>
    match reader.engine.scanner, reader.engine.parser with
    | .error reason, _ | .ok (), .error reason =>
      some (.reported (.construction ("Couldn't build parser: " ++ reason)) (some .construction))
    | .ok (), .ok () => none
  | .scanning =>
    match (Scan.ofText text).fault with
    | none => none
    | some fault =>
      some (.reported (.rejection (fault.message ++ " in formula: " ++ text) (some text)
        (some fault.index)) (some .lexical))
  | .parsing =>
    match reader.parsed? text with
    | some (.rejected rejection) => some (.reported (rejection.report text) rejection.cause?)
    | some (.broken message) => some (.passedOn message)
    | _ => none
  | .derivation =>
    match reader.parsed? text with
    | some .nothing =>
      some (.reported (.rejection ("Grammar could not parse input: " ++ text) (some text) none) none)
    | _ => none
  | .conversion =>
    match reader.parsed? text with
    | some (.tree tree) =>
      match tree.convert with
      | .error fault => some (.reported fault.report fault.cause?)
      | .ok _ => none
    | _ => none

/-- What reading a text comes to, as seen from outside. -/
def outcome (reader : Reader) (level : LogLevel) (text : String) : Except Raised Formula :=
  (reader.read level text).outcome.mapError (Failure.raised text)

end Reader

/-- The verdicts on a text that go with what reading it comes to. Where the reader could
not be built or its parser broke down there is no verdict. -/
def verdicts (text : String) : Except Raised Formula → Journal
  | .ok _ => [.accepted text]
  | .error (.reported (.rejection message _ _) _) => [.rejected text message]
  | .error (.reported (.conversion problem label context) _) =>
    [.unconverted text (conversionMessage problem label context)]
  | .error _ => []

end FirstOrderText
