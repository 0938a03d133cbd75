import FirstOrderText.Conversion
import FirstOrderText.Grammar
import FirstOrderText.Journal
import FirstOrderText.Tree.Rows

/-! Reading a text, and what is reported of one that cannot be read. The stages come in a fixed
order, and the first that fails decides the outcome: the text must not be blank nor too long,
the reader must be built, the text must scan, its tokens must have a tree, and the tree must
convert. Every failure but a breakdown of the parser itself is a verdict in the journal. -/
namespace FirstOrderText

/-! A report is what an error tells about itself, whoever made it. Each kind carries what helps
to find the place: an index, the text, or a node. -/

/-- What an error of each kind tells. -/
inductive Report where
  | general (text : String)
  | grammar (text : String)
  | construction (text : String)
  | lexical (text : String) (index : Option Int)
  | rejection (text : String) (source : Option String) (index : Option Int)
  | conversion (problem label context : String)
  deriving DecidableEq

/-- The failure that another failure was made from. -/
inductive Cause where
  | lexical
  | overflow
  | construction
  | compilation
  deriving DecidableEq

namespace Report

/-- The text of a report. Only a conversion adds its place to it. -/
def message : Report → String
  | .general text | .grammar text | .construction text | .lexical text _ | .rejection text _ _ =>
    text
  | .conversion problem label context => conversionMessage problem label context

/-- The report of a grammar that cannot be compiled. -/
def uncompiled (reason : String) : Report :=
  .grammar ("Couldn't compile grammar: " ++ reason)

/-- The report of a reader that cannot be put together. -/
def unbuilt (reason : String) : Report :=
  .construction ("Couldn't build parser: " ++ reason)

end Report

/-- A lexical fault lies at an index. -/
def LexicalFault.report (fault : LexicalFault) : Report :=
  .lexical fault.message (some fault.index)

/-- A token list is turned down with the text that it came from. -/
def SyntaxFault.report (source : String) (fault : SyntaxFault) : Report :=
  .rejection (fault.message source) (some source) fault.index?

/-- A conversion fault lies at a node. -/
def ConversionFault.report (fault : ConversionFault) : Report :=
  .conversion fault.problem.message fault.label fault.context

/-- A conversion that the nesting limit stopped was caused by it. -/
def ConversionFault.cause? (fault : ConversionFault) : Option Cause :=
  if fault.problem = .tooDeep then some .overflow else none

/-- Why a text was turned down. The last is a parser's own report. -/
inductive Rejection where
  | blank
  | tooLong (length : Nat) (limit : Int)
  | lexical (fault : LexicalFault)
  | ungrammatical (fault : SyntaxFault)
  | underivable
  | reported (message : String) (source : Option String) (index : Option Int)
  deriving DecidableEq

namespace Rejection

/-- The reason given for turning a text down. -/
def message (source : String) : Rejection → String
  | .blank => "Syntax error: empty formula"
  | .tooLong length limit =>
    "Formula length " ++ toString length ++ " exceeds limit of " ++ toString limit
  | .lexical fault => fault.message ++ " in formula: " ++ source
  | .ungrammatical fault => fault.message source
  | .underivable => "Grammar could not parse input: " ++ source
  | .reported message _ _ => message

/-- The text that a rejection is about. -/
def source? (source : String) : Rejection → Option String
  | .reported _ source' _ => source'
  | _ => some source

/-- Where the fault lies, if it lies at one place. -/
def index? : Rejection → Option Int
  | .lexical fault => some fault.index
  | .ungrammatical fault => fault.index?
  | .reported _ _ index => index
  | .blank | .tooLong _ _ | .underivable => none

/-- A rejection for a lexical fault was made from it. -/
def cause? : Rejection → Option Cause
  | .lexical _ => some .lexical
  | _ => none

/-- The report of turning a text down. -/
def report (source : String) (rejection : Rejection) : Report :=
  .rejection (rejection.message source) (rejection.source? source) rejection.index?

end Rejection

/-- Why no formula was read. -/
inductive Failure where
  | unbuilt (reason : String)
  | rejected (rejection : Rejection)
  | broken (message : String)
  | unconverted (fault : ConversionFault)
  deriving DecidableEq

/-- What a parser makes of a token list. -/
inductive Parsed where
  | tree (tree : Tree)
  | nothing
  | rejected (rejection : Rejection)
  | broken (message : String)

/-- What is raised on a failure. A breakdown of the parser is passed on as it came. -/
inductive Raised where
  | reported (report : Report) (cause : Option Cause)
  | passedOn (message : String)
  deriving DecidableEq

/-- What is raised on a failure to read a text. -/
def Failure.raised (source : String) : Failure → Raised
  | .unbuilt reason => .reported (.unbuilt reason) (some .construction)
  | .rejected rejection => .reported (rejection.report source) rejection.cause?
  | .broken message => .passedOn message
  | .unconverted fault => .reported fault.report fault.cause?

/-- What turns tokens into trees. For each text a scanner and then a parser is built,
and either may fail to be, with a reason. -/
structure Engine where
  scanner : Except String Unit
  parser : Except String Unit
  parse : String → List Token → Parsed

namespace Engine

/-- Building the scanner and the parser, up to the first that fails. -/
def build (engine : Engine) : Except String Unit :=
  match engine.scanner with
  | .error reason => .error reason
  | .ok () => engine.parser

/-- The engine of the grammar of formulas, which is always built and always gives
a tree or a rejection. -/
def standard : Engine where
  scanner := .ok ()
  parser := .ok ()
  parse _ tokens :=
    match Grammar.derive tokens with
    | .ok tree => .tree tree
    | .error fault => .rejected (.ungrammatical fault)

/-- An engine whose scanner cannot be built. -/
def scannerless (reason : String) : Engine where
  scanner := .error reason
  parser := .ok ()
  parse _ _ := .nothing

/-- An engine whose parser cannot be built. -/
def unbuildable (reason : String) : Engine where
  scanner := .ok ()
  parser := .error reason
  parse _ _ := .nothing

/-- An engine with one answer to all tokens. -/
def constantly (answer : Parsed) : Engine where
  scanner := .ok ()
  parser := .ok ()
  parse _ _ := answer

end Engine

/-- The outcome of a stage, and what was written before it was reached. -/
structure Logged (α : Type) where
  journal : Journal
  outcome : Except Failure α

/-- An engine, and the greatest length of the texts that it is given. -/
structure Reader where
  engine : Engine
  limit : Option Int

namespace Reader

/-- The reader of formulas of any length. -/
def standard : Reader := ⟨.standard, none⟩

/-- Turns a text down, and records that. -/
def reject (level : LogLevel) (text : String) (journal : Journal) (rejection : Rejection) :
    Logged Tree :=
  ⟨journal ++ Journal.record level (.rejected text (rejection.message text)),
    .error (.rejected rejection)⟩

/-- The limit, if the text is longer than that. -/
def exceededLimit? (reader : Reader) (text : String) : Option Int :=
  reader.limit.filter fun limit => limit < text.length

/-- The number of tokens, as it is recorded before they are parsed. -/
def tokenCount (count : Nat) : Entry :=
  .debug "Tokenized formula" [("tokens", .number count)]

/-- The depth of a tree, which is measured only where it is recorded. -/
def recordDepth (level : LogLevel) (tree : Tree) : Journal :=
  if LogLevel.debug ≤ level then
    Journal.record level (.statistics [("tree_depth", .number tree.depth)])
  else []

/-- The tree of a text. -/
def derive (reader : Reader) (level : LogLevel) (text : String) : Logged Tree :=
  if isBlank text then reject level text [] .blank
  else
    match reader.exceededLimit? text with
    | some limit => reject level text [] (.tooLong text.length limit)
    | none =>
      match reader.engine.build with
      | .error reason => ⟨[], .error (.unbuilt reason)⟩
      | .ok () =>
        match (Scan.ofText text).result with
        | .error fault => reject level text [] (.lexical fault)
        | .ok tokens =>
          let counted := Journal.record level (tokenCount tokens.length)
          match reader.engine.parse text (tokens.map PlacedToken.toToken) with
          | .rejected rejection => reject level text counted rejection
          | .broken message => ⟨counted, .error (.broken message)⟩
          | .nothing => reject level text counted .underivable
          | .tree tree => ⟨counted ++ recordDepth level tree, .ok tree⟩

/-- The formula of a text. -/
def read (reader : Reader) (level : LogLevel) (text : String) : Logged Formula :=
  match reader.derive level text with
  | ⟨journal, .error failure⟩ => ⟨journal, .error failure⟩
  | ⟨journal, .ok tree⟩ =>
    match tree.convert with
    | .ok formula => ⟨journal ++ Journal.record level (.accepted text), .ok formula⟩
    | .error fault =>
      ⟨journal ++ Journal.record level (.unconverted text fault.message),
        .error (.unconverted fault)⟩

end Reader

/-- The formula of a text, read by the standard reader without a journal. -/
def Formula.parse (text : String) : Except Failure Formula :=
  (Reader.standard.read .silent text).outcome

end FirstOrderText
