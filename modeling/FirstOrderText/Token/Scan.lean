import FirstOrderText.Token

/-! Scanning a text into placed tokens. What stands at the head of a text is read
by the longest match; a scan skips layout, counts lines at newlines, and ends at
the end of the text or at the first place where no lexeme stands. -/
namespace FirstOrderText

/-- Why a scan stopped early. A word that is not reserved is faulted as a whole,
any other text at its first character. -/
inductive LexicalFault where
  | unknownWord (word : String) (index : Int)
  | invalidCharacter (char : Char) (index : Int)
  deriving DecidableEq

namespace LexicalFault

/-- Where the faulted word or character begins. -/
def index : LexicalFault → Int
  | .unknownWord _ index => index
  | .invalidCharacter _ index => index

/-- The report of a fault. -/
def message : LexicalFault → String
  | .unknownWord word index => "Unknown word '" ++ word ++ "' at index " ++ toString index
  | .invalidCharacter char index =>
      "Invalid character '" ++ String.singleton char ++ "' at index " ++ toString index

end LexicalFault

/-- Layout within a line, which only separates lexemes. -/
def isLineSpace (c : Char) : Bool :=
  c == ' ' || c == '\t' || c == '\r'

/-- A word begins with an ASCII letter. -/
def isWordStart (c : Char) : Bool :=
  c.isAlpha

/-- A word goes on with ASCII letters and digits. -/
def isWordPart (c : Char) : Bool :=
  c.isAlphanum

/-- A character that may stand inside a quoted name. -/
def isQuotable (c : Char) : Bool :=
  c != '\x22' && c != '\n'

/-- A quoted lexeme is well formed when it holds neither a quote nor a newline. -/
def Lexeme.WellFormed : Lexeme → Prop
  | .quoted content => ∀ c ∈ content, isQuotable c = true
  | _ => True

/-- What stands at the head of a text. -/
inductive Head where
  | lexeme (found : Lexeme)
  | newline
  | unknownWord (word : List Char)
  | nothing
  deriving DecidableEq

namespace Head

/-- The content of a quoted name, read from behind its opening quote. It is
closed by the next quote, unless a newline or the end of the text comes first. -/
def quotedContent? (rest : List Char) : Option (List Char) :=
  match rest.dropWhile isQuotable with
  | c :: _ => if c = '\x22' then some (rest.takeWhile isQuotable) else none
  | [] => none

/-- The longest match at the head of a text. -/
def read : List Char → Head
  | [] => .nothing
  | c :: rest =>
    if c = '\n' then .newline
    else if c = '\x22' then
      match quotedContent? rest with
      | some content => .lexeme (.quoted content)
      | none => .nothing
    else if isWordStart c then
      let word := c :: rest.takeWhile isWordPart
      match Keyword.ofSpelling? (String.ofList word) with
      | some keyword => .lexeme (.keyword keyword)
      | none => .unknownWord word
    else
      match Delimiter.ofChar? c with
      | some mark => .lexeme (.delimiter mark)
      | none => .nothing

end Head

/-- A lexeme placed on a line at an index. -/
def Lexeme.place (lexeme : Lexeme) (line index : Int) : PlacedToken where
  kind := lexeme.terminal.label
  value := lexeme.text
  index := index
  line := line
  stop := index + lexeme.width

/-- The tokens read, the fault that ended the scan, if any, and the line and
index where the scan stopped. -/
structure Scan where
  tokens : List PlacedToken
  fault : Option LexicalFault
  line : Int
  index : Int
  deriving DecidableEq

namespace Scan

/-- A scan that reads one more token before another scan. -/
def cons (token : PlacedToken) (scan : Scan) : Scan :=
  { scan with tokens := token :: scan.tokens }

/-- The tokens of a scan that reached its end, or its fault. -/
def result (scan : Scan) : Except LexicalFault (List PlacedToken) :=
  match scan.fault with
  | some fault => .error fault
  | none => .ok scan.tokens

/-- A scan of the remaining characters, which begin on a line at an index. An
unknown word is passed over before the scan stops, a character is not. -/
def remaining (line index : Int) (chars : List Char) : Scan :=
  match chars with
  | [] => ⟨[], none, line, index⟩
  | c :: rest =>
    if isLineSpace c then remaining line (index + 1) rest
    else
      match Head.read (c :: rest) with
      | .lexeme lexeme =>
        (remaining line (index + lexeme.width) ((c :: rest).drop lexeme.width)).cons
          (lexeme.place line index)
      | .newline => remaining (line + 1) (index + 1) rest
      | .unknownWord word =>
        ⟨[], some (.unknownWord (String.ofList word) index), line, index + word.length⟩
      | .nothing => ⟨[], some (.invalidCharacter c index), line, index⟩
termination_by chars.length
decreasing_by
  · simp
  · have := lexeme.width_pos
    simp only [List.length_drop, List.length_cons]
    omega
  · simp

/-- A scan whose start lies before the text. The start counts backwards from the
end as far as layout goes, but the lexeme met there is read at the head of the
text, and scanning goes on behind that lexeme. -/
def backwards (line start : Int) (chars : List Char) : Scan :=
  let tail := chars.drop (chars.length + start).toNat
  match tail.dropWhile isLineSpace with
  | [] => remaining line 0 chars
  | c :: after =>
    let index := -(after.length + 1 : Int)
    match Head.read chars with
    | .lexeme lexeme =>
      (remaining line lexeme.width (chars.drop lexeme.width)).cons
        { lexeme.place line index with stop := lexeme.width }
    | .newline => remaining (line + 1) 1 (chars.drop 1)
    | .unknownWord word =>
      ⟨[], some (.unknownWord (String.ofList word) index), line, word.length⟩
    | .nothing => ⟨[], some (.invalidCharacter c index), line, index⟩

/-- A scan of a text from a start index, counting lines from a given one. A
start at or behind the end reads nothing, as does one further before the text
than the text is long. -/
def run (text : String) (line start : Int) : Scan :=
  let chars := text.toList
  if 0 ≤ start then remaining line start (chars.drop start.toNat)
  else if start + chars.length < 0 then ⟨[], none, line, start⟩
  else backwards line start chars

/-- A scan of a whole text. -/
def ofText (text : String) : Scan :=
  run text 1 0

end Scan

/-! Writing lexemes into a text with layout around them. Only two adjacent reserved
words need layout between them, because only they could run into one word. -/

/-- The characters that separate lexemes and mean nothing else. -/
def isLayout (c : Char) : Bool :=
  isLineSpace c || c == '\n'

/-- Lexemes, each with the layout before it. -/
abbrev Layout := List (List Char × Lexeme)

namespace Layout

/-- The characters of the lexemes in their layout, with more layout behind. -/
def chars : Layout → List Char → List Char
  | [], after => after
  | (before, lexeme) :: rest, after => before ++ (lexeme.chars ++ chars rest after)

/-- Whether a lexeme is a reserved word. -/
def isWord : Lexeme → Bool
  | .keyword _ => true
  | _ => false

/-- Whether every gap is layout, and no reserved word touches another. The flag
tells whether a reserved word stands right before. -/
def AdmissibleAfter : Bool → Layout → Prop
  | _, [] => True
  | afterWord, (before, lexeme) :: rest =>
    before.all isLayout = true ∧ lexeme.WellFormed ∧
      (afterWord = true → isWord lexeme = true → before ≠ []) ∧
      AdmissibleAfter (isWord lexeme) rest

/-- A layout that can be read back. -/
def Admissible (layout : Layout) : Prop :=
  AdmissibleAfter false layout

/-- The number of newlines among some characters. -/
def newlines (chars : List Char) : Nat :=
  chars.count '\n'

/-- Where each lexeme of a layout stands, from a line and an index on. -/
def placed (line index : Int) : Layout → List PlacedToken
  | [] => []
  | (before, lexeme) :: rest =>
    let line := line + newlines before
    let index := index + before.length
    lexeme.place line index :: placed line (index + lexeme.width) rest

end Layout

end FirstOrderText
