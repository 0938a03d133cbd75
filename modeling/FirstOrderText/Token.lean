/-! The terminals of the formula language: eleven keywords, five delimiters and
quoted names. Every lexeme has one spelling and one terminal, and a token only
carries the label of its kind, so that a token list may also be made by hand. -/
namespace FirstOrderText

/-- The connectives that join two formulas. -/
inductive Connective where
  | conjunction
  | disjunction
  | implication
  deriving DecidableEq, Repr

/-- The quantifiers, each of which binds one variable in one formula. -/
inductive Quantifier where
  | existential
  | universal
  deriving DecidableEq, Repr

/-- The reserved words. A truth constant is a word for the Boolean it denotes. -/
inductive Keyword where
  | constant (value : Bool)
  | relation
  | variableName
  | application
  | negation
  | connective (op : Connective)
  | quantifier (binder : Quantifier)
  deriving DecidableEq, Repr

namespace Keyword

/-- The spelling of a reserved word; case matters. -/
def spelling : Keyword → String
  | .constant true => "T"
  | .constant false => "F"
  | .relation => "Rel"
  | .variableName => "Var"
  | .application => "Fun"
  | .negation => "Not"
  | .connective .conjunction => "And"
  | .connective .disjunction => "Or"
  | .connective .implication => "Implies"
  | .quantifier .existential => "Exists"
  | .quantifier .universal => "Forall"

/-- The label under which a reserved word is a token and a leaf. -/
def label : Keyword → String
  | .constant true => "TRUE"
  | .constant false => "FALSE"
  | .relation => "REL"
  | .variableName => "VAR"
  | .application => "FUN"
  | .negation => "NOT"
  | .connective .conjunction => "AND"
  | .connective .disjunction => "OR"
  | .connective .implication => "IMPLIES"
  | .quantifier .existential => "EXISTS"
  | .quantifier .universal => "FORALL"

/-- Every reserved word once. -/
def all : List Keyword :=
  [.constant true, .constant false, .relation, .variableName, .application, .negation,
    .connective .conjunction, .connective .disjunction, .connective .implication,
    .quantifier .existential, .quantifier .universal]

/-- The reserved word of a spelling, if it has one. -/
def ofSpelling? (word : String) : Option Keyword :=
  all.find? (fun keyword => keyword.spelling == word)

theorem mem_all (keyword : Keyword) : keyword ∈ all := by
  rcases keyword with (_ | _) | _ | _ | _ | _ | (_ | _ | _) | (_ | _) <;> decide

/-- A word is reserved exactly when it is the spelling of the keyword found. -/
theorem ofSpelling?_eq_some_iff {word : String} {keyword : Keyword} :
    ofSpelling? word = some keyword ↔ keyword.spelling = word := by
  constructor
  · intro found
    exact beq_iff_eq.mp (List.find?_some (p := fun k : Keyword => k.spelling == word) found)
  · intro spelled
    subst spelled
    rcases keyword with (_ | _) | _ | _ | _ | _ | (_ | _ | _) | (_ | _) <;> decide

end Keyword

/-- The single-character lexemes around sub-formulas and between arguments. -/
inductive Delimiter where
  | openParen
  | closeParen
  | openBracket
  | closeBracket
  | comma
  deriving DecidableEq, Repr

namespace Delimiter

/-- The character of a delimiter. -/
def char : Delimiter → Char
  | .openParen => '('
  | .closeParen => ')'
  | .openBracket => '['
  | .closeBracket => ']'
  | .comma => ','

/-- The label under which a delimiter is a token and a leaf. -/
def label : Delimiter → String
  | .openParen => "LPAREN"
  | .closeParen => "RPAREN"
  | .openBracket => "LBRACKET"
  | .closeBracket => "RBRACKET"
  | .comma => "COMMA"

/-- The delimiter that a character is, if it is one. -/
def ofChar? (c : Char) : Option Delimiter :=
  [Delimiter.openParen, .closeParen, .openBracket, .closeBracket, .comma].find?
    (fun delimiter => delimiter.char == c)

theorem ofChar?_eq_some_iff {c : Char} {delimiter : Delimiter} :
    ofChar? c = some delimiter ↔ delimiter.char = c := by
  constructor
  · intro found
    exact beq_iff_eq.mp (List.find?_some (p := fun d : Delimiter => d.char == c) found)
  · intro written
    subst written
    cases delimiter <;> decide

end Delimiter

/-- The kinds of token that the grammar knows. -/
inductive Terminal where
  | keyword (word : Keyword)
  | delimiter (mark : Delimiter)
  | name
  deriving DecidableEq, Repr

namespace Terminal

/-- The label of a terminal; a quoted name is a `STRING`. -/
def label : Terminal → String
  | .keyword word => word.label
  | .delimiter mark => mark.label
  | .name => "STRING"

/-- Every terminal once. -/
def all : List Terminal :=
  Keyword.all.map .keyword ++
    [.delimiter .openParen, .delimiter .closeParen, .delimiter .openBracket,
      .delimiter .closeBracket, .delimiter .comma, .name]

theorem mem_all (terminal : Terminal) : terminal ∈ all := by
  rcases terminal with word | mark | _
  · simp [all, Keyword.mem_all word]
  · cases mark <;> decide
  · decide

theorem label_injective {a b : Terminal} (same : a.label = b.label) : a = b :=
  (by decide : ∀ a ∈ all, ∀ b ∈ all, a.label = b.label → a = b) a (mem_all a) b (mem_all b) same

end Terminal

/-- A piece of text with a meaning: a reserved word, a delimiter, or a quoted
name, given without its quotes. -/
inductive Lexeme where
  | keyword (word : Keyword)
  | delimiter (mark : Delimiter)
  | quoted (content : List Char)
  deriving DecidableEq

namespace Lexeme

/-- The terminal that a lexeme is an instance of. -/
def terminal : Lexeme → Terminal
  | .keyword word => .keyword word
  | .delimiter mark => .delimiter mark
  | .quoted _ => .name

/-- The characters of a lexeme as they stand in a text, quotes included. -/
def chars : Lexeme → List Char
  | .keyword word => word.spelling.toList
  | .delimiter mark => [mark.char]
  | .quoted content => '\x22' :: (content ++ ['\x22'])

/-- A lexeme as text. -/
def text (lexeme : Lexeme) : String :=
  String.ofList lexeme.chars

/-- How many characters a lexeme takes up. -/
def width (lexeme : Lexeme) : Nat :=
  lexeme.chars.length

theorem width_pos (lexeme : Lexeme) : 0 < lexeme.width := by
  rcases lexeme with word | mark | content
  · rcases word with (_ | _) | _ | _ | _ | _ | (_ | _ | _) | (_ | _) <;> decide
  · simp [width, chars]
  · simp [width, chars]

end Lexeme

/-- What the grammar reads: the label of a kind, the text matched, and the
place where it begins. Kind and text of a token made by hand need not agree. -/
structure Token where
  kind : String
  value : String
  index : Int
  deriving DecidableEq

/-- A token together with the line on which it begins and the place behind its
last character. -/
structure PlacedToken extends Token where
  line : Int
  stop : Int
  deriving DecidableEq

end FirstOrderText
