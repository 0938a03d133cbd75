import FirstOrderText.Token
import FirstOrderText.Tree.Printer

/-! The grammar of formulas, as labelled productions:

    formula  ::= "T" | "F" | "Rel" name "[" terms "]" | "Not" group
               | "And" group group | "Or" group group | "Implies" group group
               | "Exists" name group | "Forall" name group
    group    ::= "(" formula ")"
    terms    ::= nothing | termSeq
    termSeq  ::= term | termSeq "," term
    term     ::= "Var" name | "Fun" name "[" terms "]"
    name     ::= STRING

A production with a label leaves a node over its parts; the parts of one without
a label belong to the node above, so a term list is flat and keeps its commas. -/
namespace FirstOrderText

namespace Grammar

/-- The left-hand sides of the grammar. -/
inductive Part where
  | formula
  | group
  | terms
  | termSeq
  | term
  | name
  deriving DecidableEq

/-- What stands on a right-hand side. -/
inductive Symbol where
  | terminal (kind : Terminal)
  | part (part : Part)
  deriving DecidableEq

/-- A right-hand side, with the label of the node that it leaves, if any. -/
structure Production where
  label : Option String
  symbols : List Symbol
  deriving DecidableEq

/-- A reserved word on a right-hand side. -/
def word (keyword : Keyword) : Symbol :=
  .terminal (.keyword keyword)

/-- A delimiter on a right-hand side. -/
def mark (delimiter : Delimiter) : Symbol :=
  .terminal (.delimiter delimiter)

/-- A bracketed term list. -/
def arguments : List Symbol :=
  [mark .openBracket, .part .terms, mark .closeBracket]

/-- The right-hand sides of each part. -/
def productions : Part → List Production
  | .formula =>
    [⟨some "truth", [word (.constant true)]⟩,
     ⟨some "truth", [word (.constant false)]⟩,
     ⟨some "relation", word .relation :: .part .name :: arguments⟩,
     ⟨some "not", [word .negation, .part .group]⟩,
     ⟨some "and", [word (.connective .conjunction), .part .group, .part .group]⟩,
     ⟨some "or", [word (.connective .disjunction), .part .group, .part .group]⟩,
     ⟨some "implies", [word (.connective .implication), .part .group, .part .group]⟩,
     ⟨some "exists", [word (.quantifier .existential), .part .name, .part .group]⟩,
     ⟨some "forall", [word (.quantifier .universal), .part .name, .part .group]⟩]
  | .group => [⟨some "group", [mark .openParen, .part .formula, mark .closeParen]⟩]
  | .terms => [⟨some "terms", []⟩, ⟨some "terms", [.part .termSeq]⟩]
  | .termSeq => [⟨none, [.part .term]⟩, ⟨none, [.part .termSeq, mark .comma, .part .term]⟩]
  | .term =>
    [⟨some "var", [word .variableName, .part .name]⟩,
     ⟨some "fun", word .application :: .part .name :: arguments⟩]
  | .name => [⟨some "name", [.terminal .name]⟩]

/-- The words that a sequence of symbols derives. -/
inductive Derives : List Symbol → List Terminal → Prop where
  | nil : Derives [] []
  | terminal {kind : Terminal} {symbols : List Symbol} {kinds : List Terminal}
      (rest : Derives symbols kinds) : Derives (.terminal kind :: symbols) (kind :: kinds)
  | expand {part : Part} {production : Production} {symbols : List Symbol} {kinds : List Terminal}
      (rule : production ∈ productions part)
      (rest : Derives (production.symbols ++ symbols) kinds) :
      Derives (.part part :: symbols) kinds

/-- A sentence is a list of token labels that a formula derives. -/
def Sentence (labels : List String) : Prop :=
  ∃ kinds, Derives [.part .formula] kinds ∧ labels = kinds.map Terminal.label

/-- A beginning of a sentence, which may be the whole. -/
def Viable (labels : List String) : Prop :=
  ∃ more, Sentence (labels ++ more)

/-- The trees that a sequence of symbols derives, one beside another. A leaf may
carry any text. -/
inductive DerivesTrees : List Symbol → List Tree → Prop where
  | nil : DerivesTrees [] []
  | leaf {kind : Terminal} (text : String) {symbols : List Symbol} {trees : List Tree}
      (rest : DerivesTrees symbols trees) :
      DerivesTrees (.terminal kind :: symbols) (Tree.leaf kind.label text :: trees)
  | node {part : Part} {label : String} {inner symbols : List Symbol} {children trees : List Tree}
      (rule : ⟨some label, inner⟩ ∈ productions part) (below : DerivesTrees inner children)
      (rest : DerivesTrees symbols trees) :
      DerivesTrees (.part part :: symbols) (Tree.branch label children :: trees)
  | inline {part : Part} {inner symbols : List Symbol} {trees : List Tree}
      (rule : ⟨none, inner⟩ ∈ productions part) (rest : DerivesTrees (inner ++ symbols) trees) :
      DerivesTrees (.part part :: symbols) trees

/-- A derivation tree of a formula. -/
def IsDerivation (tree : Tree) : Prop :=
  DerivesTrees [.part .formula] [tree]

end Grammar

/-! Deriving the tree of a token list. A stack of goals says what the rest of the
list must still be; the first token alone decides how a goal is met, because
every alternative begins with a terminal of its own. The first token that meets
no goal is the first that continues no sentence. -/

/-- Why a token list is no sentence. -/
inductive SyntaxFault where
  | unexpectedToken (token : Token)
  | unexpectedEnd
  deriving DecidableEq

/-- The report of a fault in a text. -/
def SyntaxFault.message (source : String) : SyntaxFault → String
  | .unexpectedToken token =>
    "Syntax error at '" ++ token.value ++ "' (type: " ++ token.kind ++ ", index: " ++
      toString token.index ++ ") in formula: " ++ source
  | .unexpectedEnd => "Syntax error: unexpected end of formula: " ++ source

/-- The index of the token at fault, if there is one. -/
def SyntaxFault.index? : SyntaxFault → Option Int
  | .unexpectedToken token => some token.index
  | .unexpectedEnd => none

namespace Grammar

/-- What must come next. A `tail` is the rest of a term list behind a term, and a
`close` is the end of an open node, which takes no token. -/
inductive Goal where
  | expect (kind : Terminal)
  | formula
  | group
  | terms
  | tail
  | term
  | name
  | close
  deriving DecidableEq

end Grammar

namespace Keyword

/-- The label of the node that begins with a reserved word. -/
def nodeLabel : Keyword → String
  | .constant _ => "truth"
  | .relation => "relation"
  | .variableName => "var"
  | .application => "fun"
  | .negation => "not"
  | .connective .conjunction => "and"
  | .connective .disjunction => "or"
  | .connective .implication => "implies"
  | .quantifier .existential => "exists"
  | .quantifier .universal => "forall"

/-- Whether a reserved word begins a term; the others begin a formula. -/
def beginsTerm : Keyword → Bool
  | .variableName | .application => true
  | _ => false

/-- What must follow a reserved word in its node. -/
def followers : Keyword → List Grammar.Goal
  | .constant _ => []
  | .relation | .application =>
    [.name, .expect (.delimiter .openBracket), .terms, .expect (.delimiter .closeBracket)]
  | .variableName => [.name]
  | .negation => [.group]
  | .connective _ => [.group, .group]
  | .quantifier _ => [.name, .group]

/-- The reserved word of a token label, if it has one. -/
def ofLabel? (label : String) : Option Keyword :=
  all.find? fun keyword => keyword.label == label

theorem ofLabel?_eq_some_iff {label : String} {keyword : Keyword} :
    ofLabel? label = some keyword ↔ keyword.label = label := by
  constructor
  · intro found
    exact beq_iff_eq.mp (List.find?_some (p := fun k : Keyword => k.label == label) found)
  · intro labelled
    subst labelled
    rcases keyword with (_ | _) | _ | _ | _ | _ | (_ | _ | _) | (_ | _) <;> decide

end Keyword

namespace Token

/-- The leaf of a token. -/
def event (token : Token) : Tree.Event :=
  .leaf token.kind token.value

/-- Whether a token is of a kind. -/
def isKind (token : Token) (kind : Terminal) : Bool :=
  token.kind == kind.label

/-- The reserved word with which a token begins a formula. -/
def formulaWord? (token : Token) : Option Keyword :=
  (Keyword.ofLabel? token.kind).filter fun keyword => !keyword.beginsTerm

/-- The reserved word with which a token begins a term. -/
def termWord? (token : Token) : Option Keyword :=
  (Keyword.ofLabel? token.kind).filter Keyword.beginsTerm

/-- A token list ends at its end marker, if it has one. -/
def isEndMarker (token : Token) : Bool :=
  token.kind == "$end"

end Token

namespace Grammar

/-- What a token adds to the outline, and what must come after it. -/
structure Advance where
  events : List Tree.Event
  goals : List Goal

/-- An advance with an earlier part of the outline before it. -/
def Advance.after (events : List Tree.Event) (advance : Advance) : Advance :=
  { advance with events := events ++ advance.events }

/-- A token that is a reserved word opens the node of that word. -/
def openNode (keyword : Keyword) (token : Token) (goals : List Goal) : Advance :=
  ⟨[.opening keyword.nodeLabel, token.event], keyword.followers ++ .close :: goals⟩

/-- Meets the goals with a token, if they can begin with it. Open nodes that are
complete are closed on the way, and term lists that cannot go on are ended. -/
def advance? (token : Token) : List Goal → Option Advance
  | [] => none
  | .close :: goals => (advance? token goals).map (.after [.closing])
  | .expect kind :: goals => if token.isKind kind then some ⟨[token.event], goals⟩ else none
  | .name :: goals =>
    if token.isKind .name then some ⟨[.opening "name", token.event], .close :: goals⟩ else none
  | .group :: goals =>
    if token.isKind (.delimiter .openParen) then
      some ⟨[.opening "group", token.event],
        .formula :: .expect (.delimiter .closeParen) :: .close :: goals⟩
    else none
  | .formula :: goals => token.formulaWord?.map fun keyword => openNode keyword token goals
  | .term :: goals => token.termWord?.map fun keyword => openNode keyword token goals
  | .terms :: goals =>
    match token.termWord? with
    | some keyword =>
      some ((openNode keyword token (.tail :: .close :: goals)).after [.opening "terms"])
    | none => (advance? token goals).map (.after [.opening "terms", .closing])
  | .tail :: goals =>
    if token.isKind (.delimiter .comma) then some ⟨[token.event], .term :: .tail :: goals⟩
    else advance? token goals

/-- The end of the outline where the tokens end, if no goal needs another. -/
def finish? : List Goal → Option (List Tree.Event)
  | [] => some []
  | .close :: goals => (finish? goals).map (.closing :: ·)
  | .terms :: goals => (finish? goals).map ([.opening "terms", .closing] ++ ·)
  | .tail :: goals => finish? goals
  | _ :: _ => none

/-- The outline that meets the goals with the tokens. -/
def outline (goals : List Goal) : List Token → Except SyntaxFault (List Tree.Event)
  | [] =>
    match finish? goals with
    | some events => .ok events
    | none => .error .unexpectedEnd
  | token :: rest =>
    match advance? token goals with
    | some step => (outline step.goals rest).map (step.events ++ ·)
    | none => .error (.unexpectedToken token)

/-- The derivation tree of a token list. The outline that meets one formula is
always that of one tree. -/
def derive (tokens : List Token) : Except SyntaxFault Tree :=
  match outline [.formula] (tokens.takeWhile fun token => !token.isEndMarker) with
  | .error fault => .error fault
  | .ok events =>
    match Tree.ofOutline? events with
    | some tree => .ok tree
    | none => .error .unexpectedEnd

end Grammar

end FirstOrderText
