import FirstOrderText.Proofs.Conversion.Phrase
import FirstOrderText.Proofs.Formula.Subformulas
import FirstOrderText.Proofs.Token.Lexemes
import Mathlib.Data.List.Infix

/-! Names in spellings. The only thing that can be wrong with a lexeme is that what it
quotes is no name, and a formula is well named when nothing is wrong with any lexeme
of its spelling. -/
namespace FirstOrderText

/-- What a lexeme quotes is a name. -/
def Lexeme.Named : Lexeme → Prop
  | .quoted content => isName content = true
  | _ => True

@[simp] theorem named_keyword (keyword : Keyword) : (Lexeme.keyword keyword).Named := trivial

@[simp] theorem named_delimiter (delimiter : Delimiter) : (Lexeme.delimiter delimiter).Named :=
  trivial

@[simp] theorem named_nameLexeme (name : String) :
    (nameLexeme name).Named ↔ isName name.toList = true := Iff.rfl

theorem unquote?_text_quoted (content : List Char) :
    unquote? (Lexeme.quoted content).text.toList = some content := by
  rw [unquote?_eq_some_iff, Lexeme.text, String.toList_ofList]
  rfl

theorem written_nameLexeme (name : String) :
    (nameLexeme name).written = ("STRING", "\"" ++ name ++ "\"") := by
  have unquoted := unquote?_text_quoted name.toList
  rw [unquote?_toList_eq_some_iff, String.ofList_toList] at unquoted
  rw [Lexeme.written, nameLexeme, unquoted]
  rfl

/-- The text of a lexeme goes with its kind, but for what stands in quotes. -/
theorem proper_iff_named {token : Token} {lexeme : Lexeme}
    (written : token.written = lexeme.written) : token.Proper ↔ lexeme.Named := by
  have kind : token.kind = lexeme.terminal.label := congrArg Prod.fst written
  have value : token.value = lexeme.text := congrArg Prod.snd written
  rw [Token.Proper, kind, value]
  cases lexeme with
  | keyword word =>
    rcases word with (_ | _) | _ | _ | _ | _ | (_ | _ | _) | (_ | _) <;>
      simp [Lexeme.terminal, Terminal.label, Keyword.label, Lexeme.text, Lexeme.chars,
        Keyword.spelling]
  | delimiter mark => cases mark <;> simp [Lexeme.terminal, Terminal.label, Delimiter.label]
  | quoted content =>
    have unquoted := unquote?_text_quoted content
    constructor
    · rintro ⟨_, _, named⟩
      obtain ⟨name, proper, same⟩ := named rfl
      have again : unquote? (Lexeme.quoted content).text.toList = some name.toList := by
        rw [unquote?_toList_eq_some_iff, same, String.ofList_toList]
      rw [again] at unquoted
      rwa [Option.some.inj unquoted] at proper
    · intro proper
      have same := unquote?_toList_eq_some_iff.mp unquoted
      refine ⟨?_, ?_, ?_⟩
      · simp [Lexeme.terminal, Terminal.label]
      · simp [Lexeme.terminal, Terminal.label]
      · intro _
        refine ⟨String.ofList content, ?_, same⟩
        rwa [String.toList_ofList]

/-- Tokens are proper when the lexemes that they are are named. -/
theorem forall_proper_iff {tokens : List Token} {lexemes : List Lexeme}
    (spelled : tokens.map Token.written = lexemes.map Lexeme.written) :
    (∀ token ∈ tokens, token.Proper) ↔ ∀ lexeme ∈ lexemes, lexeme.Named := by
  induction tokens generalizing lexemes with
  | nil => simp [List.map_eq_nil_iff.mp spelled.symm]
  | cons token rest ih =>
    obtain ⟨lexeme, lexemes, rfl, head, tail⟩ := List.map_eq_cons_iff.mp spelled.symm
    rw [List.forall_mem_cons, List.forall_mem_cons, proper_iff_named head.symm, ih tail.symm]

theorem named_bracketed {inner : List Lexeme} :
    (∀ lexeme ∈ bracketed inner, lexeme.Named) ↔ ∀ lexeme ∈ inner, lexeme.Named := by
  simp only [bracketed, List.forall_mem_cons, List.forall_mem_append]
  simp

theorem named_parenthesized {inner : List Lexeme} :
    (∀ lexeme ∈ parenthesized inner, lexeme.Named) ↔ ∀ lexeme ∈ inner, lexeme.Named := by
  simp only [parenthesized, List.forall_mem_cons, List.forall_mem_append]
  simp

theorem Term.spellingAll_cons (term : Term) (rest : List Term) :
    Term.spellingAll (term :: rest) =
      term.spelling ++ rest.flatMap fun next => .delimiter .comma :: next.spelling := by
  induction rest generalizing term with
  | nil => simp [Term.spellingAll]
  | cons next rest ih => rw [Term.spellingAll, ih, List.flatMap_cons, List.cons_append]

theorem Term.wellNamedAll_iff (terms : List Term) :
    Term.WellNamedAll terms ↔ ∀ term ∈ terms, term.WellNamed := by
  induction terms with
  | nil => simp [Term.WellNamedAll]
  | cons term rest ih => simp [Term.WellNamedAll, ih]

theorem Term.named_spellingAll (terms : List Term) :
    (∀ lexeme ∈ Term.spellingAll terms, lexeme.Named) ↔
      ∀ term ∈ terms, ∀ lexeme ∈ term.spelling, lexeme.Named := by
  cases terms with
  | nil => simp [Term.spellingAll]
  | cons term rest =>
    rw [Term.spellingAll_cons, List.forall_mem_append, List.forall_mem_cons]
    simp only [List.forall_mem_flatMap, List.forall_mem_cons, named_delimiter, true_and]

theorem Term.wellNamed_iff (term : Term) :
    term.WellNamed ↔ ∀ lexeme ∈ term.spelling, lexeme.Named := by
  induction term using Term.argInduction with
  | var name => simp [Term.WellNamed, Term.spelling]
  | app symbol args each =>
    rw [Term.WellNamed, Term.wellNamedAll_iff, Term.spelling, List.forall_mem_cons,
      List.forall_mem_cons, named_bracketed, Term.named_spellingAll]
    simp only [named_keyword, named_nameLexeme, true_and]
    apply and_congr_right
    intro _
    exact forall₂_congr each

/-- A formula is well named when every lexeme of its spelling is. -/
theorem Formula.wellNamed_iff (formula : Formula) :
    formula.WellNamed ↔ ∀ lexeme ∈ formula.spelling, lexeme.Named := by
  induction formula with
  | constant value => simp [Formula.WellNamed, Formula.spelling]
  | atom name args =>
    simp only [Formula.WellNamed, Formula.spelling, Term.wellNamedAll_iff, List.forall_mem_cons,
      named_bracketed, Term.named_spellingAll, named_keyword, named_nameLexeme, true_and,
      Term.wellNamed_iff]
  | negation operand ih =>
    simp only [Formula.WellNamed, Formula.spelling, List.forall_mem_cons, named_parenthesized,
      named_keyword, true_and, ih]
  | connected op left right onLeft onRight =>
    simp only [Formula.WellNamed, Formula.spelling, List.forall_mem_cons, List.forall_mem_append,
      named_parenthesized, named_keyword, true_and, onLeft, onRight]
  | quantified binder name body ih =>
    simp only [Formula.WellNamed, Formula.spelling, List.forall_mem_cons, named_parenthesized,
      named_keyword, named_nameLexeme, true_and, ih]

/-! Names and the reserved words before them. In a spelling a name stands right behind
the word that says what it names, whatever encloses the two, so that the analyses of a
formula can be read off its spelling without knowing its structure. -/

/-- A name stands right behind a reserved word among some lexemes. -/
def Mentions (lexemes : List Lexeme) (word : Keyword) (name : String) : Prop :=
  [.keyword word, nameLexeme name] <:+: lexemes

section
variable {front back rest inner : List Lexeme} {word word' : Keyword} {name name' : String}

theorem nameLexeme_injective (same : nameLexeme name = nameLexeme name') : name = name' :=
  String.toList_injective (Lexeme.quoted.inj same)

/-- Neighbours stand on one side of a seam, unless a name comes right behind it. -/
theorem mentions_append (apart : ¬[nameLexeme name] <+: back) :
    Mentions (front ++ back) word name ↔ Mentions front word name ∨ Mentions back word name := by
  rw [Mentions, List.infix_append_iff_ne_nil]
  apply or_congr_right
  apply or_iff_left
  rintro ⟨left, right, filled, filled', split, _, begins⟩
  cases left with
  | nil => exact filled rfl
  | cons _ left =>
    obtain ⟨_, split⟩ := List.cons.inj split
    cases left with
    | nil => exact apart (split ▸ begins)
    | cons _ left =>
      obtain ⟨_, split⟩ := List.cons.inj split
      exact filled' (List.append_eq_nil_iff.mp split.symm).2

@[simp] theorem not_mentions_nil : ¬Mentions [] word name := by
  simp [Mentions]

@[simp] theorem mentions_delimiter (mark : Delimiter) :
    Mentions (.delimiter mark :: rest) word name ↔ Mentions rest word name := by
  simp [Mentions, List.infix_cons_iff]

@[simp] theorem mentions_keyword_delimiter (mark : Delimiter) :
    Mentions (.keyword word' :: .delimiter mark :: rest) word name ↔ Mentions rest word name := by
  simp [Mentions, List.infix_cons_iff, nameLexeme]

/-- A name behind a word is the only one that this word is before. -/
@[simp] theorem mentions_keyword_name :
    Mentions (.keyword word' :: nameLexeme name' :: rest) word name ↔
      (word, name) = (word', name') ∨ Mentions rest word name := by
  have names : nameLexeme name = nameLexeme name' ↔ name = name' :=
    ⟨nameLexeme_injective, congrArg nameLexeme⟩
  have passed : Mentions (nameLexeme name' :: rest) word name ↔ Mentions rest word name := by
    simp [Mentions, List.infix_cons_iff, nameLexeme]
  rw [← passed, Mentions, List.infix_cons_iff, List.cons_prefix_cons, List.cons_prefix_cons]
  simp [names, Mentions]

@[simp] theorem mentions_append_delimiter (mark : Delimiter) :
    Mentions (front ++ .delimiter mark :: rest) word name ↔
      Mentions front word name ∨ Mentions rest word name := by
  rw [mentions_append (by simp [nameLexeme]), mentions_delimiter]

theorem mentions_bracketed : Mentions (bracketed inner) word name ↔ Mentions inner word name := by
  simp [bracketed]

theorem mentions_parenthesized :
    Mentions (parenthesized inner) word name ↔ Mentions inner word name := by
  simp [parenthesized]

end

mutual

/-- The names that a term holds, each with the reserved word that it is written behind. -/
def Term.introduced : Term → List (Keyword × String)
  | .var name => [(.variableName, name)]
  | .app symbol args => (.application, symbol) :: Term.introducedAll args

/-- The names that a list of terms holds. -/
def Term.introducedAll : List Term → List (Keyword × String)
  | [] => []
  | term :: rest => term.introduced ++ Term.introducedAll rest

end

/-- The names that a formula holds outside its operands. -/
def Formula.introduced : Formula → List (Keyword × String)
  | .constant _ | .negation _ | .connected _ _ _ => []
  | .atom name args => (.relation, name) :: Term.introducedAll args
  | .quantified binder name _ => [(.quantifier binder, name)]

namespace Term

theorem introducedAll_eq_flatMap (terms : List Term) :
    introducedAll terms = terms.flatMap introduced := by
  induction terms with
  | nil => rfl
  | cons term rest ih => rw [introducedAll, ih, List.flatMap_cons]

variable {word : Keyword} {name : String}

/-- Commas keep the terms of a list apart. -/
theorem mentions_spellingAll (terms : List Term) :
    Mentions (spellingAll terms) word name ↔ ∃ term ∈ terms, Mentions term.spelling word name := by
  have later (rest : List Term) (front : List Lexeme) :
      Mentions (front ++ rest.flatMap fun next => .delimiter .comma :: next.spelling) word name ↔
        Mentions front word name ∨ ∃ term ∈ rest, Mentions term.spelling word name := by
    induction rest generalizing front with
    | nil => simp
    | cons next rest ih =>
      rw [List.flatMap_cons, List.cons_append, mentions_append_delimiter, ih, List.exists_mem_cons_iff]
  cases terms with
  | nil => simp [spellingAll]
  | cons term rest => rw [spellingAll_cons, later, List.exists_mem_cons_iff]

theorem mentions_spelling (term : Term) :
    Mentions term.spelling word name ↔ (word, name) ∈ term.introduced := by
  induction term using argInduction with
  | var name' => simp [spelling, introduced]
  | app symbol args each =>
    rw [spelling, mentions_keyword_name, mentions_bracketed, mentions_spellingAll, introduced,
      List.mem_cons, introducedAll_eq_flatMap, List.mem_flatMap]
    apply or_congr_right
    exact exists_congr fun arg => and_congr_right (each arg)

/-- The variables of a term are those behind the word for a variable. -/
theorem mem_varNames_iff (term : Term) :
    name ∈ term.varNames ↔ (.variableName, name) ∈ term.introduced := by
  induction term using argInduction with
  | var name' => simp [varNames, introduced]
  | app symbol args each =>
    rw [varNames, varNamesAll_eq_flatMap, List.mem_flatMap, introduced, introducedAll_eq_flatMap,
      List.mem_cons, or_iff_right (by simp), List.mem_flatMap]
    exact exists_congr fun arg => and_congr_right (each arg)

/-- All names of a term stand behind the words that begin terms. -/
theorem beginsTerm_of_mem_introduced (term : Term) (member : (word, name) ∈ term.introduced) :
    word.beginsTerm = true := by
  induction term using argInduction with
  | var name' =>
    obtain ⟨rfl, _⟩ := Prod.mk.inj (List.mem_singleton.mp member)
    rfl
  | app symbol args each =>
    rcases List.mem_cons.mp member with same | inside
    · obtain ⟨rfl, _⟩ := Prod.mk.inj same
      rfl
    · rw [introducedAll_eq_flatMap, List.mem_flatMap] at inside
      obtain ⟨arg, among, inside⟩ := inside
      exact each arg among inside

theorem not_mem_introducedAll (other : word.beginsTerm = false) (terms : List Term) :
    (word, name) ∉ introducedAll terms := by
  rw [introducedAll_eq_flatMap, List.mem_flatMap]
  rintro ⟨term, _, member⟩
  rw [term.beginsTerm_of_mem_introduced member] at other
  cases other

end Term

namespace Formula

variable {word : Keyword} {name : String}

/-- The names in the spelling of a formula are those that it introduces at its positions. -/
theorem mentions_spelling (formula : Formula) : Mentions formula.spelling word name ↔
    ∃ part ∈ formula.positions, (word, name) ∈ part.introduced := by
  induction formula with
  | constant value =>
    simp [spelling, positions, introduced, Mentions, List.infix_cons_iff]
  | atom symbol args =>
    rw [spelling, mentions_keyword_name, mentions_bracketed, Term.mentions_spellingAll, positions,
      List.exists_mem_cons_iff, introduced, List.mem_cons, Term.introducedAll_eq_flatMap,
      List.mem_flatMap]
    simp [Term.mentions_spelling]
  | negation operand ih =>
    rw [positions, List.exists_mem_cons_iff, ← ih]
    simp [spelling, parenthesized, introduced]
  | connected op left right onLeft onRight =>
    simp only [positions, List.exists_mem_cons_iff, List.mem_append, or_and_right, exists_or,
      ← onLeft, ← onRight]
    simp [spelling, parenthesized, introduced]
  | quantified binder bound body ih =>
    rw [positions, List.exists_mem_cons_iff, ← ih]
    simp [spelling, mentions_parenthesized, introduced]

theorem relationName?_eq_some_iff (part : Formula) :
    part.relationName? = some name ↔ (.relation, name) ∈ part.introduced := by
  cases part with
  | atom symbol args =>
    have absent : (.relation, name) ∉ Term.introducedAll args := Term.not_mem_introducedAll rfl args
    simp [relationName?, introduced, absent, eq_comm]
  | constant _ | negation _ | connected _ _ _ | quantified _ _ _ =>
    simp [relationName?, introduced]

theorem boundName?_eq_some_iff (part : Formula) :
    part.boundName? = some name ↔ ∃ binder, (.quantifier binder, name) ∈ part.introduced := by
  cases part with
  | atom symbol args =>
    have absent (binder : Quantifier) : (.quantifier binder, name) ∉ Term.introducedAll args :=
      Term.not_mem_introducedAll rfl args
    simp [boundName?, introduced, absent]
  | constant _ | negation _ | connected _ _ _ | quantified _ _ _ =>
    simp [boundName?, introduced, eq_comm]

theorem mem_argumentVariables_iff (part : Formula) :
    name ∈ part.argumentVariables ↔ (.variableName, name) ∈ part.introduced := by
  cases part with
  | atom symbol args =>
    simp [argumentVariables, introduced, Term.introducedAll_eq_flatMap, Term.mem_varNames_iff]
  | constant _ | negation _ | connected _ _ _ | quantified _ _ _ =>
    simp [argumentVariables, introduced]

/-- The relation symbols of a formula are the names behind the word for a relation. -/
theorem mem_relationNames_iff (formula : Formula) :
    name ∈ formula.relationNames ↔ Mentions formula.spelling .relation name := by
  rw [relationNames, mem_ascending, List.mem_filterMap, mentions_spelling]
  simp only [mem_subformulas_iff_mem_positions, relationName?_eq_some_iff]

/-- The bound variables of a formula are the names behind the words for quantifiers. -/
theorem mem_quantifiedVariables_iff (formula : Formula) : name ∈ formula.quantifiedVariables ↔
    ∃ binder, Mentions formula.spelling (.quantifier binder) name := by
  rw [quantifiedVariables, mem_ascending, List.mem_filterMap]
  simp only [mem_subformulas_iff_mem_positions, boundName?_eq_some_iff, mentions_spelling]
  constructor
  · rintro ⟨part, among, binder, bound⟩
    exact ⟨binder, part, among, bound⟩
  · rintro ⟨binder, part, among, bound⟩
    exact ⟨part, among, binder, bound⟩

/-- The variables in a formula's terms are the names behind the word for a variable. -/
theorem mem_termVariables_iff (formula : Formula) :
    name ∈ formula.termVariables ↔ Mentions formula.spelling .variableName name := by
  rw [termVariables, mem_ascending, List.mem_flatMap, mentions_spelling]
  simp only [mem_subformulas_iff_mem_positions, mem_argumentVariables_iff]

end Formula

end FirstOrderText
