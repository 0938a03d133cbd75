import FirstOrderText.Text
import Mathlib.Algebra.Group.Nat.Defs
import Mathlib.Data.List.Infix

/-! Forms that end by themselves. Where such a form ends does not depend on what is
written behind it, so that forms can be put side by side and told apart again. String
literals are such a form, because every character of a literal can be read back. -/
namespace FirstOrderText

/-- The form of a value ends by itself: no text begins both with it and with the form of
another value, and what comes behind it is determined. -/
def Delimited {α : Type} (form : α → List Char) (a : α) : Prop :=
  ∀ ⦃b : α⦄ ⦃rest rest' : List Char⦄, form a ++ rest = form b ++ rest' → a = b ∧ rest = rest'

namespace Quoted

/-- The value of a hexadecimal digit. -/
def digitValue (digit : Char) : Nat :=
  if digit.isDigit then digit.toNat - 48 else digit.toNat - 87

/-- The number that hexadecimal digits denote. -/
def hexValue (digits : List Char) : Nat :=
  digits.foldl (fun value digit => value * 16 + digitValue digit) 0

/-- Reads a character whose backslash was read already. -/
def unmark? : List Char → Option (Char × List Char)
  | [] => none
  | 'n' :: rest => some ('\n', rest)
  | 'r' :: rest => some ('\r', rest)
  | 't' :: rest => some ('\t', rest)
  | 'x' :: rest => some (Char.ofNat (hexValue (rest.take 2)), rest.drop 2)
  | 'u' :: rest => some (Char.ofNat (hexValue (rest.take 4)), rest.drop 4)
  | 'U' :: rest => some (Char.ofNat (hexValue (rest.take 8)), rest.drop 8)
  | c :: rest => some (c, rest)

/-- Reads one character of a literal, and leaves the rest. -/
def unescape? : List Char → Option (Char × List Char)
  | [] => none
  | c :: rest => if c = '\\' then unmark? rest else some (c, rest)

theorem digitValue_digitChar {n : Nat} (small : n < 16) : digitValue n.digitChar = n :=
  (by decide : ∀ n < 16, digitValue n.digitChar = n) n small

theorem hexValue_hexDigits (width n : Nat) : hexValue (hexDigits width n) = n % 16 ^ width := by
  induction width generalizing n with
  | zero => simp [hexDigits, hexValue, Nat.mod_one]
  | succ width ih =>
    have last := digitValue_digitChar (Nat.mod_lt n (by decide : 16 > 0))
    have split : hexValue (hexDigits (width + 1) n) =
        hexValue (hexDigits width (n / 16)) * 16 + digitValue (n % 16).digitChar := by
      simp [hexValue, hexDigits]
    rw [split, ih, last, Nat.pow_succ', Nat.mod_mul]
    omega

/-- A code point in enough digits is read back. -/
theorem ofNat_hexDigits (width : Nat) {c : Char} (enough : c.toNat < 16 ^ width)
    (rest : List Char) :
    Char.ofNat (hexValue ((hexDigits width c.toNat ++ rest).take width)) = c ∧
      (hexDigits width c.toNat ++ rest).drop width = rest := by
  have long := hexDigits_length width c.toNat
  rw [List.take_left' long, List.drop_left' long, hexValue_hexDigits, Nat.mod_eq_of_lt enough]
  exact ⟨Char.ofNat_toNat c, rfl⟩

/-- The quotes that may enclose a literal. -/
def IsQuote (quote : Char) : Prop :=
  quote = '\x27' ∨ quote = '\x22'

theorem isQuote_enclosing (text : List Char) : IsQuote (enclosing text) := by
  unfold enclosing
  split
  · exact Or.inr rfl
  · exact Or.inl rfl

section
variable {quote : Char}

/-- What is escaped is read back, whatever comes behind it. -/
theorem unescape?_escape (enclosed : IsQuote quote) (c : Char) (rest : List Char) :
    unescape? (escape quote c ++ rest) = some (c, rest) := by
  fun_cases escape quote c with
  | case1 marked =>
    rcases marked with rfl | rfl
    · rcases enclosed with rfl | rfl <;> rfl
    · rfl
  | case2 _ same | case3 _ _ same | case4 _ _ _ same =>
    subst same
    rfl
  | case5 marked _ _ _ _ => exact if_neg fun same => marked (Or.inr same)
  | case6 _ _ _ _ _ small =>
    obtain ⟨value, behind⟩ := ofNat_hexDigits 2 small rest
    simp only [List.cons_append, unescape?, unmark?, if_true, value, behind]
  | case7 _ _ _ _ _ _ small =>
    obtain ⟨value, behind⟩ := ofNat_hexDigits 4 small rest
    simp only [List.cons_append, unescape?, unmark?, if_true, value, behind]
  | case8 =>
    have small : c.toNat < 16 ^ 8 := c.val.toNat_lt
    obtain ⟨value, behind⟩ := ofNat_hexDigits 8 small rest
    simp only [List.cons_append, unescape?, unmark?, if_true, value, behind]

/-- The enclosing quote does not stand unescaped in a literal. -/
theorem escape_append_ne (enclosed : IsQuote quote) (c : Char) (rest rest' : List Char) :
    escape quote c ++ rest ≠ quote :: rest' := by
  intro same
  have plain : quote ≠ '\\' := by
    rcases enclosed with rfl | rfl <;> decide
  have read := unescape?_escape enclosed c rest
  rw [same, unescape?, if_neg plain] at read
  obtain ⟨rfl, rfl⟩ := Prod.mk.inj (Option.some.inj read)
  rw [escape, if_pos (Or.inl rfl)] at same
  exact plain (List.cons.inj same).1.symm

/-- What a literal encloses ends at the enclosing quote. -/
theorem flatMap_escape_inj (enclosed : IsQuote quote) {text text' rest rest' : List Char}
    (same : text.flatMap (escape quote) ++ quote :: rest =
      text'.flatMap (escape quote) ++ quote :: rest') : text = text' ∧ rest = rest' := by
  induction text generalizing text' with
  | nil =>
    cases text' with
    | nil => exact ⟨rfl, (List.cons.inj same).2⟩
    | cons c text' =>
      rw [List.flatMap_cons, List.append_assoc] at same
      exact absurd same.symm (escape_append_ne enclosed c _ _)
  | cons c text ih =>
    cases text' with
    | nil =>
      rw [List.flatMap_cons, List.append_assoc] at same
      exact absurd same (escape_append_ne enclosed c _ _)
    | cons c' text' =>
      rw [List.flatMap_cons, List.flatMap_cons, List.append_assoc, List.append_assoc] at same
      have read := congrArg unescape? same
      rw [unescape?_escape enclosed, unescape?_escape enclosed] at read
      obtain ⟨rfl, behind⟩ := Prod.mk.inj (Option.some.inj read)
      obtain ⟨rfl, rest⟩ := ih behind
      exact ⟨rfl, rest⟩

end

theorem literal_append (text rest : List Char) : literal text ++ rest =
    enclosing text :: (text.flatMap (escape (enclosing text)) ++ enclosing text :: rest) := by
  simp [literal]

/-- String literals end by themselves. -/
theorem delimited_literal (text : List Char) : Delimited literal text := by
  intro text' rest rest' same
  rw [literal_append, literal_append] at same
  obtain ⟨quotes, inside⟩ := List.cons.inj same
  rw [← quotes] at inside
  exact flatMap_escape_inj (isQuote_enclosing text) inside

end Quoted

theorem toList_intercalate_cons (first : String) (more : List String) :
    (String.intercalate ", " (first :: more)).toList =
      first.toList ++ more.flatMap fun element => ',' :: ' ' :: element.toList := by
  induction more generalizing first with
  | nil => simp
  | cons next more ih =>
    rw [String.intercalate_cons_cons, String.toList_append, ih, List.flatMap_cons]
    simp

section
variable {α : Type} {form : α → List Char} {items items' : List α} {rest rest' : List Char}

/-- Items behind commas, up to a mark that is no comma, can be told apart. -/
theorem tail_inj {stop : Char} (other : stop ≠ ',') (each : ∀ item ∈ items, Delimited form item)
    (same : (items.flatMap fun item => ',' :: ' ' :: form item) ++ stop :: rest =
      (items'.flatMap fun item => ',' :: ' ' :: form item) ++ stop :: rest') :
    items = items' ∧ rest = rest' := by
  induction items generalizing items' with
  | nil =>
    cases items' with
    | nil => exact ⟨rfl, (List.cons.inj same).2⟩
    | cons item' items' => exact absurd (List.cons.inj same).1 other
  | cons item items ih =>
    obtain ⟨first, later⟩ := List.forall_mem_cons.mp each
    cases items' with
    | nil => exact absurd (List.cons.inj same).1.symm other
    | cons item' items' =>
      simp only [List.flatMap_cons, List.cons_append, List.append_assoc, List.cons.injEq,
        true_and] at same
      obtain ⟨rfl, behind⟩ := first same
      obtain ⟨rfl, rest⟩ := ih later behind
      exact ⟨rfl, rest⟩

end

/-! The lines of a text. What is put in front of a text and stays on its line only lengthens
the first line; every later line stands right behind a newline of the text. Texts that are
ended by newlines keep their own lines when they are joined. -/

/-- A text that stays on its line. -/
def Inline (text : String) : Prop :=
  '\n' ∉ text.toList

instance (text : String) : Decidable (Inline text) :=
  inferInstanceAs (Decidable ('\n' ∉ text.toList))

@[simp] theorem inline_append {front back : String} :
    Inline (front ++ back) ↔ Inline front ∧ Inline back := by
  rw [Inline, String.toList_append, List.mem_append, not_or]
  rfl

theorem inline_of_digits {digits : String} (each : ∀ c ∈ digits.toList, c.isDigit = true) :
    Inline digits :=
  fun newline => absurd (each _ newline) (by decide)

theorem inline_natRepr (n : Nat) : Inline n.repr := by
  apply inline_of_digits
  rw [Nat.toList_repr]
  intro c member
  exact Nat.isDigit_of_mem_toDigits (by decide) (by decide) member

@[simp] theorem inline_toString_nat (n : Nat) : Inline (toString n) :=
  inline_natRepr n

@[simp] theorem inline_toString_int (n : Int) : Inline (toString n) := by
  cases n with
  | ofNat n => exact inline_natRepr n
  | negSucc n => exact inline_append.mpr ⟨by decide, inline_natRepr (n + 1)⟩

theorem inline_intercalate {parts : List String} (each : ∀ part ∈ parts, Inline part) :
    Inline (String.intercalate ", " parts) := by
  cases parts with
  | nil => decide
  | cons first more =>
    obtain ⟨head, later⟩ := List.forall_mem_cons.mp each
    rw [Inline, toList_intercalate_cons, List.mem_append, List.mem_flatMap]
    rintro (inFirst | ⟨part, member, inPart⟩)
    · exact head inFirst
    · simp only [List.mem_cons] at inPart
      rcases inPart with comma | space | inPart
      · cases comma
      · cases space
      · exact later part member inPart

/-- The lines of a text, which newlines part. -/
def linesOf (text : String) : List (List Char) :=
  text.toList.splitOn '\n'

theorem splitOn_cons (c : Char) (rest : List Char) : (c :: rest).splitOn '\n' =
    if c = '\n' then [] :: rest.splitOn '\n' else (rest.splitOn '\n').modifyHead (c :: ·) := by
  simp only [List.splitOn, List.splitOnP_cons_eq_if_modifyHead, beq_iff_eq]

theorem linesOf_append {front : String} (inline : Inline front) (back : String) :
    linesOf (front ++ back) = (linesOf back).modifyHead (front.toList ++ ·) := by
  rw [linesOf, linesOf, String.toList_append]
  rw [Inline] at inline
  generalize front.toList = chars at inline ⊢
  induction chars with
  | nil =>
    rw [List.nil_append]
    cases back.toList.splitOn '\n' <;> rfl
  | cons c chars ih =>
    obtain ⟨other, inline⟩ := not_or.mp (mt List.mem_cons.mpr inline)
    rw [List.cons_append, splitOn_cons, if_neg (Ne.symm other), ih inline, List.modifyHead_modifyHead]
    rfl

theorem linesOf_inline {text : String} (inline : Inline text) : linesOf text = [text.toList] :=
  List.splitOn_eq_singleton inline

/-- Texts that are ended by newlines keep their lines in front of any text. -/
theorem linesOf_join_append (texts : List String) (back : String) :
    linesOf (String.join (texts.map (· ++ "\n")) ++ back) =
      texts.flatMap linesOf ++ linesOf back := by
  induction texts with
  | nil => exact congrArg linesOf String.empty_append
  | cons text rest ih =>
    have ended : (text ++ "\n" ++ String.join (rest.map (· ++ "\n")) ++ back).toList =
        text.toList ++ '\n' :: (String.join (rest.map (· ++ "\n")) ++ back).toList := by
      simp only [String.toList_append, List.append_assoc]
      rfl
    rw [List.map_cons, String.join_cons, linesOf, ended, List.splitOn_append_cons_self,
      ← linesOf, ← linesOf, ih, List.flatMap_cons, List.append_assoc]

theorem splitOn_eq_cons (text : List Char) :
    text.splitOn '\n' = text.takeWhile (· != '\n') :: (text.splitOn '\n').tail := by
  induction text with
  | nil => rfl
  | cons c rest ih =>
    rw [splitOn_cons]
    by_cases newline : c = '\n'
    · rw [if_pos newline, newline]
      rfl
    · have other : (c != '\n') = true := bne_iff_ne.mpr newline
      rw [if_neg newline, ih, List.takeWhile_cons, if_pos other]
      rfl

section
variable {heading : List Char} (inline : '\n' ∉ heading) (text : List Char)
include inline

theorem prefix_takeWhile_iff : heading <+: text.takeWhile (· != '\n') ↔ heading <+: text := by
  constructor
  · intro begins
    exact begins.trans (List.takeWhile_prefix _)
  · rintro ⟨rest, rfl⟩
    have inside : ∀ c ∈ heading, (c != '\n') = true := by
      intro c member
      exact bne_iff_ne.mpr (ne_of_mem_of_not_mem member inline)
    rw [List.takeWhile_append_of_pos inside]
    exact List.prefix_append _ _

/-- Some later line begins with a heading when the heading stands right behind a newline. -/
theorem exists_later_line_iff :
    (∃ line ∈ (text.splitOn '\n').tail, heading <+: line) ↔ ('\n' :: heading) <:+: text := by
  induction text with
  | nil => simp
  | cons c rest ih =>
    rw [splitOn_cons, List.infix_cons_iff, List.cons_prefix_cons]
    by_cases newline : c = '\n'
    · rw [if_pos newline, List.tail_cons, splitOn_eq_cons, List.exists_mem_cons_iff,
        prefix_takeWhile_iff inline, ih]
      simp [newline]
    · rw [if_neg newline, List.tail_modifyHead, ih]
      simp [Ne.symm newline]

end

end FirstOrderText
