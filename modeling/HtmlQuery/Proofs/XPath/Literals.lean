import HtmlQuery.Proofs.Decimal.Exactness
import HtmlQuery.Proofs.XPath.Lexeme
import HtmlQuery.XPath.PredicateReader

/-! Literals and how they are written. Any text can be quoted with either delimiter, any integer that
numbers hold is written with its digits, and both are read back.
-/

namespace HtmlQuery.XPath

open HtmlQuery.Text

-----------------------------------------------------------------------------------------
-- Texts
-----------------------------------------------------------------------------------------

namespace Token

/-- The characters of a text, each backslash and delimiter with a backslash in front of it. -/
def escape (delimiter : Char) : List Char → List Char
  | [] => []
  | c :: rest =>
      if c = delimiter ∨ c = '\\' then '\\' :: c :: escape delimiter rest
      else c :: escape delimiter rest

/-- A text as a string literal. -/
def quote (delimiter : Char) (text : String) : String :=
  String.ofList (delimiter :: (escape delimiter text.toList ++ [delimiter]))

/-- Whether a character may delimit a string. -/
abbrev IsDelimiter (c : Char) : Prop :=
  c = '"' ∨ c = '\''

variable {delimiter : Char}

theorem IsDelimiter.ne_lineFeed (is : IsDelimiter delimiter) : delimiter ≠ '\n' := by
  rcases is with rfl | rfl <;> decide

theorem quoted_escape (visible : delimiter ≠ '\n') (text : List Char)
    : Quoted delimiter (escape delimiter text) := by
  induction text with
  | nil => exact .nil
  | cons c rest ih =>
      rw [escape]
      split
      · rename_i special
        refine .escaped ?_ ih
        rintro rfl
        rcases special with same | same
        · exact visible same.symm
        · cases same
      · rename_i plain
        exact .plain (fun same => plain (.inl same)) (fun same => plain (.inr same)) ih

/-- Only a backslash needs a look at the character behind it. -/
theorem unescape_cons {c : Char} (plain : c ≠ '\\') (rest : List Char)
    : unescape (c :: rest) = c :: unescape rest := by
  cases rest with
  | nil => rfl
  | cons d rest => simp [unescape, plain]

/-- Escapes are read back, by induction on the text. -/
theorem unescape_escape (visible : delimiter ≠ '\n') (text : List Char)
    : unescape (escape delimiter text) = text := by
  induction text with
  | nil => rfl
  | cons c rest ih =>
      rw [escape]
      split
      · rename_i special
        have escapable : c ≠ '\n' := by
          rintro rfl
          rcases special with same | same
          · exact visible same.symm
          · cases same
        simp [unescape, escapable, ih]
      · rename_i plain
        rw [unescape_cons (fun same => plain (.inr same)), ih]

/-- A literal stands for the text that it quotes. -/
theorem unquote_quote (is : IsDelimiter delimiter) (text : String)
    : unquote (quote delimiter text) = text := by
  rw [unquote, quote, String.toList_ofList, List.tail_cons, List.dropLast_concat,
    unescape_escape is.ne_lineFeed, String.ofList_toList]

theorem isLexeme_quote (is : IsDelimiter delimiter) (text : String)
    : IsLexeme .string (quote delimiter text).toList :=
  ⟨delimiter, _, is, quoted_escape is.ne_lineFeed text.toList, String.toList_ofList⟩

end Token

-----------------------------------------------------------------------------------------
-- Integers
-----------------------------------------------------------------------------------------

theorem digitValue?_of_isDigit {c : Char} (digit : c.isDigit = true)
    : digitValue? c = some (c.toNat - 48) := by
  have ascii : c.toNat < 128 :=
    Nat.lt_of_le_of_lt (Char.isDigit_iff_toNat.mp digit).2 (by decide)
  rw [digitValue?, if_pos ascii, if_pos digit]

/-- Plain digits have the values that they are written for, by induction on them. -/
theorem foldl_digits {digits : List Char} (plain : ∀ c ∈ digits, c.isDigit = true) (value : Nat)
    : digits.foldl (fun value c => value * 10 + (digitValue? c).getD 0) value
      = Nat.ofDigitChars 10 digits value := by
  induction digits generalizing value with
  | nil => simp
  | cons c rest ih =>
      rw [List.foldl_cons, Nat.ofDigitChars_cons, digitValue?_of_isDigit (plain c (by simp)),
        ih fun d member => plain d (by simp [member]), Nat.mul_comm value]
      rfl

theorem isDigit_of_mem_toString {n : Nat} {c : Char} (member : c ∈ (toString n).toList)
    : c.isDigit = true := by
  rw [Nat.toString_eq_ofList_toDigits, String.toList_ofList] at member
  exact Nat.isDigit_of_mem_toDigits (by decide) (by decide) member

/-- Whether a text consists of decimal digits, of whichever script, that have a value. -/
structure IsDecimal (digits : String) (value : Nat) : Prop where
  nonempty : digits.toList ≠ []
  digit : ∀ c ∈ digits.toList, isDigit c = true
  value : digitsValue digits.toList = value

theorem isDecimal_toString (n : Nat) : IsDecimal (toString n) n where
  nonempty := by
    rw [Nat.toString_eq_ofList_toDigits, String.toList_ofList]
    exact Nat.toDigits_ne_nil
  digit := by
    intro c member
    rw [isDigit, digitValue?_of_isDigit (isDigit_of_mem_toString member)]
    rfl
  value := by
    rw [digitsValue, foldl_digits fun c => isDigit_of_mem_toString,
      Nat.toString_eq_ofList_toDigits, String.toList_ofList, Nat.ofDigitChars_ten_toDigits]

section

variable {digits : String} {n : Nat}

theorem IsDecimal.isLexeme (decimal : IsDecimal digits n)
    : Token.IsLexeme .number digits.toList := by
  obtain ⟨nonempty, digit, -⟩ := decimal
  obtain ⟨c, rest, shape⟩ := List.exists_cons_of_ne_nil nonempty
  rw [shape] at digit ⊢
  exact .single (digit c (by simp)) fun d member => digit d (by simp [member])

/-- A literal without a point denotes the number nearest to the value of its digits. -/
theorem Number.read_integer (whole : '.' ∉ digits.toList)
    : Number.read digits = .nearest (digitsValue digits.toList) 1 := by
  have noPoint : ∀ c ∈ digits.toList, (c != '.') = true := by
    intro c member
    rw [bne_iff_ne]
    rintro rfl
    exact whole member
  simp only [Number.read, List.takeWhile_eq_self_iff.mpr noPoint,
    List.dropWhile_eq_nil_iff.mpr noPoint, List.drop_nil, List.append_nil]
  rfl

/-- Digits denote their value if numbers hold it. -/
theorem IsDecimal.read (decimal : IsDecimal digits n) (exact : Decimal.Representable n)
    : Number.read digits = .finite n 0 := by
  have whole : '.' ∉ digits.toList := fun member =>
    absurd (decimal.digit '.' member) (by decide)
  rw [Number.read_integer whole, decimal.value, Decimal.Magnitude.nearest_one exact]

end

-----------------------------------------------------------------------------------------
-- Literals
-----------------------------------------------------------------------------------------

namespace Literal

/-- The tokens that stand for a literal. -/
inductive Spelled : Literal → Token → Prop
  | text {delimiter value} (is : Token.IsDelimiter delimiter)
    : Spelled (.text value) ⟨0, .string, Token.quote delimiter value⟩
  | number {literal value} (lexeme : Token.IsLexeme .number literal.toList)
    (denotes : Number.read literal = value)
    : Spelled (.number value) ⟨0, .number, literal⟩

variable {token : Token}

theorem Spelled.ofTokens? {literal : Literal} (spelled : literal.Spelled token)
    : Literal.ofTokens? [token] = some literal := by
  cases spelled with
  | text is => rw [Literal.ofTokens?, Token.unquote_quote is]
  | number _ denotes => rw [Literal.ofTokens?, denotes]

theorem Spelled.textArgument {value : String} (spelled : (Literal.text value).Spelled token)
    : Predicate.textArgument [token] = .ok value := by
  cases spelled with
  | text is => rw [Predicate.textArgument, Token.unquote_quote is]

theorem Spelled.integerArgument {value : Nat}
    (spelled : (Literal.number (.finite value 0)).Spelled token)
    : Predicate.integerArgument [token] = .ok value := by
  cases spelled with
  | number _ denotes =>
      simp [Predicate.integerArgument, denotes, Decimal.Magnitude.floor?, Decimal.twoToThe]

/-- Whether some literal denotes a number. -/
def Denotable (value : Number) : Prop :=
  ∃ literal : String, Token.IsLexeme .number literal.toList ∧ Number.read literal = value

theorem exists_spelled_text (value : String) : ∃ token, (text value).Spelled token := by
  have is : Token.IsDelimiter '"' := .inl rfl
  exact ⟨_, .text is⟩

theorem exists_spelled_number {value : Number} (denotable : Denotable value)
    : ∃ token, (number value).Spelled token := by
  obtain ⟨literal, lexeme, denotes⟩ := denotable
  exact ⟨_, .number lexeme denotes⟩

theorem denotable_of_representable {n : Nat} (exact : Decimal.Representable n)
    : Denotable (.finite n 0) :=
  ⟨toString n, (isDecimal_toString n).isLexeme, (isDecimal_toString n).read exact⟩

end Literal

end HtmlQuery.XPath
