import HtmlQuery.Proofs.XPath.Spelling

/-! Spelled rows consist of readable tokens, and each row of readable tokens can be laid out as a text.
-/

namespace HtmlQuery.XPath

open HtmlQuery.Text

namespace Token

/-- Rows of readable tokens, as they are spelled. -/
def Lexical (row : List Token) : Prop :=
  ∀ token ∈ row, token.position = 0 ∧ IsLexeme token.kind token.text.toList

@[simp] theorem lexical_nil : Lexical [] := by
  simp [Lexical]

@[simp] theorem lexical_cons {token : Token} {row : List Token}
    : Lexical (token :: row)
      ↔ (token.position = 0 ∧ IsLexeme token.kind token.text.toList) ∧ Lexical row := by
  simp [Lexical]

@[simp] theorem lexical_append {row more : List Token}
    : Lexical (row ++ more) ↔ Lexical row ∧ Lexical more :=
  List.forall_mem_append

/-- The end of an expression prolongs no token. -/
theorem ends_nil (kind : TokenKind) (text : List Char) : Ends kind text [] := by
  cases kind <;> simp [Ends, EndsJoined, Stops]

/-- A character that no token goes on with prolongs none, whatever stands behind it. -/
theorem ends_apart {c : Char} (noDigit : isDigit c = false) (noPart : isNamePart c = false)
    (noColon : c ≠ ':') (noEquals : c ≠ '=') (noSlash : c ≠ '/') (kind : TokenKind)
    (text rest : List Char)
    : Ends kind text (c :: rest) := by
  have detached : Detached (some kind) (c :: rest) :=
    .of_apart noDigit noPart noColon noEquals (fun _ => noSlash) rest
  exact (ends_nil kind text).append detached fun _ => rfl

/-- White space prolongs no token, whatever stands behind it. -/
theorem ends_blank {gap : List Char} (blank : ∀ c ∈ gap, isBlank c = true) (kind : TokenKind)
    (text : List Char) {next : List Char} (apart : gap = [] → next = [])
    : Ends kind text (gap ++ next) := by
  cases gap with
  | nil =>
      rw [apart rfl]
      exact ends_nil kind text
  | cons c gap =>
      have first := blank c List.mem_cons_self
      obtain ⟨noWord, noDigit⟩ := not_word_of_isBlank first
      have other {d : Char} (visible : isBlank d = false) : c ≠ d := by
        rintro rfl
        simp [first] at visible
      have noPart : isNamePart c = false := by
        simp [isNamePart, noWord, other (d := '.') (by decide), other (d := '-') (by decide)]
      exact ends_apart noDigit noPart (other (by decide)) (other (by decide)) (other (by decide))
        kind text (gap ++ next)

/-- Each row of readable tokens is laid out by some text, for instance with a blank in front of each
token and at the end.
-/
theorem exists_laid {row : List Token} (lexical : Lexical row) (start : Nat)
    : ∃ tokens text, Laid start tokens (' ' :: text) ∧ tokens.map (placed fun _ => 0) = row := by
  have blank : ∀ c ∈ [' '], isBlank c = true := by
    simpa using (by decide : isBlank ' ' = true)
  induction row generalizing start with
  | nil => exact ⟨[], [], .done blank, rfl⟩
  | cons token row ih =>
      obtain ⟨⟨position, kind, text⟩, rfl⟩ : ∃ same, same = token := ⟨token, rfl⟩
      obtain ⟨⟨unplaced, lexeme⟩, others⟩ := lexical_cons.mp lexical
      obtain ⟨tokens, next, laid, rfl⟩ := ih others (start + [' '].length + text.toList.length)
      refine ⟨_, _, .token blank lexeme (ends_blank blank kind text.toList (by simp)) laid, ?_⟩
      obtain rfl : position = 0 := unplaced
      simp [placed]

/-- Whether a text is a name without a colon. -/
def isPlainName (name : String) : Bool :=
  match name.toList with
  | [] => false
  | c :: rest => isNameStart c && rest.all isNamePart

theorem isLexeme_of_isPlainName {name : String} (plain : isPlainName name = true)
    : IsLexeme .name name.toList := by
  unfold isPlainName at plain
  cases shape : name.toList with
  | nil => simp [shape] at plain
  | cons c rest =>
      simp only [shape, Bool.and_eq_true, List.all_eq_true] at plain
      exact .single plain.1 plain.2

theorem isLexeme_sign {kind : TokenKind} (single : kind.isMark = true)
    : IsLexeme kind kind.sign.toList := by
  cases kind
  all_goals first | rfl | cases single

theorem lexical_word {name : String} (named : IsLexeme .name name.toList) : Lexical [word name] := by
  simp [word, named]

theorem lexical_mark {kind : TokenKind} (single : kind.isMark = true) : Lexical [mark kind] := by
  simp [mark, isLexeme_sign single]

theorem lexical_sign (relation : Relation) : Lexical [sign relation] := by
  cases relation <;> simp [sign, IsLexeme, Relation.text]

theorem lexical_arguments {arguments : List (List Token)} (all : ∀ row ∈ arguments, Lexical row)
    : Lexical ([mark .comma].intercalate arguments) := by
  induction arguments with
  | nil => simp
  | cons row others ih =>
      have first := all row (by simp)
      cases others with
      | nil => simpa using first
      | cons next others =>
          have later := ih fun row member => all row (by simp [member])
          rw [List.intercalate_cons_cons]
          exact lexical_append.mpr ⟨lexical_append.mpr ⟨first, lexical_mark rfl⟩, later⟩

/-- A mark in front of a row. -/
theorem lexical_mark_cons {kind : TokenKind} {row : List Token} (single : kind.isMark = true)
    (lexical : Lexical row)
    : Lexical (mark kind :: row) :=
  lexical_append.mpr ⟨lexical_mark single, lexical⟩

/-- A word in front of a row. -/
theorem lexical_word_cons {name : String} {row : List Token} (plain : isPlainName name = true)
    (lexical : Lexical row)
    : Lexical (word name :: row) :=
  lexical_append.mpr ⟨lexical_word (isLexeme_of_isPlainName plain), lexical⟩

theorem lexical_call {function : String} {arguments : List (List Token)}
    (plain : isPlainName function = true) (all : ∀ row ∈ arguments, Lexical row)
    : Lexical (call function arguments) := by
  have inside : Lexical ([mark .comma].intercalate arguments ++ [mark .closeParen]) :=
    lexical_append.mpr ⟨lexical_arguments all, lexical_mark rfl⟩
  exact lexical_word_cons plain (lexical_mark_cons rfl inside)

theorem lexical_attributeOf {name : String} (named : IsLexeme .name name.toList)
    : Lexical (attributeOf name) :=
  lexical_mark_cons rfl (lexical_word named)

theorem OwnText.lexical {source : List Token} (own : OwnText source) : Lexical source := by
  cases own with
  | dot => exact lexical_mark rfl
  | text => exact lexical_call rfl (by simp)

theorem OwnArguments.lexical {arguments : List (List Token)} (own : OwnArguments arguments)
    : ∀ row ∈ arguments, Lexical row := by
  cases own with
  | none => simp
  | single own => simpa only [List.forall_mem_singleton] using own.lexical

end Token

open Token

theorem Literal.Spelled.lexical {literal : Literal} {token : Token}
    (spelled : literal.Spelled token)
    : Lexical [token] := by
  cases spelled with
  | @text delimiter value is => simp [isLexeme_quote is value]
  | number lexeme => simp [lexeme]

/-- The subjects of comparisons consist of readable tokens. -/
theorem Compares.lexical {subject : List Token} {relation : Relation} {literal : Literal}
    {predicate : Predicate} (compares : Compares subject relation literal predicate)
    : Lexical subject := by
  cases compares with
  | position => exact lexical_call rfl (by simp)
  | count named =>
      exact lexical_call rfl (by simpa only [List.forall_mem_singleton] using lexical_word named)
  | textLength own => exact lexical_call rfl own.lexical
  | attributeIs named => exact lexical_attributeOf named.1
  | textIs own => exact own.lexical
  | normalized own => exact lexical_call rfl own.lexical
  | substring own begins =>
      apply lexical_call rfl
      simpa only [List.forall_mem_cons] using ⟨own.lexical, begins.lexical, by simp⟩
  | substringOf own begins ends =>
      apply lexical_call rfl
      simpa only [List.forall_mem_cons] using ⟨own.lexical, begins.lexical, ends.lexical, by simp⟩
  | substringAfter own cut =>
      apply lexical_call rfl
      simpa only [List.forall_mem_cons] using ⟨own.lexical, cut.lexical, by simp⟩
  | substringBefore own cut =>
      apply lexical_call rfl
      simpa only [List.forall_mem_cons] using ⟨own.lexical, cut.lexical, by simp⟩
  | translated own first second =>
      apply lexical_call rfl
      simpa only [List.forall_mem_cons]
        using ⟨own.lexical, first.lexical, second.lexical, by simp⟩

/-- Spelled predicates consist of readable tokens, by induction on the spelling. -/
theorem Predicate.Spelled.lexical {level : Level} {predicate : Predicate} {row : List Token}
    (spelled : Predicate.Spelled level predicate row)
    : Lexical row := by
  induction spelled with
  | number literal => exact literal.lexical
  | last => exact lexical_call rfl (by simp)
  | hasAttribute named => exact lexical_attributeOf named.1
  | hasDescendant named => exact lexical_word named.1
  | @comparison subject relation literal predicate token compares spelled =>
      have right := lexical_append.mpr ⟨lexical_sign relation, spelled.lexical⟩
      exact lexical_append.mpr ⟨compares.lexical, right⟩
  | attributeTest test named literal =>
      apply lexical_call (by cases test <;> rfl)
      simpa only [List.forall_mem_cons]
        using ⟨lexical_attributeOf named, literal.lexical, by simp⟩
  | textTest test own literal =>
      apply lexical_call (by cases test <;> rfl)
      simpa only [List.forall_mem_cons] using ⟨own.lexical, literal.lexical, by simp⟩
  | not _ ih =>
      exact lexical_call rfl (by simpa only [List.forall_mem_singleton] using ih)
  | group _ ih =>
      exact lexical_mark_cons rfl (lexical_append.mpr ⟨ih, lexical_mark rfl⟩)
  | operand _ ih => exact ih
  | conjoined _ _ first second =>
      exact lexical_append.mpr ⟨first, lexical_word_cons rfl second⟩
  | conjunction _ ih => exact ih
  | disjoined _ _ first second =>
      exact lexical_append.mpr ⟨first, lexical_word_cons rfl second⟩

theorem Predicates.Spelled.lexical {predicates : List Predicate} {row : List Token}
    (spelled : Predicates.Spelled predicates row)
    : Lexical row := by
  induction spelled with
  | nil => exact lexical_nil
  | @cons predicate row predicates more first _ ih =>
      have behind : Lexical (mark .closeBracket :: more) := lexical_mark_cons rfl ih
      exact lexical_mark_cons rfl (lexical_append.mpr ⟨first.lexical, behind⟩)

theorem NodeTest.Spelled.lexical {test : NodeTest} {row : List Token}
    (spelled : NodeTest.Spelled test row)
    : Lexical row := by
  cases spelled with
  | anyName => exact lexical_mark rfl
  | name named => exact lexical_word named
  | anyNode => exact lexical_call rfl (by simp)
  | text => exact lexical_call rfl (by simp)

theorem Step.Spelled.lexical {step : Step} {row : List Token} (spelled : step.Spelled row)
    : Lexical row := by
  obtain @⟨axis, test, row, predicates, groups, tested, filtered, -⟩ := spelled
  have named : isPlainName axis.name = true := by cases axis <;> rfl
  have behind := lexical_append.mpr ⟨tested.lexical, filtered.lexical⟩
  exact lexical_word_cons named (lexical_mark_cons rfl behind)

theorem Steps.Spelled.lexical {steps : List Step} {row : List Token}
    (spelled : Steps.Spelled steps row)
    : Lexical row := by
  induction spelled with
  | single only => exact only.lexical
  | cons first _ ih =>
      exact lexical_append.mpr ⟨first.lexical, lexical_mark_cons rfl ih⟩

end HtmlQuery.XPath
