import HtmlQuery.Proofs.XPath.Nesting
import HtmlQuery.Proofs.XPath.Spelling

/-! Calls and comparisons are read from the rows that spell them: a call is taken apart into its
arguments, a comparison is cut at its relation.
-/

namespace HtmlQuery.XPath

open Token

namespace Token

variable {isSeparator fewer : Token → Bool}

theorem Nested.mono {row : List Token} (nested : Nested isSeparator row)
    (within : ∀ token, fewer token = true → isSeparator token = true)
    : Nested fewer row := by
  induction nested with
  | nil => exact .nil
  | @plain _ token _ noOpener noCloser other _ ih =>
      refine .plain noOpener noCloser ?_ (ih within)
      cases cut : fewer token with
      | false => rfl
      | true => simpa [other] using within token cut
  | group pair inside _ _ ih => exact .group pair inside (ih within)

/-- Whether rows are cut at a token, be it between arguments, operands or the sides of a comparison.
-/
def divides (token : Token) : Bool :=
  isComma token || Predicate.separates .or token || Predicate.separates .and token
    || token.kind == .relation

-----------------------------------------------------------------------------------------
-- Arguments
-----------------------------------------------------------------------------------------

/-- Rows that can be an argument of a call. -/
structure IsArgument (row : List Token) : Prop where
  nonempty : row ≠ []
  nested : Nested isComma row

theorem balanced_arguments {arguments : List (List Token)}
    (all : ∀ row ∈ arguments, IsArgument row)
    : Balanced ([mark .comma].intercalate arguments) := by
  induction arguments with
  | nil => exact .nil
  | cons row others ih =>
      have first := (all row (by simp)).nested.balanced
      cases others with
      | nil => simpa using first
      | cons next others =>
          have later := ih fun row member => all row (by simp [member])
          rw [List.intercalate_cons_cons]
          exact (first.append (.single rfl rfl rfl)).append later

/-- Rows with commas between them are cut at these commas, by induction on the rows. -/
theorem parts_arguments {row : List Token} {others : List (List Token)}
    (all : ∀ argument ∈ row :: others, IsArgument argument)
    : (partition isComma ([mark .comma].intercalate (row :: others))).parts = row :: others := by
  induction others generalizing row with
  | nil => rw [List.intercalate_singleton, partition_eq (all row (by simp)).nested]; rfl
  | cons next others ih =>
      have later := ih fun argument member => all argument (List.mem_cons_of_mem row member)
      rw [List.intercalate_cons_cons, List.append_assoc,
        partition_nested (all row (by simp)).nested, List.singleton_append,
        partition_separator rfl rfl rfl]
      simpa [Partition.parts, Partition.pushAll, Partition.separate] using later

/-- A call is taken apart into its arguments. -/
theorem call?_call {arguments : List (List Token)} (function : String)
    (all : ∀ row ∈ arguments, IsArgument row)
    : call? (call function arguments) = some (function, arguments) := by
  have parts : call? (call function arguments) = some (function,
      if [mark .comma].intercalate arguments = [] then []
      else (partition isComma ([mark .comma].intercalate arguments)).parts) :=
    call?_group (balanced_arguments all)
  rw [parts]
  cases arguments with
  | nil => rfl
  | cons row others =>
      have some : [mark .comma].intercalate (row :: others) ≠ [] := by
        have first := (all row (by simp)).nonempty
        cases others with
        | nil => simpa using first
        | cons next others => simp [List.intercalate_cons_cons]
      rw [if_neg some, parts_arguments all]

theorem nested_call {arguments : List (List Token)} {function : String}
    (plain : isSeparator (word function) = false) (all : ∀ row ∈ arguments, IsArgument row)
    : Nested isSeparator (call function arguments) :=
  .plain rfl rfl plain (.group rfl (balanced_arguments all) .nil)

theorem isArgument_single {token : Token} (noOpener : token.kind.isOpener = false)
    (noCloser : token.kind.isCloser = false) (other : isComma token = false)
    : IsArgument [token] :=
  ⟨by simp, .single noOpener noCloser other⟩

theorem isArgument_literal {literal : Literal} {token : Token} (spelled : literal.Spelled token)
    : IsArgument [token] := by
  cases spelled <;> exact isArgument_single rfl rfl rfl

theorem isArgument_attributeOf (name : String) : IsArgument (attributeOf name) :=
  ⟨by simp [attributeOf], .plain rfl rfl rfl (.single rfl rfl rfl)⟩

theorem OwnText.nested {source : List Token} (own : OwnText source) : Nested divides source := by
  cases own with
  | dot => exact .single rfl rfl rfl
  | text => exact nested_call rfl (by simp)

theorem isComma_divides (token : Token) (comma : isComma token = true) : divides token = true := by
  simp [divides, comma]

theorem OwnText.isArgument {source : List Token} (own : OwnText source) : IsArgument source where
  nonempty := by cases own <;> simp [call]
  nested := own.nested.mono isComma_divides

theorem OwnText.isTextSource {source : List Token} (own : OwnText source)
    : Predicate.isTextSource source = true := by
  cases own with
  | dot => rfl
  | text => rfl

theorem OwnText.isAttribute {source : List Token} (own : OwnText source)
    : Predicate.isAttribute source = false := by
  cases own <;> rfl

theorem OwnArguments.isArgument {arguments : List (List Token)} (own : OwnArguments arguments)
    : ∀ row ∈ arguments, IsArgument row := by
  cases own with
  | none => simp
  | single own => simpa using own.isArgument

theorem OwnArguments.takesOwnText {arguments : List (List Token)} (own : OwnArguments arguments)
    : Predicate.takesOwnText arguments = true := by
  cases own with
  | none => rfl
  | single own => exact own.isTextSource

theorem IsOperandName.divides {name : String} (named : IsOperandName name)
    : divides (word name) = false := by
  have noOr := named.2 .or
  have noAnd := named.2 .and
  simp [Token.divides, isKeyword, word, noOr, noAnd]

-----------------------------------------------------------------------------------------
-- Rows of operands
-----------------------------------------------------------------------------------------

theorem parenthesized?_other {row : List Token}
    (other : row.head?.map Token.kind ≠ some .openParen)
    : parenthesized? row = none := by
  unfold parenthesized?
  split
  · exact (other rfl).elim
  · rfl

/-- A group at the front is not the whole row where something else stands behind it. -/
theorem parenthesized?_append {row : List Token} {token : Token} (balanced : Balanced row)
    (noOpener : token.kind ≠ .openParen) (rest : List Token)
    : parenthesized? (row ++ token :: rest) = none := by
  cases balanced with
  | nil => exact parenthesized?_other (by simpa using noOpener)
  | @plain _ first _ plain =>
      refine parenthesized?_other ?_
      intro opens
      obtain opens : first.kind = .openParen := by simpa using opens
      rw [opens] at plain
      cases plain
  | @group _ opener inner closer behind pair inside =>
      by_cases opens : opener.kind = .openParen
      · have closes := closing?_group pair inside (behind ++ token :: rest)
        obtain ⟨start, kind, sign⟩ := opener
        obtain rfl : kind = .openParen := opens
        rw [List.cons_append, List.append_assoc, List.cons_append, parenthesized?, closes,
          if_neg]
        simp only [List.length_append, List.length_cons, Option.some.injEq]
        omega
      · exact parenthesized?_other (by simpa using opens)

end Token

namespace Predicate

/-- What has no connective outside of its groups is read as an operand. -/
theorem read_uncut {row : List Token}
    (uncut : ∀ connective, Nested (separates connective) row)
    : read row = readOperand row := by
  rw [read_eq, partition_eq (uncut .or), partition_eq (uncut .and)]
  simp

theorem atom?_long {row : List Token} (long : 3 ≤ row.length) : atom? row = none := by
  unfold atom?
  split
  all_goals first | rfl | simp at long

theorem atom?_of_relation {row : List Token} {token : Token} (member : token ∈ row)
    (compares : token.kind = .relation)
    : atom? row = none := by
  unfold atom?
  split
  case h_4 => rfl
  all_goals grind

/-- A call that is no side of a comparison is read as such. -/
theorem readOperand_call {arguments : List (List Token)} (function : String)
    (all : ∀ row ∈ arguments, IsArgument row)
    : readOperand (call function arguments) = readCall function arguments := by
  have long : 3 ≤ (call function arguments).length := by simp [call]
  have uncut : partition (fun token => token.kind == .relation) (call function arguments)
      = ⟨call function arguments, []⟩ :=
    partition_eq (nested_call rfl all)
  rw [readOperand, atom?_long long, parenthesized?_other (by simp [call, word])]
  simp only [uncut, call?_call function all]

/-- Parentheses around a predicate are dropped. -/
theorem readOperand_group {isSeparator : Token → Bool} {row : List Token} (nonempty : row ≠ [])
    (nested : Nested isSeparator row)
    : readOperand (mark .openParen :: (row ++ [mark .closeParen])) = read row := by
  have long : 3 ≤ (mark .openParen :: (row ++ [mark .closeParen])).length := by
    have some := List.length_pos_iff.mpr nonempty
    simp only [List.length_cons, List.length_append, List.length_nil]
    omega
  have inside : parenthesized? (mark .openParen :: (row ++ [mark .closeParen])) = some row :=
    parenthesized?_group nested
  rw [readOperand, atom?_long long]
  simp only [inside]

/-- Whether a token stands between the sides of a comparison. -/
abbrev isRelation (token : Token) : Bool :=
  token.kind == .relation

/-- A comparison is cut at its relation. -/
theorem readOperand_cut {left right : List Token} {sign : Token} (uncut : Nested isRelation left)
    (last : Nested isRelation right) (compares : sign.kind = .relation)
    : readOperand (left ++ sign :: right) = readComparison left sign right := by
  have noAtom : atom? (left ++ sign :: right) = none := atom?_of_relation (by simp) compares
  have noGroup : parenthesized? (left ++ sign :: right) = none :=
    parenthesized?_append uncut.balanced (by simp [compares]) right
  have cut : partition isRelation (left ++ sign :: right) = ⟨left, [(sign, right)]⟩ := by
    rw [partition_extend uncut.balanced (by simp [compares]; rfl) (by simp [compares]; rfl)
      (by simp [compares]) last, partition_eq uncut]
    rfl
  rw [readOperand, noAtom, noGroup]
  simp only [cut]

/-- Whether a token ends the side of a comparison, unless it is in a group. -/
def endsSide (token : Token) : Bool :=
  isRelation token || separates .or token || separates .and token

theorem divides_of_endsSide (token : Token) (ends : endsSide token = true)
    : divides token = true := by
  unfold endsSide at ends
  unfold divides
  grind

/-- A comparison has no connective outside of its groups and is cut at its relation. -/
theorem read_cut {left right : List Token} {sign : Token} (first : Nested endsSide left)
    (second : Nested endsSide right) (compares : sign.kind = .relation)
    : read (left ++ sign :: right) = readComparison left sign right := by
  have uncut (connective : Connective) : Nested (separates connective) (left ++ sign :: right) := by
    have within (token : Token) (word : separates connective token = true)
        : endsSide token = true := by
      cases connective <;> simp [endsSide, word]
    refine (first.mono within).append (.plain ?_ ?_ ?_ (second.mono within))
    · rw [compares]
      rfl
    · rw [compares]
      rfl
    · simp [isKeyword, compares]
  have related (token : Token) (relation : isRelation token = true) : endsSide token = true := by
    simp [endsSide, relation]
  rw [read_uncut uncut, readOperand_cut (first.mono related) (second.mono related) compares]

theorem nested_literal {literal : Token} (known : literal.kind = .string ∨ literal.kind = .number)
    : Nested endsSide [literal] := by
  refine .single ?_ ?_ ?_
  all_goals rcases known with known | known <;> simp [endsSide, isKeyword, known]
  all_goals rfl

theorem ofTokens?_literal {token : Token} (known : token.kind = .string ∨ token.kind = .number)
    : ∃ literal, Literal.ofTokens? [token] = some literal := by
  obtain ⟨position, kind, text⟩ := token
  rcases known with known | known
  all_goals
    cases known
    exact ⟨_, rfl⟩

theorem literal_of_ofTokens? {tokens : List Token} {literal : Literal}
    (found : Literal.ofTokens? tokens = some literal)
    : ∃ token, tokens = [token] ∧ (token.kind = .string ∨ token.kind = .number) := by
  unfold Literal.ofTokens? at found
  split at found
  · exact ⟨_, rfl, .inl rfl⟩
  · exact ⟨_, rfl, .inr rfl⟩
  · cases found

@[simp] theorem ofText?_text (relation : Relation)
    : Relation.ofText? relation.text = some relation := by
  cases relation <;> rfl

/-- A comparison is read from what stands in front of its literal. -/
theorem read_literal_right {subject : List Token} {literal : Token} {value : Literal}
    (nested : Nested endsSide subject) (nonempty : subject ≠ [])
    (found : Literal.ofTokens? [literal] = some value) (relation : Relation) (position : Nat)
    : read (subject ++ [⟨position, .relation, relation.text⟩, literal])
      = readSubject subject relation value := by
  obtain ⟨_, ⟨⟩, known⟩ := literal_of_ofTokens? found
  rw [read_cut nested (nested_literal known) rfl]
  simp [readComparison, found, nonempty]

/-- A comparison is read from what stands behind its literal, with the relation swapped. -/
theorem read_literal_left {subject : List Token} {literal : Token} {value : Literal}
    (nested : Nested endsSide subject) (nonempty : subject ≠ [])
    (other : Literal.ofTokens? subject = none) (found : Literal.ofTokens? [literal] = some value)
    (relation : Relation) (position : Nat)
    : read (literal :: ⟨position, .relation, relation.text⟩ :: subject)
      = readSubject subject relation.swapped value := by
  obtain ⟨_, ⟨⟩, known⟩ := literal_of_ofTokens? found
  have cut : read ([literal] ++ ⟨position, .relation, relation.text⟩ :: subject)
      = readComparison [literal] ⟨position, .relation, relation.text⟩ subject :=
    read_cut (nested_literal known) nested rfl
  rw [← List.singleton_append, cut]
  simp [readComparison, found, other, nonempty]

/-- A subject is compared with the literal behind it. -/
theorem readOperand_comparison {subject : List Token} {literal : Literal} {token : Token}
    (nonempty : subject ≠ []) (nested : Nested divides subject) (relation : Relation)
    (spelled : literal.Spelled token)
    : readOperand (subject ++ [sign relation, token]) = readSubject subject relation literal := by
  have uncut : Nested isRelation subject := nested.mono fun token same => by simp_all [divides]
  have last : Nested isRelation [token] := by
    cases spelled <;> exact .single rfl rfl rfl
  have known : Relation.ofText? (sign relation).text = some relation := ofText?_text relation
  rw [readOperand_cut uncut last rfl, readComparison, if_neg (by simp [nonempty])]
  simp only [known, spelled.ofTokens?]

-----------------------------------------------------------------------------------------
-- Comparisons
-----------------------------------------------------------------------------------------

@[simp] theorem equality_relation (value : Equality) : equality value.relation = .ok value := by
  cases value <;> rfl

/-- A subject that is a call other than `text()` is compared as that call. -/
theorem readSubject_call {arguments : List (List Token)} {function : String}
    (other : function ≠ "text") (all : ∀ row ∈ arguments, IsArgument row) (relation : Relation)
    (literal : Literal)
    : readSubject (call function arguments) relation literal
      = readCallComparison function arguments relation literal := by
  have noAttribute : isAttribute (call function arguments) = false := by
    simp [isAttribute, call, word]
  have noText : isTextSource (call function arguments) = false := by
    rw [isTextSource, call?_call function all]
    · simpa using fun same => (other same).elim
    · simp [call, word]
  rw [readSubject_other noAttribute, readSource, noText, call?_call function all]
  rfl

/-- What every subject of a comparison is like. -/
structure IsSubject (row : List Token) : Prop where
  nonempty : row ≠ []
  nested : Nested divides row

theorem isSubject_call {arguments : List (List Token)} {function : String}
    (plain : divides (word function) = false) (all : ∀ row ∈ arguments, IsArgument row)
    : IsSubject (call function arguments) where
  nonempty := by simp [call]
  nested := nested_call plain all

/-- A call is a subject, and it is compared as such. -/
theorem reads_call {function : String} {arguments : List (List Token)} {relation : Relation}
    {literal : Literal} {predicate : Predicate} (plain : divides (word function) = false)
    (other : function ≠ "text") (all : ∀ row ∈ arguments, IsArgument row)
    (compared : readCallComparison function arguments relation literal = .ok predicate)
    : IsSubject (call function arguments)
      ∧ readSubject (call function arguments) relation literal = .ok predicate :=
  ⟨isSubject_call plain all, (readSubject_call other all relation literal).trans compared⟩

/-- The functions whose own text is compared whole, or not as a text. -/
def wholeFunctions : List String :=
  ["text", "position", "count", "string-length", "normalize-space"]

/-- A function that takes a part of the own text is compared as that part. -/
theorem reads_part {function : String} {source : List Token} {others : List (List Token)}
    {equality : Equality} {literal : Literal} {predicate : Predicate}
    (plain : divides (word function) = false) (partial' : function ∉ wholeFunctions)
    (own : OwnText source) (all : ∀ row ∈ others, IsArgument row)
    (part : readTextPart function others equality literal.asText = .ok predicate)
    : IsSubject (call function (source :: others))
      ∧ readSubject (call function (source :: others)) equality.relation literal
        = .ok predicate := by
  simp only [wholeFunctions, List.mem_cons, List.not_mem_nil, or_false, not_or] at partial'
  obtain ⟨noText, noPosition, noCount, noLength, noSpace⟩ := partial'
  refine reads_call plain noText (by simpa using ⟨own.isArgument, all⟩) ?_
  simp only [readCallComparison, noPosition, noCount, noLength, noSpace, false_and, if_false,
    own.isTextSource, if_true, equality_relation]
  exact part

end Predicate

open Predicate

/-- What compares is a subject, and its comparison is read back; one case per kind of subject. -/
theorem Compares.reads {subject : List Token} {relation : Relation} {literal : Literal}
    {predicate : Predicate} (compares : Compares subject relation literal predicate)
    : IsSubject subject ∧ readSubject subject relation literal = .ok predicate := by
  cases compares with
  | position => exact reads_call rfl (by decide) (by simp) rfl
  | @count name relation value named =>
      have single : IsArgument [word name] := isArgument_single rfl rfl rfl
      exact reads_call rfl (by decide) (by simpa using single) rfl
  | textLength own =>
      apply reads_call rfl (by decide) own.isArgument
      simp [readCallComparison, own.takesOwnText]
      rfl
  | attributeIs named equality =>
      refine ⟨⟨by simp [attributeOf], ?_⟩, ?_⟩
      · exact .plain rfl rfl rfl (.single rfl rfl named.divides)
      · simp only [attributeOf, mark, word, readSubject, equality_relation]
        rfl
  | textIs own equality =>
      refine ⟨⟨own.isArgument.nonempty, own.nested⟩, ?_⟩
      rw [readSubject_other own.isAttribute, readSource, own.isTextSource, if_pos rfl,
        equality_relation]
      rfl
  | normalized own equality =>
      apply reads_call rfl (by decide) own.isArgument
      simp [readCallComparison, own.takesOwnText]
      rfl
  | substring own begins equality =>
      refine reads_part rfl (by decide) own
        (by simpa using isArgument_literal begins) ?_
      simp only [readTextPart, begins.integerArgument]
      rfl
  | substringOf own begins ends equality =>
      refine reads_part rfl (by decide) own
        (by simpa using ⟨isArgument_literal begins, isArgument_literal ends⟩) ?_
      simp only [readTextPart, begins.integerArgument, ends.integerArgument]
      rfl
  | substringAfter own cut equality =>
      apply reads_part rfl (by decide) own (by simpa using isArgument_literal cut)
      simp only [readTextPart, cut.textArgument]
      rfl
  | substringBefore own cut equality =>
      apply reads_part rfl (by decide) own (by simpa using isArgument_literal cut)
      simp only [readTextPart, cut.textArgument]
      rfl
  | translated own first second equality =>
      refine reads_part rfl (by decide) own
        (by simpa using ⟨isArgument_literal first, isArgument_literal second⟩) ?_
      simp only [readTextPart, first.textArgument, second.textArgument]
      rfl

end HtmlQuery.XPath
