import HtmlQuery.Proofs.Decimal.Overflow
import HtmlQuery.Proofs.XPath.ComparisonSpelling

/-! Predicates that are neither read nor refused: reading them reaches an integer that is too large to
be held. No other predicate is a fault.
-/

namespace HtmlQuery.XPath

open Token (Balanced)

-----------------------------------------------------------------------------------------
-- Failing computations
-----------------------------------------------------------------------------------------

/-- A computation fails where its first part does, or behind it. -/
theorem bind_eq_error {ε α β : Type} {first : Except ε α} {next : α → Except ε β} {error : ε}
    : (first >>= next) = .error error
      ↔ first = .error error ∨ ∃ value, first = .ok value ∧ next value = .error error := by
  cases first <;> simp [bind, Except.bind]

/-- A computation succeeds where both of its parts do. -/
theorem bind_eq_ok {ε α β : Type} {first : Except ε α} {next : α → Except ε β} {result : β}
    : (first >>= next) = .ok result ↔ ∃ value, first = .ok value ∧ next value = .ok result := by
  cases first <;> simp [bind, Except.bind]

theorem map_eq_error {ε α β : Type} {result : Except ε α} {f : α → β} {error : ε}
    : result.map f = .error error ↔ result = .error error := by
  cases result <;> simp [Except.map]

/-- What fails among several is the first that does, by induction on them. -/
theorem mapM_eq_error {ε α β : Type} {f : α → Except ε β} {items : List α} {error : ε}
    : items.mapM f = .error error
      ↔ ∃ before item after,
        items = before ++ item :: after
        ∧ (∀ other ∈ before, ∃ value, f other = .ok value)
        ∧ f item = .error error := by
  induction items with
  | nil => simp [pure, Except.pure]
  | cons first rest ih =>
      rw [List.mapM_cons, bind_eq_error]
      constructor
      · rintro (fails | ⟨value, some, fails⟩)
        · exact ⟨[], first, rest, rfl, by simp, fails⟩
        · rcases bind_eq_error.mp fails with later | ⟨_, _, last⟩
          · obtain ⟨before, item, after, rfl, known, fails⟩ := ih.mp later
            exact ⟨first :: before, item, after, rfl, by simpa using ⟨⟨value, some⟩, known⟩, fails⟩
          · cases last
      · rintro ⟨before, item, after, shape, known, fails⟩
        cases before with
        | nil =>
            obtain ⟨rfl, rfl⟩ := List.cons.inj shape
            exact .inl fails
        | cons other before =>
            obtain ⟨rfl, rfl⟩ := List.cons.inj shape
            obtain ⟨value, some⟩ := known first (by simp)
            refine .inr ⟨value, some, bind_eq_error.mpr (.inl (ih.mpr ?_))⟩
            exact ⟨before, item, after, rfl, fun other member => known other (by simp [member]), fails⟩

-----------------------------------------------------------------------------------------
-- Numbers that are too large
-----------------------------------------------------------------------------------------

namespace Number

/-- The digits of a literal in front of its point. -/
def wholeDigits (literal : String) : List Char :=
  literal.toList.takeWhile (· != '.')

/-- The digits of a literal behind its point. -/
def fractionDigits (literal : String) : List Char :=
  (literal.toList.dropWhile (· != '.')).drop 1

/-- Whether a literal denotes more than numbers can hold. -/
def IsTooLarge (literal : String) : Prop :=
  Decimal.overflow * Decimal.tenToThe (fractionDigits literal).length
    ≤ Text.digitsValue (wholeDigits literal ++ fractionDigits literal)

theorem read_eq_infinite {literal : String} : read literal = .infinite ↔ IsTooLarge literal :=
  Decimal.Magnitude.nearest_eq_infinite (Nat.pow_pos (by decide))

end Number

namespace Predicate

/-- Arguments of `substring` of which the start or else the length is too large. -/
inductive Overflowing : List (List Token) → Prop
  | start {source position literal others} (own : isTextSource source = true)
    (large : Number.IsTooLarge literal) (few : others.length ≤ 1)
    : Overflowing (source :: [⟨position, .number, literal⟩] :: others)
  | length {source position start place literal} (own : isTextSource source = true)
    (large : Number.IsTooLarge literal)
    : Overflowing [source, [⟨position, .number, start⟩], [⟨place, .number, literal⟩]]

/-- A call of `substring` that demands an integer too large. -/
def OverflowingCall (tokens : List Token) : Prop :=
  ∃ arguments, Token.call? tokens = some ("substring", arguments) ∧ Overflowing arguments

/-- Predicates in which reading reaches an integer too large. -/
inductive Overflows : List Token → Prop
  | operand {connective tokens before part after}
    (level : connective = .and → (Token.partition (separates .or) tokens).others = [])
    (cut : (Token.partition (separates connective) tokens).parts = before ++ part :: after)
    (several : before ++ after ≠ []) (full : [] ∉ before ++ part :: after)
    (known : ∀ other ∈ before, ∃ predicate, read other = .ok predicate) (inside : Overflows part)
    : Overflows tokens
  | parenthesized {tokens inner} (group : Token.parenthesized? tokens = some inner)
    (inside : Overflows inner)
    : Overflows tokens
  | negated {tokens argument} (called : Token.call? tokens = some ("not", [argument]))
    (inside : Overflows argument)
    : Overflows tokens
  | compared {left sign right literal} (compares : sign.kind = .relation)
    (equality : sign.text = "=" ∨ sign.text = "!=")
    (known : literal.kind = .string ∨ literal.kind = .number)
    (sides : OverflowingCall left ∧ right = [literal] ∨ OverflowingCall right ∧ left = [literal])
    : Overflows (left ++ sign :: right)

-----------------------------------------------------------------------------------------
-- Faults of comparisons
-----------------------------------------------------------------------------------------

variable {fault : Fault}

/-- Nothing fails behind a part that doesn't. -/
theorem bind_ok_ne_fault {α β : Type} {first : Except Refusal α}
    (never : first ≠ .error (.fault fault)) (next : α → β)
    : (first >>= fun value => .ok (next value)) ≠ .error (.fault fault) := by
  cases first with
  | ok value => simp [bind, Except.bind]
  | error refusal => simpa [bind, Except.bind] using never

theorem textArgument_ne_fault (tokens : List Token)
    : textArgument tokens ≠ .error (.fault fault) := by
  unfold textArgument
  split <;> simp

theorem equality_ne_fault (relation : Relation) : equality relation ≠ .error (.fault fault) := by
  cases relation <;> simp [equality, Equality.ofRelation?]

theorem asNumber_ne_fault (literal : Literal) : literal.asNumber ≠ .error (.fault fault) := by
  cases literal <;> simp [Literal.asNumber]

theorem equality_eq_ok {relation : Relation}
    : (∃ value, equality relation = .ok value) ↔ relation = .equal ∨ relation = .unequal := by
  cases relation <;> simp [equality, Equality.ofRelation?]

/-- An integer that is too large is a fault, and any other number an integer. -/
theorem integerArgument_number (position : Nat) (literal : String)
    : Number.IsTooLarge literal
        ∧ integerArgument [⟨position, .number, literal⟩] = .error (.fault .infiniteInteger)
      ∨ ¬Number.IsTooLarge literal
        ∧ ∃ value, integerArgument [⟨position, .number, literal⟩] = .ok value := by
  rw [← Number.read_eq_infinite]
  cases value : Number.read literal with
  | finite numerator halvings => exact .inr ⟨by simp, _, by rw [integerArgument, value]; rfl⟩
  | infinite => exact .inl ⟨rfl, by rw [integerArgument, value]; rfl⟩

theorem integerArgument_eq_fault {tokens : List Token}
    (found : integerArgument tokens = .error (.fault fault))
    : fault = .infiniteInteger
      ∧ ∃ position literal, tokens = [⟨position, .number, literal⟩] ∧ Number.IsTooLarge literal := by
  by_cases number : ∃ position literal, tokens = [⟨position, .number, literal⟩]
  · obtain ⟨position, literal, rfl⟩ := number
    rcases integerArgument_number position literal with ⟨large, fails⟩ | ⟨-, value, reads⟩
    · rw [fails] at found
      cases found
      exact ⟨rfl, position, literal, rfl, large⟩
    · rw [reads] at found
      cases found
  · unfold integerArgument at found
    split at found
    · exact (number ⟨_, _, rfl⟩).elim
    · cases found

theorem integerArgument_eq_ok {tokens : List Token} {value : Nat}
    (found : integerArgument tokens = .ok value)
    : ∃ position literal, tokens = [⟨position, .number, literal⟩] := by
  unfold integerArgument at found
  split at found
  · exact ⟨_, _, rfl⟩
  · cases found

theorem readTextPart_eq_fault {function : String} {source : List Token}
    {arguments : List (List Token)} (own : isTextSource source = true) {equality : Equality}
    {value : String}
    : readTextPart function arguments equality value = .error (.fault fault)
      ↔ fault = .infiniteInteger ∧ function = "substring" ∧ Overflowing (source :: arguments) := by
  constructor
  · intro found
    unfold readTextPart at found
    split at found
    · rename_i start
      rcases bind_eq_error.mp found with first | ⟨_, _, next⟩
      · obtain ⟨rfl, position, literal, rfl, large⟩ := integerArgument_eq_fault first
        exact ⟨rfl, rfl, .start own large (by simp)⟩
      · cases next
    · rename_i start length
      rcases bind_eq_error.mp found with first | ⟨_, some, next⟩
      · obtain ⟨rfl, position, literal, rfl, large⟩ := integerArgument_eq_fault first
        exact ⟨rfl, rfl, .start own large (by simp)⟩
      · rcases bind_eq_error.mp next with second | ⟨_, _, last⟩
        · obtain ⟨position, start, rfl⟩ := integerArgument_eq_ok some
          obtain ⟨rfl, place, literal, rfl, large⟩ := integerArgument_eq_fault second
          exact ⟨rfl, rfl, .length own large⟩
        · cases last
    · exact (bind_ok_ne_fault (textArgument_ne_fault _) _ found).elim
    · exact (bind_ok_ne_fault (textArgument_ne_fault _) _ found).elim
    · rcases bind_eq_error.mp found with first | ⟨_, _, next⟩
      · exact (textArgument_ne_fault _ first).elim
      · exact (bind_ok_ne_fault (textArgument_ne_fault _) _ next).elim
    · cases found
  · rintro ⟨rfl, rfl, overflowing⟩
    cases overflowing with
    | @start _ position literal others _ large few =>
        rcases integerArgument_number position literal with ⟨-, fails⟩ | ⟨fits, -⟩
        · rcases others with - | ⟨length, - | ⟨more, others⟩⟩
          · exact bind_eq_error.mpr (.inl fails)
          · exact bind_eq_error.mpr (.inl fails)
          · simp at few
        · exact (fits large).elim
    | @length _ position start place literal _ large =>
        rcases integerArgument_number position start with ⟨-, fails⟩ | ⟨-, value, reads⟩
        · exact bind_eq_error.mpr (.inl fails)
        · rcases integerArgument_number place literal with ⟨-, fails⟩ | ⟨fits, -⟩
          · exact bind_eq_error.mpr (.inr ⟨value, reads, bind_eq_error.mpr (.inl fails)⟩)
          · exact (fits large).elim

theorem Overflowing.source {arguments : List (List Token)} (overflowing : Overflowing arguments)
    : ∃ source others, arguments = source :: others ∧ isTextSource source = true := by
  cases overflowing with
  | start own => exact ⟨_, _, rfl, own⟩
  | length own => exact ⟨_, _, rfl, own⟩

theorem readCallComparison_eq_fault {function : String} {arguments : List (List Token)}
    {relation : Relation} {literal : Literal}
    : readCallComparison function arguments relation literal = .error (.fault fault)
      ↔ fault = .infiniteInteger
        ∧ function = "substring" ∧ Overflowing arguments
        ∧ (relation = .equal ∨ relation = .unequal) := by
  constructor
  · intro found
    unfold readCallComparison at found
    split at found
    · exact (bind_ok_ne_fault (asNumber_ne_fault _) _ found).elim
    · split at found
      · split at found
        · exact (bind_ok_ne_fault (asNumber_ne_fault _) _ found).elim
        · cases found
      · split at found
        · exact (bind_ok_ne_fault (asNumber_ne_fault _) _ found).elim
        · split at found
          · exact (bind_ok_ne_fault (equality_ne_fault _) _ found).elim
          · split at found
            · split at found
              · rename_i own
                rcases bind_eq_error.mp found with first | ⟨value, compares, next⟩
                · exact (equality_ne_fault _ first).elim
                · obtain ⟨rfl, rfl, overflowing⟩ := (readTextPart_eq_fault own).mp next
                  exact ⟨rfl, rfl, overflowing, equality_eq_ok.mp ⟨value, compares⟩⟩
              · cases found
            · cases found
  · rintro ⟨rfl, rfl, overflowing, compares⟩
    obtain ⟨value, known⟩ := equality_eq_ok.mpr compares
    obtain ⟨source, others, rfl, own⟩ := overflowing.source
    have part : readTextPart "substring" others value literal.asText
        = .error (.fault .infiniteInteger) :=
      (readTextPart_eq_fault own).mpr ⟨rfl, rfl, overflowing⟩
    have other : readCallComparison "substring" (source :: others) relation literal
        = equality relation >>= fun value =>
          readTextPart "substring" others value literal.asText := by
      simp [readCallComparison, own]
    rw [other]
    exact bind_eq_error.mpr (.inr ⟨value, known, part⟩)

theorem readSubject_eq_fault {subject : List Token} {relation : Relation} {literal : Literal}
    : readSubject subject relation literal = .error (.fault fault)
      ↔ fault = .infiniteInteger
        ∧ OverflowingCall subject ∧ (relation = .equal ∨ relation = .unequal) := by
  constructor
  · intro found
    unfold readSubject at found
    split at found
    · exact (bind_ok_ne_fault (equality_ne_fault _) _ found).elim
    · split at found
      · exact (bind_ok_ne_fault (equality_ne_fault _) _ found).elim
      · split at found
        · rename_i function arguments called
          obtain ⟨rfl, rfl, overflowing, compares⟩ := readCallComparison_eq_fault.mp found
          exact ⟨rfl, ⟨arguments, called, overflowing⟩, compares⟩
        · cases found
  · rintro ⟨rfl, ⟨arguments, called, overflowing⟩, compares⟩
    obtain ⟨position, rest, shape, -, -⟩ := Token.nested_of_call? called fun _ => false
    have noAttribute : isAttribute subject = false := by simp [shape, isAttribute]
    have noText : isTextSource subject = false := by
      unfold isTextSource
      split
      · cases shape
      · simp [called]
    rw [readSubject_other noAttribute, readSource, noText, called]
    exact readCallComparison_eq_fault.mpr ⟨rfl, rfl, overflowing, compares⟩

theorem text_of_ofText? {text : String} {relation : Relation}
    (found : Relation.ofText? text = some relation)
    : text = relation.text := by
  unfold Relation.ofText? at found
  split at found <;> cases found
  all_goals rfl

/-- The signs of equality compare texts, also when the sides change places. -/
theorem equality_of_text {text : String} {relation : Relation}
    (found : Relation.ofText? text = some relation)
    : ((relation = .equal ∨ relation = .unequal) ↔ text = "=" ∨ text = "!=")
      ∧ ((relation.swapped = .equal ∨ relation.swapped = .unequal) ↔ text = "=" ∨ text = "!=") := by
  rw [text_of_ofText? found]
  cases relation <;> decide

/-- A call is no literal, nor is it empty. -/
theorem OverflowingCall.other {subject : List Token} (call : OverflowingCall subject)
    : subject ≠ [] ∧ Literal.ofTokens? subject = none := by
  obtain ⟨arguments, called, -⟩ := call
  obtain ⟨position, rest, rfl, long, -⟩ := Token.nested_of_call? called fun _ => false
  refine ⟨by simp, ?_⟩
  cases literal : Literal.ofTokens? (⟨position, .name, "substring"⟩ :: rest) with
  | none => rfl
  | some literal =>
      obtain ⟨token, single, -⟩ := literal_of_ofTokens? ‹_›
      cases single
      cases long

theorem readComparison_eq_fault {left right : List Token} {sign : Token}
    : readComparison left sign right = .error (.fault fault)
      ↔ fault = .infiniteInteger
        ∧ (sign.text = "=" ∨ sign.text = "!=")
        ∧ ∃ literal : Token,
          (literal.kind = .string ∨ literal.kind = .number)
          ∧ (OverflowingCall left ∧ right = [literal] ∨ OverflowingCall right ∧ left = [literal]) := by
  constructor
  · intro found
    unfold readComparison at found
    split at found
    · cases found
    · split at found
      · cases found
      · rename_i relation known
        obtain ⟨straight, swapped⟩ := equality_of_text known
        split at found
        · rename_i value literal
          obtain ⟨token, rfl, kind⟩ := literal_of_ofTokens? literal
          obtain ⟨rfl, call, compares⟩ := readSubject_eq_fault.mp found
          exact ⟨rfl, straight.mp compares, token, kind, .inl ⟨call, rfl⟩⟩
        · rename_i value _ literal
          obtain ⟨token, rfl, kind⟩ := literal_of_ofTokens? literal
          obtain ⟨rfl, call, compares⟩ := readSubject_eq_fault.mp found
          exact ⟨rfl, swapped.mp compares, token, kind, .inr ⟨call, rfl⟩⟩
        · cases found
  · rintro ⟨rfl, equality, token, kind, sides⟩
    obtain ⟨relation, known⟩ : ∃ relation, Relation.ofText? sign.text = some relation := by
      rcases equality with sign | sign <;> exact ⟨_, by rw [sign]; rfl⟩
    obtain ⟨straight, swapped⟩ := equality_of_text known
    obtain ⟨value, literal⟩ := ofTokens?_literal kind
    rcases sides with ⟨call, rfl⟩ | ⟨call, rfl⟩
    · rw [readComparison, if_neg (by simp [call.other.1])]
      simp only [known, literal]
      exact readSubject_eq_fault.mpr ⟨rfl, call, straight.mpr equality⟩
    · rw [readComparison, if_neg (by simp [call.other.1])]
      simp only [known, literal, call.other.2]
      exact readSubject_eq_fault.mpr ⟨rfl, call, swapped.mpr equality⟩

-----------------------------------------------------------------------------------------
-- Faults of predicates
-----------------------------------------------------------------------------------------

theorem joinAll_ne_fault (connective : Connective) (predicates : List Predicate)
    : joinAll connective predicates ≠ .error (.fault fault) := by
  cases predicates <;> simp [joinAll]

theorem any_isEmpty {α : Type} {rows : List (List α)}
    : rows.any List.isEmpty = true ↔ [] ∈ rows := by
  simp [List.any_eq_true, List.isEmpty_iff]

/-- The operands of a connective fail with the first one that isn't read, if none is missing. -/
theorem readOperands_eq_fault {connective : Connective} {partition : Partition}
    : readOperands connective partition = .error (.fault fault)
      ↔ [] ∉ partition.parts
        ∧ ∃ before part after,
          partition.parts = before ++ part :: after
          ∧ (∀ other ∈ before, ∃ predicate, read other = .ok predicate)
          ∧ read part = .error (.fault fault) := by
  rw [readOperands]
  split
  · rename_i empty
    simp [any_isEmpty.mp empty]
  · rename_i full
    rw [any_isEmpty] at full
    rw [bind_eq_error, mapM_eq_error]
    simp [full, joinAll_ne_fault]

theorem readStringTest_ne_fault (test : StringTest) (subject value : List Token)
    : readStringTest test subject value ≠ .error (.fault fault) := by
  unfold readStringTest
  split
  · exact bind_ok_ne_fault (textArgument_ne_fault _) _
  · split
    · exact bind_ok_ne_fault (textArgument_ne_fault _) _
    · simp

/-- Of all calls outside of comparisons, only a negation passes on what fails in it. -/
theorem readCall_eq_fault {function : String} {arguments : List (List Token)}
    : readCall function arguments = .error (.fault fault)
      ↔ function = "not" ∧ ∃ argument,
        arguments = [argument] ∧ read argument = .error (.fault fault) := by
  constructor
  · intro found
    unfold readCall at found
    split at found
    · cases found
    · rename_i argument
      rcases bind_eq_error.mp found with fails | ⟨_, _, next⟩
      · exact ⟨rfl, argument, rfl, fails⟩
      · cases next
    · split at found
      · exact (readStringTest_ne_fault _ _ _ found).elim
      · cases found
    · cases found
  · rintro ⟨rfl, argument, rfl, fails⟩
    exact bind_eq_error.mpr (.inl fails)

/-- A predicate of several operands fails with the first one that isn't read. -/
theorem overflows_of_operands {connective : Connective} {tokens : List Token}
    (level : connective = .and → (Token.partition (separates .or) tokens).others = [])
    (several : (Token.partition (separates connective) tokens).others ≠ [])
    (ih : ∀ part : List Token, part.length < tokens.length →
      read part = .error (.fault fault) → fault = .infiniteInteger ∧ Overflows part)
    (found : readOperands connective (Token.partition (separates connective) tokens)
      = .error (.fault fault))
    : fault = .infiniteInteger ∧ Overflows tokens := by
  obtain ⟨full, before, part, after, cut, known, fails⟩ := readOperands_eq_fault.mp found
  have member : part ∈ (Token.partition (separates connective) tokens).parts := by simp [cut]
  obtain ⟨rfl, inside⟩ := ih part (Token.length_lt_of_mem_parts several member) fails
  refine ⟨rfl, .operand level cut ?_ (cut ▸ full) known inside⟩
  intro alone
  obtain ⟨rfl, rfl⟩ := List.append_eq_nil_iff.mp alone
  simp [Partition.parts, several] at cut

/-- A fault of an operand is one of what it consists of, or of its comparison. -/
theorem overflows_of_operand {tokens : List Token}
    (ih : ∀ part : List Token, part.length < tokens.length →
      read part = .error (.fault fault) → fault = .infiniteInteger ∧ Overflows part)
    (found : readOperand tokens = .error (.fault fault))
    : fault = .infiniteInteger ∧ Overflows tokens := by
  unfold readOperand at found
  split at found
  · cases found
  · split at found
    · rename_i inner group
      have shorter := Token.length_of_parenthesized? group
      obtain ⟨rfl, inside⟩ := ih inner (by omega) found
      exact ⟨rfl, .parenthesized group inside⟩
    · obtain ⟨whole, separated⟩ :
          (Token.partitionFrom isRelation 0 tokens).whole = tokens ∧ _ :=
        Token.whole_partitionFrom 0 tokens
      simp only [Token.partition] at found
      split at found
      · rename_i sign right cut
        obtain ⟨rfl, equality, literal, known, sides⟩ := readComparison_eq_fault.mp found
        have compares : sign.kind = .relation := by simpa [cut] using separated
        rw [← whole, Partition.whole, cut, List.flatMap_singleton]
        exact ⟨rfl, .compared compares equality known sides⟩
      · cases found
      · split at found
        · rename_i function arguments called
          obtain ⟨rfl, argument, rfl, fails⟩ := readCall_eq_fault.mp found
          have shorter := Token.length_of_call? called (List.mem_singleton.mpr rfl)
          obtain ⟨rfl, inside⟩ := ih argument (by omega) fails
          exact ⟨rfl, .negated called inside⟩
        · cases found

/-- A fault of a predicate is an integer too large that is reached, by induction on the number of
tokens.
-/
theorem overflows_of_read {tokens : List Token} (found : read tokens = .error (.fault fault))
    : fault = .infiniteInteger ∧ Overflows tokens := by
  induction length : tokens.length using Nat.strongRecOn generalizing tokens with
  | ind length ih =>
      subst length
      have inner (part : List Token) (shorter : part.length < tokens.length)
          (fails : read part = .error (.fault fault))
          : fault = .infiniteInteger ∧ Overflows part :=
        ih part.length shorter fails rfl
      rw [read_eq] at found
      split at found
      · rename_i several
        exact overflows_of_operands (by simp) several inner found
      · rename_i noOr
        split at found
        · rename_i several
          exact overflows_of_operands (fun _ => not_not.mp noOr) several inner found
        · exact overflows_of_operand inner found

/-- A call is cut only where its name is. -/
theorem nested_of_called {tokens : List Token} {function : String} {arguments : List (List Token)}
    (called : Token.call? tokens = some (function, arguments)) {isSeparator : Token → Bool}
    (plain : ∀ position, isSeparator ⟨position, .name, function⟩ = false)
    : Token.Nested isSeparator tokens := by
  obtain ⟨position, rest, rfl, -, nested⟩ := Token.nested_of_call? called isSeparator
  exact .plain rfl rfl (plain position) nested

/-- A call that demands an integer too large fails when it is compared with a literal. -/
theorem read_compared {left right : List Token} {sign literal : Token}
    (compares : sign.kind = .relation) (equality : sign.text = "=" ∨ sign.text = "!=")
    (known : literal.kind = .string ∨ literal.kind = .number)
    (sides : OverflowingCall left ∧ right = [literal] ∨ OverflowingCall right ∧ left = [literal])
    : read (left ++ sign :: right) = .error (.fault .infiniteInteger) := by
  have nested : Token.Nested endsSide left ∧ Token.Nested endsSide right := by
    rcases sides with ⟨⟨arguments, called, -⟩, rfl⟩ | ⟨⟨arguments, called, -⟩, rfl⟩
    · exact ⟨nested_of_called called fun _ => rfl, nested_literal known⟩
    · exact ⟨nested_literal known, nested_of_called called fun _ => rfl⟩
  rw [read_cut nested.1 nested.2 compares]
  exact readComparison_eq_fault.mpr ⟨rfl, equality, literal, known, sides⟩

/-- Where an integer too large is reached, it is a fault of the whole predicate, by induction on how
it is reached.
-/
theorem Overflows.read_eq {tokens : List Token} (overflows : Overflows tokens)
    : read tokens = .error (.fault .infiniteInteger) := by
  induction overflows with
  | @operand connective tokens before part after level cut several full known _ ih =>
      have others : (Token.partition (separates connective) tokens).others ≠ [] := by
        intro none
        simp only [Partition.parts, none, List.map_nil] at cut
        have length := congrArg List.length cut
        have some := List.length_pos_iff.mpr several
        simp only [List.length_append, List.length_cons, List.length_nil] at length some
        omega
      have fails : readOperands connective (Token.partition (separates connective) tokens)
          = .error (.fault .infiniteInteger) :=
        readOperands_eq_fault.mpr ⟨cut ▸ full, before, part, after, cut, known, ih⟩
      rw [Predicate.read_eq]
      cases connective with
      | or => rw [if_pos others, fails]
      | and => rw [if_neg (not_not.mpr (level rfl)), if_pos others, fails]
  | @parenthesized tokens inner group _ ih =>
      obtain ⟨opener, closer, rfl, opens, closes, balanced⟩ := Token.group_of_parenthesized? group
      have pair : opener.kind.closer? = some closer.kind := by rw [opens, closes]; rfl
      have noAtom : atom? (opener :: (inner ++ [closer])) = none := by
        unfold atom?
        split <;> simp_all
      rw [read_uncut fun _ => .group pair balanced .nil, readOperand, noAtom]
      simp only [group, ih]
  | @negated tokens argument called _ ih =>
      have uncut (connective : Connective) : Token.Nested (separates connective) tokens :=
        nested_of_called called fun _ => by cases connective <;> rfl
      have unrelated : Token.partition isRelation tokens = ⟨tokens, []⟩ :=
        Token.partition_eq (nested_of_called called fun _ => rfl)
      obtain ⟨position, rest, shape, long, -⟩ := Token.nested_of_call? called isRelation
      have noAtom : atom? tokens = none := atom?_long (by rw [shape, List.length_cons]; omega)
      have noGroup : Token.parenthesized? tokens = none :=
        Token.parenthesized?_other (by simp [shape])
      rw [read_uncut uncut, readOperand, noAtom, noGroup]
      simp only [unrelated, called]
      exact readCall_eq_fault.mpr ⟨rfl, argument, rfl, ih⟩
  | compared compares equality known sides => exact read_compared compares equality known sides

end Predicate

end HtmlQuery.XPath
