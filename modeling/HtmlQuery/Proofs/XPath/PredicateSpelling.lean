import HtmlQuery.Proofs.XPath.ComparisonSpelling

/-! A predicate is read from each row that spells it: at each level, a row is cut exactly at the words
of its own connective.
-/

namespace HtmlQuery.XPath

open Token

namespace Predicate

/-- An operand on its own is not joined with anything. -/
theorem readOperands_single (connective : Connective) {row : List Token} (nonempty : row ≠ [])
    : readOperands connective ⟨row, []⟩ = read row := by
  rw [readOperands]
  simp only [Partition.parts, List.map_nil, List.any_cons, List.any_nil, Bool.or_false,
    List.isEmpty_eq_false_iff.mpr nonempty, Bool.false_eq_true, if_false, List.mapM_cons,
    List.mapM_nil]
  cases read row <;> rfl

/-- One more operand is joined with what the others are joined to. -/
theorem readOperands_extend {connective : Connective} {partition : Partition}
    {left right : Predicate} {separator : Token} {more : List Token}
    (first : readOperands connective partition = .ok left) (nonempty : more ≠ [])
    (second : read more = .ok right)
    : readOperands connective (partition.extend separator more)
      = .ok (.join connective left right) := by
  have parts : (partition.extend separator more).parts = partition.parts ++ [more] := by
    simp [Partition.parts, Partition.extend]
  rw [readOperands] at first ⊢
  rw [parts, List.any_append]
  split at first
  · cases first
  · rename_i full
    rw [Bool.not_eq_true] at full
    rw [full, List.mapM_append]
    simp only [List.any_cons, List.any_nil, List.isEmpty_eq_false_iff.mpr nonempty, Bool.or_false,
      Bool.false_eq_true, if_false, List.mapM_cons, List.mapM_nil, second]
    cases operands : partition.parts.mapM read with
    | error refusal =>
        rw [operands] at first
        cases first
    | ok predicates =>
        rw [operands] at first
        cases predicates with
        | nil => cases first
        | cons predicate others =>
            cases first
            simp [joinAll, bind, Except.bind, pure, Except.pure]

namespace Level

/-- The tokens that don't occur outside of the groups of a row at a level. -/
def excludes : Level → Token → Bool
  | disjunction, token => isComma token
  | conjunction, token => isComma token || separates .or token
  | operand, token => isComma token || separates .or token || separates .and token

/-- The connective that joins the operands of a row at a level. -/
def connective? : Level → Option Connective
  | disjunction => some .or
  | conjunction => some .and
  | operand => none

end Level

/-- What a row is like that spells a predicate at a level, and how it is read. -/
structure Reads (level : Level) (predicate : Predicate) (row : List Token) : Prop where
  nonempty : row ≠ []
  nested : Nested level.excludes row
  whole : read row = .ok predicate
  parts : ∀ connective ∈ level.connective?,
    readOperands connective (partition (separates connective) row) = .ok predicate

theorem divides_of_excludes (token : Token) (cut : Level.excludes .operand token = true)
    : divides token = true :=
  (Bool.or_eq_true _ _).mpr (.inl cut)

theorem excludes_of_divides {token : Token} (plain : divides token = false)
    : Level.excludes .operand token = false := by
  cases cut : Level.excludes .operand token with
  | false => rfl
  | true => simp [divides_of_excludes token cut] at plain

theorem Reads.isArgument {level : Level} {predicate : Predicate} {row : List Token}
    (reads : Reads level predicate row)
    : IsArgument row where
  nonempty := reads.nonempty
  nested := reads.nested.mono fun token comma => by cases level <;> simp [Level.excludes, comma]

/-- What has no connective outside of its groups is read as an operand. -/
theorem Reads.of_readOperand {predicate : Predicate} {row : List Token} (nonempty : row ≠ [])
    (nested : Nested (Level.excludes .operand) row) (found : readOperand row = .ok predicate)
    : Reads .operand predicate row where
  nonempty := nonempty
  nested := nested
  whole := by
    rw [read_uncut, found]
    intro connective
    refine nested.mono fun token word => ?_
    cases connective <;> simp [Level.excludes, word]
  parts := by
    intro connective none
    cases none

/-- A call of a function is an operand. -/
theorem Reads.of_readCall {predicate : Predicate} {function : String}
    {arguments : List (List Token)} (plain : divides (word function) = false)
    (all : ∀ row ∈ arguments, IsArgument row) (found : readCall function arguments = .ok predicate)
    : Reads .operand predicate (call function arguments) := by
  have nested : Nested divides (call function arguments) := nested_call plain all
  refine .of_readOperand (by simp [call]) (nested.mono divides_of_excludes) ?_
  exact (readOperand_call function all).trans found

/-- What excludes the words of a connective is a single operand of it. -/
theorem Reads.of_level {level outer : Level} {connective : Connective} {predicate : Predicate}
    {row : List Token} (reads : Reads level predicate row)
    (joins : outer.connective? = some connective)
    (apart : ∀ token, separates connective token = true → level.excludes token = true)
    (within : ∀ token, outer.excludes token = true → level.excludes token = true)
    : Reads outer predicate row where
  nonempty := reads.nonempty
  nested := reads.nested.mono within
  whole := reads.whole
  parts := by
    intro other member
    obtain rfl : connective = other := Option.some.inj (joins.symm.trans member)
    rw [partition_eq (reads.nested.mono apart), readOperands_single connective reads.nonempty,
      reads.whole]

/-- Operands without a connective can stand at either side of `and`. -/
theorem Reads.of_operand {predicate : Predicate} {row : List Token}
    (reads : Reads .operand predicate row)
    : Reads .conjunction predicate row := by
  apply reads.of_level rfl
  · intro token and
    simp [Level.excludes, and]
  · intro token cut
    simp_all [Level.excludes]

/-- Operands of `and` can stand at either side of `or`. -/
theorem Reads.of_conjunction {predicate : Predicate} {row : List Token}
    (reads : Reads .conjunction predicate row)
    : Reads .disjunction predicate row := by
  apply reads.of_level rfl
  · intro token or
    simp [Level.excludes, or]
  · intro token cut
    simp_all [Level.excludes]

/-- What stands behind the word of a connective is joined with what stands in front of it. -/
theorem readOperands_joined {connective : Connective} {left right : Predicate}
    {row more : List Token} (balanced : Balanced row)
    (first : readOperands connective (partition (separates connective) row) = .ok left)
    (nonempty : more ≠ []) (uncut : Nested (separates connective) more)
    (second : read more = .ok right)
    : (partition (separates connective) (row ++ word connective.word :: more)).others ≠ []
      ∧ readOperands connective
          (partition (separates connective) (row ++ word connective.word :: more))
        = .ok (.join connective left right) := by
  have separator : separates connective (word connective.word) = true := by
    simp [isKeyword, word]
  rw [partition_extend balanced rfl rfl separator uncut]
  exact ⟨by simp [Partition.extend], readOperands_extend first nonempty second⟩

/-- What `and` joins is read as a conjunction. -/
theorem Reads.conjoined {left right : Predicate} {row more : List Token}
    (first : Reads .conjunction left row) (second : Reads .operand right more)
    : Reads .conjunction (.join .and left right) (row ++ word Connective.and.word :: more) := by
  have noAnd : Nested (separates .and) more :=
    second.nested.mono fun token and => by simp [Level.excludes, and]
  obtain ⟨cut, joined⟩ := readOperands_joined first.nested.balanced (first.parts .and rfl)
    second.nonempty noAnd second.whole
  have nested : Nested (Level.excludes .conjunction) (row ++ word Connective.and.word :: more) :=
    first.nested.append (.plain rfl rfl rfl second.of_operand.nested)
  have noOr : Nested (separates .or) (row ++ word Connective.and.word :: more) :=
    nested.mono fun token or => by simp [Level.excludes, or]
  exact {
    nonempty := by simp
    nested := nested
    whole := by
      rw [read_eq, partition_eq noOr, if_neg (by simp), if_pos cut]
      exact joined
    parts := by
      rintro connective ⟨⟩
      exact joined
  }

/-- What `or` joins is read as a disjunction. -/
theorem Reads.disjoined {left right : Predicate} {row more : List Token}
    (first : Reads .disjunction left row) (second : Reads .conjunction right more)
    : Reads .disjunction (.join .or left right) (row ++ word Connective.or.word :: more) := by
  have noOr : Nested (separates .or) more :=
    second.nested.mono fun token or => by simp [Level.excludes, or]
  obtain ⟨cut, joined⟩ := readOperands_joined first.nested.balanced (first.parts .or rfl)
    second.nonempty noOr second.whole
  exact {
    nonempty := by simp
    nested := first.nested.append (.plain rfl rfl rfl second.of_conjunction.nested)
    whole := by
      rw [read_eq, if_pos cut]
      exact joined
    parts := by
      rintro connective ⟨⟩
      exact joined
  }

theorem readCall_test (test : StringTest) (subject value : List Token)
    : readCall test.name [subject, value] = readStringTest test subject value := by
  cases test <;> rfl

/-- A call of a test is read from its two arguments. -/
theorem read_test (test : StringTest) {subject value : List Token}
    (all : ∀ row ∈ [subject, value], IsArgument row)
    : read (call test.name [subject, value]) = readStringTest test subject value := by
  have uncut (connective : Connective)
      : Nested (separates connective) (call test.name [subject, value]) :=
    nested_call (by cases test <;> cases connective <;> rfl) all
  rw [read_uncut uncut, readOperand_call test.name all, readCall_test]

/-- Each spelling of a predicate is read as that predicate, by induction on the spelling. -/
theorem Spelled.reads {level : Level} {predicate : Predicate} {row : List Token}
    (spelled : Spelled level predicate row)
    : Reads level predicate row := by
  induction spelled with
  | @number value token literal =>
      cases literal with
      | number _ denotes =>
          refine .of_readOperand (by simp) (.single rfl rfl rfl) ?_
          simp only [readOperand, atom?, denotes]
  | last => exact .of_readCall rfl (by simp) rfl
  | @hasAttribute name named =>
      refine .of_readOperand (by simp [attributeOf]) (.plain rfl rfl rfl ?_) rfl
      exact .single rfl rfl (excludes_of_divides named.divides)
  | @hasDescendant name named =>
      exact .of_readOperand (by simp) (.single rfl rfl (excludes_of_divides named.divides)) rfl
  | @comparison subject relation literal predicate token compares spelled =>
      obtain ⟨like, found⟩ := compares.reads
      refine .of_readOperand (by simp) ?_ ?_
      · refine (like.nested.mono divides_of_excludes).append (.plain rfl rfl rfl ?_)
        cases spelled <;> exact .single rfl rfl rfl
      · rw [readOperand_comparison like.nonempty like.nested relation spelled, found]
  | @attributeTest name value token test named literal =>
      have all : ∀ row ∈ [attributeOf name, [token]], IsArgument row := by
        simpa using ⟨isArgument_attributeOf name, isArgument_literal literal⟩
      refine .of_readCall (by cases test <;> rfl) all ?_
      rw [readCall_test]
      simp only [attributeOf, mark, word, readStringTest, literal.textArgument]
      rfl
  | @textTest source value token test own literal =>
      have all : ∀ row ∈ [source, [token]], IsArgument row := by
        simpa using ⟨own.isArgument, isArgument_literal literal⟩
      refine .of_readCall (by cases test <;> rfl) all ?_
      rw [readCall_test, readStringTest_other own.isAttribute, own.isTextSource, if_pos rfl,
        literal.textArgument]
      rfl
  | not _ ih =>
      refine .of_readCall rfl (by simpa using ih.isArgument) ?_
      rw [readCall, ih.whole]
      rfl
  | group _ ih =>
      refine .of_readOperand (by simp) (.group rfl ih.nested.balanced .nil) ?_
      exact (readOperand_group ih.nonempty ih.nested).trans ih.whole
  | operand _ ih => exact ih.of_operand
  | conjoined _ _ first second => exact first.conjoined second
  | conjunction _ ih => exact ih.of_conjunction
  | disjoined _ _ first second => exact first.disjoined second

end Predicate

end HtmlQuery.XPath
