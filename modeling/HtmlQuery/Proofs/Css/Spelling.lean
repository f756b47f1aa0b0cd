import Mathlib.Data.List.Basic
import HtmlQuery.Css.Reader

/-! How compounds of types, identifiers, classes and attributes are spelled, as rows of tokens. Each
row is read as the compound it spells, alone and in front of a blank with another compound behind
it.
-/

namespace HtmlQuery.Css

-----------------------------------------------------------------------------------------
-- Rows of tokens
-----------------------------------------------------------------------------------------

/-- The type at the front of a compound: a name or a star for any type, in any namespace or in none.
It may be left out.
-/
inductive Typing : List Token → Option String → Prop
  | omitted : Typing [] none
  | name (name : String) : Typing [.ident name] (some name.lowered)
  | any : Typing [.symbol '*'] none
  | nameOfAnySpace (name : String)
    : Typing [.symbol '*', .symbol '|', .ident name] (some name.lowered)
  | anyOfAnySpace : Typing [.symbol '*', .symbol '|', .symbol '*'] none
  | nameOfNoSpace (name : String) : Typing [.symbol '|', .ident name] (some name.lowered)

/-- Where a blank may stand or be left out. -/
inductive Gap : List Token → Prop
  | none : Gap []
  | blank : Gap [.blank]

/-- The name of an attribute, in any namespace or in none. -/
inductive Naming : List Token → String → Prop
  | name (name : String) : Naming [.ident name] name.lowered
  | nameOfAnySpace (name : String)
    : Naming [.symbol '*', .symbol '|', .ident name] name.lowered

/-- How the value of an attribute is compared. -/
inductive Comparing : List Token → (String → AttributeTest) → Prop
  | equal : Comparing [.symbol '='] .equal
  | unequal : Comparing [.symbol '!', .symbol '='] .unequal
  | word : Comparing [.symbol '~', .symbol '='] .word
  | hyphened : Comparing [.symbol '|', .symbol '='] .hyphened
  | opening : Comparing [.symbol '^', .symbol '='] .opening
  | ending : Comparing [.symbol '$', .symbol '='] .ending
  | within : Comparing [.symbol '*', .symbol '='] .within

/-- A value, with or without quotes. -/
inductive Valuing : Token → String → Prop
  | ident (value : String) : Valuing (.ident value) value
  | string (value : String) : Valuing (.string value) value

/-- A condition on an attribute, behind the opening bracket. -/
inductive Bracketed : List Token → Simple → Prop
  | present {front back row name} (before : Gap front) (naming : Naming row name) (after : Gap back)
    : Bracketed (front ++ (row ++ (back ++ [.symbol ']']))) (.attribute name .present)
  | compared {front back front' back' row name sign test token value} (before : Gap front)
    (naming : Naming row name) (after : Gap back) (comparing : Comparing sign test)
    (before' : Gap front') (valuing : Valuing token value) (after' : Gap back')
    : Bracketed
        (front ++ (row ++ (back ++ (sign ++ (front' ++ token :: (back' ++ [.symbol ']']))))))
        (.attribute name (test value))

/-- A condition on an identifier, a class or an attribute. -/
inductive Condition : List Token → Simple → Prop
  | id (name : String) : Condition [.hash name] (.id name)
  | classed (name : String) : Condition [.symbol '.', .ident name] (.classed name)
  | bracketed {row condition} (inner : Bracketed row condition)
    : Condition (.symbol '[' :: row) condition

/-- Conditions one behind the other. -/
inductive Conditions : List Token → List Simple → Prop
  | nil : Conditions [] []
  | cons {row rest condition conditions} (first : Condition row condition)
    (others : Conditions rest conditions)
    : Conditions (row ++ rest) (condition :: conditions)

/-- A type with conditions behind it; one of both may be left out. -/
inductive Compound.Spelled : Compound → List Token → Prop
  | mk {front rest type conditions} (typing : Typing front type)
    (demands : Conditions rest conditions) (some : front ++ rest ≠ [])
    : Spelled (.mk type conditions) (front ++ rest)

-----------------------------------------------------------------------------------------
-- Conditions on attributes
-----------------------------------------------------------------------------------------

/-- One blank is skipped in front of something else. -/
theorem skipBlank_gap {gap rest : List Token} (between : Gap gap)
    (visible : rest.head? ≠ some .blank)
    : skipBlank (gap ++ rest) = rest := by
  cases between with
  | blank => rfl
  | none =>
      cases rest with
      | nil => rfl
      | cons token rest =>
          cases token
          case blank => exact (visible rfl).elim
          all_goals rfl

theorem Comparing.head {sign : List Token} {test : String → AttributeTest}
    (comparing : Comparing sign test) (rest : List Token)
    : (sign ++ rest).head? ≠ some .blank ∧ (sign ++ rest).head? ≠ some (.symbol ']') := by
  cases comparing <;> simp

theorem readComparison?_comparing {sign : List Token} {test : String → AttributeTest}
    (comparing : Comparing sign test) (rest : List Token)
    : readComparison? (sign ++ rest) = some (test, rest) := by
  cases comparing <;> rfl

theorem value?_valuing {token : Token} {value : String} (valuing : Valuing token value)
    : value? token = some value := by
  cases valuing <;> rfl

theorem Valuing.ne_blank {token : Token} {value : String} (valuing : Valuing token value)
    : token ≠ .blank := by
  rintro rfl
  cases valuing

/-- The name of an attribute is read up to a closing bracket or a comparison. -/
theorem readAttributeName?_naming {row back rest : List Token} {name : String}
    (naming : Naming row name) (after : Gap back)
    (ends : rest.head? = some (.symbol ']')
      ∨ ∃ sign test more, Comparing sign test ∧ rest = sign ++ more)
    : readAttributeName? (row ++ (back ++ rest)) = some (name, rest) := by
  rcases ends with closes | ⟨sign, test, more, comparing, rfl⟩
  · obtain ⟨more, rfl⟩ := List.head?_eq_some_iff.mp closes
    cases naming <;> cases after <;> rfl
  · cases naming <;> cases after <;> cases comparing <;> rfl

/-- A condition on an attribute is read behind its opening bracket. -/
theorem readAttribute?_bracketed {row : List Token} {condition : Simple}
    (bracketed : Bracketed row condition) (rest : List Token)
    : readAttribute? (row ++ rest) = some (condition, rest) := by
  have visible {row : List Token} {name : String} (naming : Naming row name) (more : List Token)
      : (row ++ more).head? ≠ some .blank := by
    cases naming <;> simp
  cases bracketed with
  | present before naming after =>
      simp only [List.append_assoc]
      rw [readAttribute?, skipBlank_gap before (visible naming _),
        readAttributeName?_naming naming after (.inl rfl)]
      rfl
  | @compared front back front' back' row name sign test token value before naming after comparing
      before' valuing after' =>
      simp only [List.append_assoc, List.cons_append, List.nil_append]
      have named := readAttributeName?_naming naming after (.inr ⟨sign, test,
        front' ++ token :: (back' ++ (Token.symbol ']' :: rest)), comparing, rfl⟩)
      have open' := (comparing.head (front' ++ token :: (back' ++ (Token.symbol ']' :: rest)))).2
      have value : skipBlank (front' ++ token :: (back' ++ (Token.symbol ']' :: rest)))
          = token :: (back' ++ (Token.symbol ']' :: rest)) :=
        skipBlank_gap before' (by simpa using valuing.ne_blank)
      have closing : skipBlank (back' ++ (Token.symbol ']' :: rest)) = Token.symbol ']' :: rest :=
        skipBlank_gap after' (by simp)
      rw [readAttribute?, skipBlank_gap before (visible naming _), named]
      simp only [bind, Option.bind]
      split
      · rename_i same
        rw [same] at open'
        exact (open' rfl).elim
      · simp only [readComparison?_comparing comparing, value, value?_valuing valuing, closing]

-----------------------------------------------------------------------------------------
-- Compounds
-----------------------------------------------------------------------------------------

/-- Whether a compound ends in front of some tokens because there are none or a blank comes next. -/
def Ended (tokens : List Token) : Prop :=
  tokens = [] ∨ ∃ rest, tokens = .blank :: rest

/-- Without a further condition, the compound is what was read so far. -/
theorem readConditions?_ended {fuel : Nat} {position : Position} {compound : Compound}
    {tokens : List Token} (ended : Ended tokens)
    : readConditions? (fuel + 1) position compound tokens = some (compound, tokens) := by
  rcases ended with rfl | ⟨rest, rfl⟩ <;> simp [readConditions?, endsCompound]

/-- Conditions are read up to the end, by induction on them. -/
theorem readConditions?_conditions {row : List Token} {conditions : List Simple}
    (demands : Conditions row conditions) {tokens : List Token} (ended : Ended tokens)
    {fuel : Nat} (enough : row.length < fuel) (position : Position) (type : Option String)
    (known : List Simple)
    : readConditions? fuel position (.mk type known) (row ++ tokens)
      = some (.mk type (known ++ conditions), tokens) := by
  induction demands generalizing known fuel with
  | nil =>
      obtain ⟨fuel, rfl⟩ := Nat.exists_eq_add_one_of_ne_zero (Nat.ne_zero_of_lt enough)
      rw [List.nil_append, List.append_nil, readConditions?_ended ended]
  | @cons row rest condition conditions first others ih =>
      obtain ⟨fuel, rfl⟩ := Nat.exists_eq_add_one_of_ne_zero (Nat.ne_zero_of_lt enough)
      have more (shorter : rest.length < fuel) := ih shorter (known ++ [condition])
      rw [List.append_assoc, List.singleton_append] at more
      cases first with
      | id name =>
          rw [List.append_assoc, List.singleton_append, readConditions?]
          simp only [endsCompound, Bool.false_eq_true, if_false]
          exact more (by simp at enough; omega)
      | classed name =>
          rw [List.append_assoc, List.cons_append, List.singleton_append, readConditions?]
          simp only [endsCompound]
          exact more (by simp at enough; omega)
      | bracketed inner =>
          rw [List.append_assoc, List.cons_append, readConditions?]
          simp only [endsCompound, readAttribute?_bracketed inner (rest ++ tokens)]
          exact more (by simp at enough; omega)

/-- What stands behind a type: a condition or the end. -/
def Demanding (tokens : List Token) : Prop :=
  Ended tokens ∨ (∃ name rest, tokens = .hash name :: rest)
    ∨ (∃ rest, tokens = .symbol '.' :: rest) ∨ ∃ rest, tokens = .symbol '[' :: rest

theorem Conditions.demanding {row tokens : List Token} {conditions : List Simple}
    (demands : Conditions row conditions) (ended : Ended tokens)
    : Demanding (row ++ tokens) := by
  cases demands with
  | nil => exact .inl ended
  | cons first others => cases first <;> simp [Demanding]

/-- In front of a condition or the end, a type is read as it is spelled. A name in no namespace is
left to the conditions, which take its bar for one.
-/
theorem readType?_typing {front rest : List Token} {type : Option String}
    (typing : Typing front type) (behind : Demanding rest)
    : readType? (front ++ rest) = some (type, rest)
      ∨ ∃ name, front = [.symbol '|', .ident name] ∧ type = some name.lowered := by
  cases typing with
  | omitted | name | any =>
      refine .inl ?_
      rcases behind with (rfl | ⟨rest, rfl⟩) | ⟨name, rest, rfl⟩ | ⟨rest, rfl⟩ | ⟨rest, rfl⟩
      all_goals rfl
  | nameOfAnySpace | anyOfAnySpace => exact .inl rfl
  | nameOfNoSpace name => exact .inr ⟨name, rfl, rfl⟩

/-- A compound begins with a token that is no blank, no comma and no combinator. -/
theorem Compound.Spelled.begins {compound : Compound} {row : List Token}
    (spelled : compound.Spelled row)
    : ∃ token rest, row = token :: rest ∧ token ≠ .blank ∧ token ≠ .symbol ','
        ∧ Combinator.ofSymbol? token = none := by
  obtain ⟨typing, demands, visible⟩ := spelled
  cases typing with
  | omitted =>
      cases demands with
      | nil => exact (visible rfl).elim
      | cons first others => cases first <;> simp [Combinator.ofSymbol?]
  | _ => simp [Combinator.ofSymbol?]

theorem Compound.Spelled.skipBlank_eq {compound : Compound} {row : List Token}
    (spelled : compound.Spelled row) (tokens : List Token)
    : skipBlank (row ++ tokens) = row ++ tokens := by
  obtain ⟨token, rest, rfl, visible, -⟩ := spelled.begins
  exact skipBlank_gap .none (by simpa using visible)

/-- A compound is read up to the end or to the blank behind it. -/
theorem readCompound?_spelled {compound : Compound} {row tokens : List Token}
    (spelled : compound.Spelled row) (ended : Ended tokens) {fuel : Nat}
    (enough : row.length + 1 < fuel) (position : Position)
    : readCompound? fuel position (row ++ tokens) = some (compound, tokens) := by
  obtain ⟨fuel, rfl⟩ := Nat.exists_eq_add_one_of_ne_zero (Nat.ne_zero_of_lt enough)
  have begins := spelled.skipBlank_eq tokens
  obtain @⟨front, rest, type, conditions, typing, demands, visible⟩ := spelled
  have shorter : tokens.length < (front ++ rest ++ tokens).length := by
    have := List.length_pos_iff.mpr visible
    rw [List.length_append]
    omega
  simp only [List.length_append] at enough
  rw [readCompound?, begins, List.append_assoc]
  rw [List.append_assoc] at shorter
  rcases readType?_typing typing (demands.demanding ended) with typed | ⟨name, rfl, rfl⟩
  · simp only [typed, Option.bind_eq_bind, Option.bind_some,
      readConditions?_conditions demands ended (by omega : rest.length < fuel), List.nil_append,
      shorter, if_true]
  · obtain ⟨fuel, rfl⟩ := Nat.exists_eq_add_one_of_ne_zero (by omega : fuel ≠ 0)
    have untyped : readType? ([.symbol '|', .ident name] ++ (rest ++ tokens))
        = some (none, [.symbol '|', .ident name] ++ (rest ++ tokens)) := rfl
    have typed (position : Position)
        : readConditions? (fuel + 1) position (.mk none [])
            ([.symbol '|', .ident name] ++ (rest ++ tokens))
          = some (.mk (some name.lowered) conditions, tokens) := by
      have enough : rest.length < fuel := by simp at enough; omega
      rw [List.cons_append, List.singleton_append, readConditions?]
      exact readConditions?_conditions demands ended enough position _ []
    simp only [untyped, Option.bind_eq_bind, Option.bind_some, typed, shorter, if_true]

/-- The name of a type spells a compound. -/
theorem Compound.spelled_type {text name : String} (tokens : Token.scan text = [.ident name])
    : Compound.Spelled (.mk (some name.lowered) []) (Token.scan text) := by
  rw [tokens]
  exact .mk (.name name) .nil (by simp)

/-- The name of a class behind a point spells a compound. -/
theorem Compound.spelled_class {text name : String}
    (tokens : Token.scan text = [.symbol '.', .ident name])
    : Compound.Spelled (.mk none [.classed name]) (Token.scan text) := by
  rw [tokens]
  exact .mk .omitted (.cons (.classed name) .nil) (by simp)

/-- The name of an attribute and its value in brackets spell a compound. -/
theorem Compound.spelled_value {text name value : String}
    (tokens : Token.scan text
      = [.symbol '[', .ident name, .symbol '=', .string value, .symbol ']'])
    : Compound.Spelled (.mk none [.attribute name.lowered (.equal value)]) (Token.scan text) := by
  rw [tokens]
  exact .mk .omitted (.cons (.bracketed (.compared .none (.name name) .none .equal .none
    (.string value) .none)) .nil) (by simp)

-----------------------------------------------------------------------------------------
-- Selectors
-----------------------------------------------------------------------------------------

/-- A text is read as the only compound that its tokens spell. -/
theorem Group.read?_compound {text : String} {compound : Compound}
    (spelled : compound.Spelled (Token.scan text))
    : Group.read? text = some [.compound compound] := by
  have enough : (Token.scan text).length + 1 < 4 * (Token.scan text).length + 3 := by omega
  have alone := readCompound?_spelled spelled (.inl rfl : Ended []) enough ⟨false, false, true⟩
  have begins := spelled.skipBlank_eq []
  rw [List.append_nil] at alone begins
  rw [Group.read?, begins, readGroup?, Nat.mul_succ, readComplex?]
  simp only [alone, Option.bind_eq_bind, Option.bind_some]
  rfl

/-- A text is read as two compounds if its tokens spell them with a blank between. -/
theorem Group.read?_join {text : String} {outer inner : Compound} {front back : List Token}
    (spelled : outer.Spelled front) (spelled' : inner.Spelled back)
    (tokens : Token.scan text = front ++ .blank :: back)
    : Group.read? text = some [.join (.compound outer) .descendant inner] := by
  obtain ⟨fuel, enough⟩
      : ∃ fuel, 4 * ((front ++ .blank :: back).length + 1) = fuel + 3
          ∧ front.length + 1 < fuel + 2 ∧ back.length + 1 < fuel + 1 := by
    refine ⟨4 * (front ++ .blank :: back).length + 1, ?_⟩
    simp only [List.length_append, List.length_cons]
    omega
  have first := readCompound?_spelled spelled (.inr ⟨back, rfl⟩ : Ended (.blank :: back))
    enough.2.1 ⟨false, false, true⟩
  have second := readCompound?_spelled spelled' (.inl rfl : Ended []) enough.2.2
    ⟨false, false, false⟩
  have skipped := spelled.skipBlank_eq (.blank :: back)
  obtain ⟨token, rest, rfl, visible, comma, combinator⟩ := spelled'.begins
  rw [List.append_nil] at second
  rw [Group.read?, tokens, skipped, readGroup?, enough.1, readComplex?]
  simp only [first, Option.bind_eq_bind, Option.bind_some]
  rw [readJoins?, skipBlank]
  simp only [comma, Bool.false_eq_true, false_and, or_false, if_false, combinator, second,
    Option.bind_eq_bind, Option.bind_some]
  rfl

end HtmlQuery.Css
