import HtmlQuery.Proofs.XPath.Literals
import HtmlQuery.Proofs.XPath.Lossless

/-! Where string literals end. A literal ends at the first delimiter with an even number of backslashes
in front of it, unless one of its backslashes stands in front of a line feed: then it is not read.
-/

namespace HtmlQuery.XPath.Token

-----------------------------------------------------------------------------------------
-- Escaped characters
-----------------------------------------------------------------------------------------

/-- How many backslashes stand directly in front of a place. -/
def backslashesBefore (text : List Char) (place : Nat) : Nat :=
  ((text.take place).reverse.takeWhile (· == '\\')).length

/-- Whether a character is escaped: the number of backslashes directly in front of it is odd. -/
def Escaped (text : List Char) (place : Nat) : Prop :=
  backslashesBefore text place % 2 = 1

instance (text : List Char) (place : Nat) : Decidable (Escaped text place) :=
  inferInstanceAs (Decidable (_ = _))

theorem not_escaped_zero (text : List Char) : ¬Escaped text 0 := by
  simp [Escaped, backslashesBefore]

theorem escaped_one (text : List Char) : Escaped ('\\' :: text) 1 := by
  simp [Escaped, backslashesBefore]

/-- A character that is no backslash escapes nothing behind it. -/
theorem escaped_cons {c : Char} (plain : c ≠ '\\') (text : List Char) (place : Nat)
    : Escaped (c :: text) (place + 1) ↔ Escaped text place := by
  have row : ((c :: text).take (place + 1)).reverse = (text.take place).reverse ++ [c] := by simp
  rw [Escaped, Escaped, backslashesBefore, backslashesBefore, row, List.takeWhile_append]
  split
  · simp [*]
  · rfl

/-- A backslash and the character behind it escape nothing else, even if that is a backslash, too. -/
theorem escaped_pair (c : Char) (text : List Char) (place : Nat)
    : Escaped ('\\' :: c :: text) (place + 2) ↔ Escaped text place := by
  have row : (('\\' :: c :: text).take (place + 2)).reverse
      = (text.take place).reverse ++ [c, '\\'] := by
    simp
  rw [Escaped, Escaped, backslashesBefore, backslashesBefore, row, List.takeWhile_append]
  split
  · rename_i all
    by_cases backslash : c = '\\'
    · simp [backslash, ← all]
    · simp [backslash, ← all]
  · rfl

-----------------------------------------------------------------------------------------
-- The end of a literal
-----------------------------------------------------------------------------------------

/-- The first delimiter that is not escaped. -/
structure EndsLiteral (delimiter : Char) (text : List Char) (place : Nat) : Prop where
  closes : text[place]? = some delimiter
  plain : ¬Escaped text place
  first : ∀ earlier < place, text[earlier]? = some delimiter → Escaped text earlier

/-- Whether a line feed in front of a place is escaped. -/
def EscapesLineFeed (text : List Char) (place : Nat) : Prop :=
  ∃ earlier < place, text[earlier]? = some '\n' ∧ Escaped text earlier

section

variable {delimiter c : Char} {text : List Char} {place : Nat}

theorem EndsLiteral.unique {place' : Nat} (ends : EndsLiteral delimiter text place)
    (ends' : EndsLiteral delimiter text place')
    : place = place' := by
  rcases Nat.lt_trichotomy place place' with before | same | behind
  · exact (ends.plain (ends'.first place before ends.closes)).elim
  · exact same
  · exact (ends'.plain (ends.first place' behind ends'.closes)).elim

theorem endsLiteral_self : EndsLiteral delimiter (delimiter :: text) place ↔ place = 0 := by
  constructor
  · intro ends
    by_contra later
    exact not_escaped_zero _ (ends.first 0 (Nat.pos_of_ne_zero later) rfl)
  · rintro rfl
    exact ⟨rfl, not_escaped_zero _, by simp⟩

theorem not_endsLiteral_zero (other : c ≠ delimiter) : ¬EndsLiteral delimiter (c :: text) 0 :=
  fun ends => other (by simpa using ends.closes)

/-- A character that is neither a delimiter nor a backslash only moves the end. -/
theorem endsLiteral_cons (other : c ≠ delimiter) (plain : c ≠ '\\')
    : EndsLiteral delimiter (c :: text) (place + 1) ↔ EndsLiteral delimiter text place := by
  constructor
  · intro ends
    refine ⟨ends.closes, fun escaped => ends.plain ((escaped_cons plain text place).mpr escaped), ?_⟩
    intro earlier before found
    exact (escaped_cons plain text earlier).mp (ends.first (earlier + 1) (by omega) found)
  · intro ends
    refine ⟨ends.closes, fun escaped => ends.plain ((escaped_cons plain text place).mp escaped), ?_⟩
    rintro (- | earlier) before found
    · exact (other (by simpa using found)).elim
    · exact (escaped_cons plain text earlier).mpr (ends.first earlier (by omega) found)

/-- A backslash and the character behind it only move the end. -/
theorem endsLiteral_pair (other : delimiter ≠ '\\')
    : EndsLiteral delimiter ('\\' :: c :: text) (place + 2) ↔ EndsLiteral delimiter text place := by
  constructor
  · intro ends
    refine ⟨ends.closes, fun escaped => ends.plain ((escaped_pair c text place).mpr escaped), ?_⟩
    intro earlier before found
    exact (escaped_pair c text earlier).mp (ends.first (earlier + 2) (by omega) found)
  · intro ends
    refine ⟨ends.closes, fun escaped => ends.plain ((escaped_pair c text place).mp escaped), ?_⟩
    rintro (- | - | earlier) before found
    · exact (other (by simpa using found.symm)).elim
    · exact escaped_one (c :: text)
    · exact (escaped_pair c text earlier).mpr (ends.first earlier (by omega) found)

/-- Behind a backslash, the end is at least two characters away. -/
theorem EndsLiteral.exists_add_two (other : delimiter ≠ '\\')
    (ends : EndsLiteral delimiter ('\\' :: text) place)
    : ∃ later, place = later + 2 := by
  rcases place with - | - | later
  · exact (not_endsLiteral_zero other.symm ends).elim
  · exact (ends.plain (escaped_one text)).elim
  · exact ⟨later, rfl⟩

theorem not_escapesLineFeed_zero : ¬EscapesLineFeed text 0 := by
  simp [EscapesLineFeed]

theorem escapesLineFeed_cons (plain : c ≠ '\\')
    : EscapesLineFeed (c :: text) (place + 1) ↔ EscapesLineFeed text place := by
  constructor
  · rintro ⟨- | earlier, before, found, escaped⟩
    · exact (not_escaped_zero _ escaped).elim
    · exact ⟨earlier, by omega, found, (escaped_cons plain text earlier).mp escaped⟩
  · rintro ⟨earlier, before, found, escaped⟩
    exact ⟨earlier + 1, by omega, found, (escaped_cons plain text earlier).mpr escaped⟩

theorem escapesLineFeed_pair
    : EscapesLineFeed ('\\' :: c :: text) (place + 2) ↔ c = '\n' ∨ EscapesLineFeed text place := by
  constructor
  · rintro ⟨- | - | earlier, before, found, escaped⟩
    · exact (not_escaped_zero _ escaped).elim
    · exact .inl (by simpa using found)
    · exact .inr ⟨earlier, by omega, found, (escaped_pair c text earlier).mp escaped⟩
  · rintro (rfl | ⟨earlier, before, found, escaped⟩)
    · exact ⟨1, by omega, rfl, escaped_one _⟩
    · exact ⟨earlier + 2, by omega, found, (escaped_pair c text earlier).mpr escaped⟩

/-- Behind a delimiter, a literal is read up to its end just if no line feed in it is escaped, by
induction on the search.
-/
theorem closingDistance?_eq_some_iff (other : delimiter ≠ '\\')
    : closingDistance? delimiter text = some (place + 1)
      ↔ EndsLiteral delimiter text place ∧ ¬EscapesLineFeed text place := by
  fun_induction closingDistance? delimiter text generalizing place with
  | case1 => exact iff_of_false (by simp) fun reads => by simpa using reads.1.closes
  | case2 =>
      rw [endsLiteral_self]
      constructor
      · intro found
        obtain rfl : place = 0 := by simpa using found.symm
        exact ⟨rfl, not_escapesLineFeed_zero⟩
      · rintro ⟨rfl, -⟩
        rfl
  | case3 c inner =>
      refine iff_of_false (by simp) ?_
      rintro ⟨ends, -⟩
      rcases place with - | place
      · exact not_endsLiteral_zero inner ends
      · simpa using ends.closes
  | case4 d rest =>
      rw [endsLiteral_self]
      constructor
      · intro found
        obtain rfl : place = 0 := by simpa using found.symm
        exact ⟨rfl, not_escapesLineFeed_zero⟩
      · rintro ⟨rfl, -⟩
        rfl
  | case5 =>
      refine iff_of_false (by simp) ?_
      rintro ⟨ends, visible⟩
      obtain ⟨later, rfl⟩ := ends.exists_add_two other
      exact visible (escapesLineFeed_pair.mpr (.inl rfl))
  | case6 d rest visible inner ih =>
      constructor
      · intro found
        obtain ⟨distance, within, moved⟩ := Option.map_eq_some_iff.mp found
        obtain ⟨body, next, -, rfl, -⟩ := quoted_of_closingDistance? within
        obtain rfl : place = body.length + 2 := by omega
        obtain ⟨ends, unescaped⟩ := ih.mp within
        refine ⟨(endsLiteral_pair other).mpr ends, fun escapes => ?_⟩
        exact (escapesLineFeed_pair.mp escapes).elim visible unescaped
      · rintro ⟨ends, unescaped⟩
        obtain ⟨later, rfl⟩ := ends.exists_add_two other
        have within := ih.mpr ⟨(endsLiteral_pair other).mp ends,
          fun escapes => unescaped (escapesLineFeed_pair.mpr (.inr escapes))⟩
        rw [within, Option.map_some]
  | case7 c d rest inner unescaped ih =>
      constructor
      · intro found
        obtain ⟨distance, within, moved⟩ := Option.map_eq_some_iff.mp found
        obtain ⟨body, next, -, rfl, -⟩ := quoted_of_closingDistance? within
        obtain rfl : place = body.length + 1 := by omega
        obtain ⟨ends, visible⟩ := ih.mp within
        exact ⟨(endsLiteral_cons inner unescaped).mpr ends,
          fun escapes => visible ((escapesLineFeed_cons unescaped).mp escapes)⟩
      · rintro ⟨ends, visible⟩
        rcases place with - | place
        · exact (not_endsLiteral_zero inner ends).elim
        have within := ih.mpr ⟨(endsLiteral_cons inner unescaped).mp ends,
          fun escapes => visible ((escapesLineFeed_cons unescaped).mpr escapes)⟩
        rw [within, Option.map_some]

/-- Behind a delimiter, no literal is read just if it has no end or a line feed in it is escaped. -/
theorem closingDistance?_eq_none_iff (other : delimiter ≠ '\\')
    : closingDistance? delimiter text = none
      ↔ ∀ place, EndsLiteral delimiter text place → EscapesLineFeed text place := by
  constructor
  · intro never place ends
    by_contra unescaped
    simp [(closingDistance?_eq_some_iff other).mpr ⟨ends, unescaped⟩] at never
  · intro escapes
    cases found : closingDistance? delimiter text with
    | none => rfl
    | some distance =>
        obtain ⟨body, -, -, rfl, -⟩ := quoted_of_closingDistance? found
        obtain ⟨ends, unescaped⟩ := (closingDistance?_eq_some_iff other).mp found
        exact (unescaped (escapes body.length ends)).elim

end

-----------------------------------------------------------------------------------------
-- Literals within expressions
-----------------------------------------------------------------------------------------

/-- A token is what is read at its position. -/
theorem token_eq_front {expression : String} {token : Token} (member : token ∈ scan expression)
    {c : Char} (visible : Text.isBlank c = false)
    (stands : expression.toList[token.position]? = some c)
    : let behind := expression.toList.drop (token.position + 1)
      token.kind = (front c behind).fst
      ∧ token.text = String.ofList (c :: behind.take (front c behind).snd) := by
  obtain ⟨before, after, scanned⟩ := List.append_of_mem member
  obtain ⟨left, right, shape, place, tokens⟩ := scanFrom_behind scanned
  rw [Nat.zero_add] at place
  obtain ⟨rest, rfl⟩ : ∃ rest, right = c :: rest := by
    rw [shape, place, List.getElem?_append_right (Nat.le_refl _), Nat.sub_self] at stands
    cases right with
    | nil => cases stands
    | cons d rest => exact ⟨rest, by simpa using stands⟩
  have behind : expression.toList.drop (token.position + 1) = rest := by
    rw [shape, place, ← List.drop_drop, List.drop_left]
    rfl
  rw [scanFrom, visible] at tokens
  have same := (List.cons.inj tokens).1
  simp only [behind]
  exact ⟨(congrArg Token.kind same).symm, (congrArg Token.text same).symm⟩

/-- A token that begins with a delimiter is a string up to the first delimiter that isn't escaped, or
the last token, which can't be read, if there is none.
-/
def ClosedAtFirst (expression : String) (token : Token) (delimiter : Char) : Prop :=
  let behind := expression.toList.drop (token.position + 1)
  (∀ place, EndsLiteral delimiter behind place →
    token.kind = .string ∧ token.text = String.ofList (delimiter :: behind.take (place + 1)))
  ∧ ((∀ place, ¬EndsLiteral delimiter behind place) →
    token.kind = .error ∧ (scan expression).getLast? = some token)

/--
Wherever a token begins with a delimiter, it is closed by the first delimiter that isn't escaped,
whatever is in between, just if no line feed there is escaped. If one is, the token is the last one and
can't be read.
-/
theorem closedAtFirst_iff {expression : String} {token : Token} (member : token ∈ scan expression)
    {delimiter : Char} (is : IsDelimiter delimiter)
    (stands : expression.toList[token.position]? = some delimiter)
    : let behind := expression.toList.drop (token.position + 1)
      (ClosedAtFirst expression token delimiter
        ↔ ∀ place, EndsLiteral delimiter behind place → ¬EscapesLineFeed behind place)
      ∧ ∀ place, EndsLiteral delimiter behind place → EscapesLineFeed behind place →
        token.kind = .error ∧ (scan expression).getLast? = some token := by
  have other : delimiter ≠ '\\' := by rcases is with rfl | rfl <;> decide
  have visible : Text.isBlank delimiter = false := by rcases is with rfl | rfl <;> decide
  obtain ⟨kind, text⟩ := token_eq_front member visible stands
  rw [front_of_quote is] at kind text
  intro behind
  have unread (never : closingDistance? delimiter behind = none)
      : token.kind = .error ∧ (scan expression).getLast? = some token := by
    rw [never] at kind
    exact ⟨kind, ((tiles_scanFrom 0 expression.toList).final member kind).1⟩
  have escaping {place : Nat} (ends : EndsLiteral delimiter behind place)
      (escapes : EscapesLineFeed behind place)
      : token.kind = .error ∧ (scan expression).getLast? = some token := by
    refine unread ((closingDistance?_eq_none_iff other).mpr fun place' ends' => ?_)
    exact ends.unique ends' ▸ escapes
  refine ⟨⟨fun closed place ends escapes => ?_, fun unescaped => ⟨fun place ends => ?_, ?_⟩⟩,
    fun place => escaping⟩
  · have string := (closed.1 place ends).1
    simp [(escaping ends escapes).1] at string
  · rw [(closingDistance?_eq_some_iff other).mpr ⟨ends, unescaped place ends⟩] at kind text
    exact ⟨kind, text⟩
  · intro endless
    exact unread ((closingDistance?_eq_none_iff other).mpr fun place ends =>
      (endless place ends).elim)

/-- A line feed and an escaped delimiter are within the string; the delimiter behind an escaped
backslash closes it.
-/
theorem closedAtFirst_over_lineFeed
    : (⟨0, .string, "'a\n\\'\\\\'"⟩ : Token) ∈ scan "'a\n\\'\\\\' b"
      ∧ IsDelimiter '\''
      ∧ "'a\n\\'\\\\' b".toList[0]? = some '\''
      ∧ ClosedAtFirst "'a\n\\'\\\\' b" ⟨0, .string, "'a\n\\'\\\\'"⟩ '\'' := by
  have scanned : scan "'a\n\\'\\\\' b"
      = [⟨0, .string, "'a\n\\'\\\\'"⟩, ⟨9, .name, "b"⟩] := by
    decide +kernel
  have member : (⟨0, .string, "'a\n\\'\\\\'"⟩ : Token) ∈ scan "'a\n\\'\\\\' b" := by
    simp [scanned]
  have is : IsDelimiter '\'' := .inr rfl
  have ends : EndsLiteral '\'' "a\n\\'\\\\' b".toList 6 := ⟨by decide, by decide, by decide⟩
  have unescaped : ¬EscapesLineFeed "a\n\\'\\\\' b".toList 6 := by
    unfold EscapesLineFeed
    decide
  refine ⟨member, is, rfl, (closedAtFirst_iff member is rfl).1.mpr fun place ends' => ?_⟩
  exact ends.unique ends' ▸ unescaped

/-- A line feed behind a backslash keeps a literal from being read. -/
theorem not_closedAtFirst_escaped_lineFeed
    : ∃ token ∈ scan "'a\\\nb'",
        "'a\\\nb'".toList[token.position]? = some '\''
        ∧ ¬ClosedAtFirst "'a\\\nb'" token '\'' := by
  have scanned : scan "'a\\\nb'" = [⟨0, .error, "'a\\\nb'"⟩] := by cbv
  refine ⟨⟨0, .error, "'a\\\nb'"⟩, by simp [scanned], rfl, fun closed => ?_⟩
  have ends : EndsLiteral '\'' "a\\\nb'".toList 4 := ⟨by decide, by decide, by decide⟩
  have string := (closed.1 4 ends).1
  cases string

end HtmlQuery.XPath.Token
