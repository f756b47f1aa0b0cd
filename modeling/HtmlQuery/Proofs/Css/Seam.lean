import Mathlib.Data.Nat.Init
import Mathlib.Tactic.ByContra
import Mathlib.Tactic.SplitIfs
import HtmlQuery.Css.Token

/-! Two texts with a blank between them. If the blank is a token of its own behind the first text,
then the tokens of the whole are those of both texts and a blank between them.
-/

namespace HtmlQuery.Css

/-- What may follow a text: nothing, or a blank and anything behind it. -/
inductive Seam : List Char → Prop
  | nothing : Seam []
  | blank (more : List Char) : Seam (' ' :: more)

-----------------------------------------------------------------------------------------
-- Rows of characters of one class
-----------------------------------------------------------------------------------------

theorem Seam.takeWhile_eq {tail : List Char} (seam : Seam tail) {belongs : Char → Bool}
    (other : belongs ' ' = false) (text : List Char)
    : (text ++ tail).takeWhile belongs = text.takeWhile belongs := by
  have stops : tail.takeWhile belongs = [] := by
    cases seam with
    | nothing => rfl
    | blank more => exact List.takeWhile_cons_of_neg (by simp [other])
  rw [List.takeWhile_append, stops, List.append_nil]
  split
  · rename_i whole
    rw [(List.takeWhile_prefix belongs).eq_of_length whole]
  · rfl

theorem Seam.take {tail : List Char} (seam : Seam tail) (count : Nat) : Seam (tail.take count) := by
  cases seam with
  | nothing => rw [List.take_nil]; exact .nothing
  | blank more =>
      cases count with
      | zero => exact .nothing
      | succ count => exact .blank _

/-- The digits of an escape end in front of a blank. -/
theorem Seam.escapeDigits_eq {tail : List Char} (seam : Seam tail) (text : List Char)
    : escapeDigits (text ++ tail) = escapeDigits text := by
  rw [escapeDigits, List.take_append, (seam.take _).takeWhile_eq (by decide)]
  rfl

/-- A number without sign ends in front of a blank. -/
theorem Seam.unsignedExtent_eq {tail : List Char} (seam : Seam tail) (text : List Char)
    : unsignedExtent (text ++ tail) = unsignedExtent text := by
  have within : (text.takeWhile Char.isDigit).length ≤ text.length :=
    (List.takeWhile_prefix _).length_le
  unfold unsignedExtent
  simp only [seam.takeWhile_eq (by decide : Char.isDigit ' ' = false) text,
    List.drop_append_of_le_length within]
  rcases text.drop (text.takeWhile Char.isDigit).length with - | ⟨c, rest⟩
  · cases seam <;> rfl
  · by_cases point : c = '.'
    · subst point
      simp only [List.cons_append, seam.takeWhile_eq (by decide : Char.isDigit ' ' = false) rest]
    · simp [point]

/-- A number ends in front of a blank. -/
theorem Seam.numberExtent_eq {tail : List Char} (seam : Seam tail) {c : Char} (rest : List Char)
    : numberExtent (c :: rest ++ tail) = numberExtent (c :: rest) := by
  have signed := seam.unsignedExtent_eq rest
  have unsigned := seam.unsignedExtent_eq (c :: rest)
  rw [List.cons_append] at unsigned ⊢
  rw [numberExtent, numberExtent, signed, unsigned]

-----------------------------------------------------------------------------------------
-- Escapes
-----------------------------------------------------------------------------------------

theorem spaceExtent_cons (c : Char) (rest : List Char)
    : spaceExtent (c :: rest)
      = if c = '\r' ∧ rest.head? = some '\n' then 2 else if isSpace c then 1 else 0 := by
  by_cases carriage : c = '\r'
  · subst carriage
    rcases rest with - | ⟨d, rest⟩
    · rfl
    · by_cases feed : d = '\n'
      · subst feed
        rfl
      · simp [spaceExtent, feed]
  · simp [spaceExtent, carriage]

/-- Of what follows a seam, no character but a blank shows. -/
theorem Seam.head?_eq_iff {tail : List Char} (seam : Seam tail) (text : List Char) {c : Char}
    (other : c ≠ ' ')
    : (text ++ tail).head? = some c ↔ text.head? = some c := by
  cases text with
  | cons d text => rfl
  | nil => cases seam <;> simp [other.symm]

/-- An escape that ends before a blank doesn't depend on what follows it. -/
theorem Seam.escapeExtent?_eq {tail : List Char} (seam : Seam tail) (rest : List Char)
    (short : ∀ extent ∈ escapeExtent? (rest ++ [' ']), extent ≤ rest.length)
    : escapeExtent? (rest ++ tail) = escapeExtent? (rest ++ [' ']) := by
  have blank : Seam [' '] := .blank []
  have within : (escapeDigits rest).length ≤ rest.length := by
    have front := (List.takeWhile_prefix (l := rest.take 6) isHex).length_le
    exact Nat.le_trans front (List.length_take_le' _ _)
  simp only [escapeExtent?, seam.escapeDigits_eq, blank.escapeDigits_eq,
    List.drop_append_of_le_length within] at short ⊢
  by_cases none : escapeDigits rest = []
  · cases rest with
    | nil => simp [none, isLineEnd] at short
    | cons c rest => simp [none]
  · cases left : rest.drop (escapeDigits rest).length with
    | nil =>
        have whole : rest.length ≤ (escapeDigits rest).length := List.drop_eq_nil_iff.mp left
        simp [none, left, spaceExtent_cons, isSpace] at short
        omega
    | cons c more =>
        simp only [List.cons_append, spaceExtent_cons, none, ne_eq, not_false_eq_true, if_true,
          seam.head?_eq_iff more (by decide : '\n' ≠ ' '),
          blank.head?_eq_iff more (by decide : '\n' ≠ ' ')]

theorem coverExtent?_cons (c : Char) (rest : List Char)
    : coverExtent? (c :: rest)
      = if c = '\r' ∧ rest.head? = some '\n' then some 2
        else if isLineEnd c then some 1 else escapeExtent? (c :: rest) := by
  by_cases carriage : c = '\r'
  · subst carriage
    rcases rest with - | ⟨d, rest⟩
    · rfl
    · by_cases feed : d = '\n'
      · subst feed
        rfl
      · simp [coverExtent?, feed]
  · simp [coverExtent?, carriage]

/-- What a backslash covers in a string doesn't depend on what follows it if it ends before a blank.
-/
theorem Seam.coverExtent?_eq {tail : List Char} (seam : Seam tail) (rest : List Char)
    (short : ∀ extent ∈ coverExtent? (rest ++ [' ']), extent ≤ rest.length)
    : coverExtent? (rest ++ tail) = coverExtent? (rest ++ [' ']) := by
  have blank : Seam [' '] := .blank []
  cases rest with
  | nil => simp [coverExtent?_cons, isLineEnd, escapeExtent?, escapeDigits, isHex] at short
  | cons c rest =>
      simp only [List.cons_append, coverExtent?_cons,
        seam.head?_eq_iff rest (by decide : '\n' ≠ ' '),
        blank.head?_eq_iff rest (by decide : '\n' ≠ ' ')] at short ⊢
      split
      · rfl
      · rename_i single
        split
        · rfl
        · rename_i visible
          rw [if_neg single, if_neg visible] at short
          exact seam.escapeExtent?_eq (c :: rest) short

-----------------------------------------------------------------------------------------
-- Names
-----------------------------------------------------------------------------------------

theorem nameExtent_backslash {rest : List Char} {extent : Nat}
    (found : escapeExtent? rest = some extent)
    : nameExtent ('\\' :: rest) = 1 + extent + nameExtent (rest.drop extent) := by
  rw [nameExtent, if_pos rfl, found]

theorem nameExtent_backslash_alone {rest : List Char} (found : escapeExtent? rest = none)
    : nameExtent ('\\' :: rest) = 0 := by
  rw [nameExtent, if_pos rfl, found]

theorem nameExtent_other {c : Char} (other : c ≠ '\\') (rest : List Char)
    : nameExtent (c :: rest) = if isNamePart c then 1 + nameExtent rest else 0 := by
  rw [nameExtent, if_neg other]

/-- A name that ends before a blank doesn't depend on what follows it, by induction on its length.
-/
theorem Seam.nameExtent_eq {tail : List Char} (seam : Seam tail) {text : List Char}
    (short : nameExtent (text ++ [' ']) ≤ text.length)
    : nameExtent (text ++ tail) = nameExtent (text ++ [' ']) := by
  induction size : text.length using Nat.strong_induction_on generalizing text with
  | _ size ih =>
      rcases text with - | ⟨c, rest⟩
      · cases seam <;> simp [nameExtent, isNamePart, isNameStart]
      · simp only [List.cons_append, List.length_cons] at short size ⊢
        by_cases escaped : c = '\\'
        · subst escaped
          cases found : escapeExtent? (rest ++ [' ']) with
          | none =>
              have same := seam.escapeExtent?_eq rest (by simp [found])
              rw [nameExtent_backslash_alone found, nameExtent_backslash_alone (same.trans found)]
          | some extent =>
              rw [nameExtent_backslash found] at short
              have within : extent ≤ rest.length := by omega
              have same := seam.escapeExtent?_eq rest (by simpa [found] using within)
              rw [List.drop_append_of_le_length within] at short
              rw [nameExtent_backslash found, nameExtent_backslash (same.trans found),
                List.drop_append_of_le_length within, List.drop_append_of_le_length within,
                ih (rest.drop extent).length (by rw [List.length_drop]; omega)
                  (by rw [List.length_drop]; omega) rfl]
        · rw [nameExtent_other escaped] at short ⊢
          rw [nameExtent_other escaped]
          split
          · rename_i part
            rw [if_pos part] at short
            rw [ih rest.length (by omega) (by omega) rfl]
          · rfl

/-- Whether a name starts doesn't depend on what follows it if it ends before a blank. -/
theorem Seam.startsName_eq {tail : List Char} (seam : Seam tail) {text : List Char}
    (short : startsName (text ++ [' ']) = true → nameExtent (text ++ [' ']) ≤ text.length)
    : startsName (text ++ tail) = startsName (text ++ [' ']) := by
  rcases text with - | ⟨c, rest⟩
  · cases seam <;> simp [startsName, isNameStart]
  · simp only [List.cons_append, startsName] at short ⊢
    by_cases escaped : c = '\\'
    · simp only [escaped, if_true] at short ⊢
      have within : ∀ extent ∈ escapeExtent? (rest ++ [' ']), extent ≤ rest.length := by
        intro extent found
        rw [Option.mem_def] at found
        rw [found, nameExtent_backslash found, List.length_cons] at short
        have := short rfl
        omega
      rw [seam.escapeExtent?_eq rest within]
    · simp only [escaped, if_false]

theorem identExtent_cons (c : Char) (rest : List Char)
    : identExtent (c :: rest)
      = if c = '-' then if startsName rest then 1 + nameExtent rest else 0
        else if startsName (c :: rest) then nameExtent (c :: rest) else 0 := by
  by_cases hyphen : c = '-'
  · subst hyphen
    rfl
  · simp [identExtent, hyphen]

/-- An identifier that ends before a blank doesn't depend on what follows it. -/
theorem Seam.identExtent_eq {tail : List Char} (seam : Seam tail) (c : Char) (rest : List Char)
    (short : identExtent (c :: rest ++ [' ']) ≤ rest.length + 1)
    : identExtent (c :: rest ++ tail) = identExtent (c :: rest ++ [' ']) := by
  simp only [List.cons_append, identExtent_cons] at short ⊢
  by_cases hyphen : c = '-'
  · simp only [hyphen, if_true] at short ⊢
    have within (starts : startsName (rest ++ [' ']) = true)
        : nameExtent (rest ++ [' ']) ≤ rest.length := by
      rw [if_pos starts] at short
      omega
    rw [seam.startsName_eq within]
    split
    · rename_i starts
      rw [seam.nameExtent_eq (within starts)]
    · rfl
  · simp only [hyphen, if_false] at short ⊢
    have within (starts : startsName (c :: rest ++ [' ']) = true)
        : nameExtent (c :: rest ++ [' ']) ≤ (c :: rest).length := by
      rw [List.cons_append] at starts
      rwa [if_pos starts] at short
    have same := seam.startsName_eq within
    rw [List.cons_append, List.cons_append] at same
    rw [same]
    split
    · rename_i starts
      exact seam.nameExtent_eq (within starts)
    · rfl

-----------------------------------------------------------------------------------------
-- Strings and comments
-----------------------------------------------------------------------------------------

theorem stringExtent_backslash {quote : Char} {rest : List Char} {extent : Nat}
    (found : coverExtent? rest = some extent)
    : stringExtent quote ('\\' :: rest) = 1 + extent + stringExtent quote (rest.drop extent) := by
  rw [stringExtent, if_pos rfl, found]

theorem stringExtent_backslash_alone {quote : Char} {rest : List Char}
    (found : coverExtent? rest = none)
    : stringExtent quote ('\\' :: rest) = 0 := by
  rw [stringExtent, if_pos rfl, found]

theorem stringExtent_other {quote c : Char} (other : c ≠ '\\') (rest : List Char)
    : stringExtent quote (c :: rest)
      = if c = quote ∨ isLineEnd c then 0 else 1 + stringExtent quote rest := by
  rw [stringExtent, if_neg other]

/-- A string that ends before a blank doesn't depend on what follows it, by induction on its length.
-/
theorem Seam.stringExtent_eq {tail : List Char} (seam : Seam tail) {quote : Char}
    (visible : quote ≠ ' ') (text : List Char)
    (short : stringExtent quote (text ++ [' ']) ≤ text.length)
    : stringExtent quote (text ++ tail) = stringExtent quote (text ++ [' ']) := by
  induction size : text.length using Nat.strong_induction_on generalizing text with
  | _ size ih =>
      rcases text with - | ⟨c, rest⟩
      · simp [stringExtent, isLineEnd, visible.symm] at short
      · simp only [List.cons_append, List.length_cons] at short size ⊢
        by_cases covered : c = '\\'
        · subst covered
          cases found : coverExtent? (rest ++ [' ']) with
          | none =>
              have same := seam.coverExtent?_eq rest (by simp [found])
              rw [stringExtent_backslash_alone found,
                stringExtent_backslash_alone (same.trans found)]
          | some extent =>
              rw [stringExtent_backslash found] at short
              have within : extent ≤ rest.length := by omega
              have same := seam.coverExtent?_eq rest (by simpa [found] using within)
              rw [List.drop_append_of_le_length within] at short
              rw [stringExtent_backslash found, stringExtent_backslash (same.trans found),
                List.drop_append_of_le_length within, List.drop_append_of_le_length within,
                ih (rest.drop extent).length (by rw [List.length_drop]; omega) (rest.drop extent)
                  (by rw [List.length_drop]; omega) rfl]
        · rw [stringExtent_other covered] at short ⊢
          rw [stringExtent_other covered]
          split
          · rfl
          · rename_i inside
            rw [if_neg inside] at short
            rw [ih rest.length (by omega) rest (by omega) rfl]

theorem commentExtent_cons (c : Char) (rest : List Char)
    : commentExtent (c :: rest)
      = if c = '*' ∧ rest.head? = some '/' then 2 else 1 + commentExtent rest := by
  by_cases star : c = '*'
  · subst star
    rcases rest with - | ⟨d, rest⟩
    · rfl
    · by_cases slash : d = '/'
      · subst slash
        rfl
      · simp [commentExtent, slash]
  · simp [commentExtent, star]

/-- A comment that ends before a blank doesn't depend on what follows it, by induction on it. -/
theorem Seam.commentExtent_eq {tail : List Char} (seam : Seam tail) {text : List Char}
    (short : commentExtent (text ++ [' ']) ≤ text.length)
    : commentExtent (text ++ tail) = commentExtent (text ++ [' ']) := by
  have blank : Seam [' '] := .blank []
  induction text with
  | nil => simp [commentExtent_cons] at short
  | cons c rest ih =>
      simp only [List.cons_append, commentExtent_cons, List.length_cons,
        seam.head?_eq_iff rest (by decide : '/' ≠ ' '),
        blank.head?_eq_iff rest (by decide : '/' ≠ ' ')] at short ⊢
      split
      · rfl
      · rename_i open'
        rw [if_neg open'] at short
        rw [ih (by omega)]

-----------------------------------------------------------------------------------------
-- Tokens
-----------------------------------------------------------------------------------------

/-- White space that ends before a blank doesn't depend on what follows it. -/
theorem takeWhile_isSpace_append (tail : List Char) {text : List Char}
    (short : ((text ++ [' ']).takeWhile isSpace).length ≤ text.length)
    : (text ++ tail).takeWhile isSpace = (text ++ [' ']).takeWhile isSpace := by
  have last : [' '].takeWhile isSpace = [' '] := by decide
  rw [List.takeWhile_append, last] at short
  rw [List.takeWhile_append, List.takeWhile_append, last]
  split
  · rename_i whole
    rw [if_pos whole, List.length_append, List.length_singleton] at short
    omega
  · rfl

/-- The name of a token is cut out of the text in front of a seam. -/
theorem named_append (make : String → Token) (skipped : Nat) (text : List Char) {extent : Nat}
    (within : extent ≤ text.length) (tail : List Char)
    : named make skipped extent (text ++ tail) = named make skipped extent text := by
  rw [named, named, List.take_append_of_le_length within]

namespace Token

/-- What stands at the front behind a quote. -/
def quotedFront (c : Char) (rest : List Char) : Option Token × Nat :=
  if rest[stringExtent c rest]? = some c then
    (some (string (resolve (dropContinuations (rest.take (stringExtent c rest))))),
      stringExtent c rest + 1)
  else (some broken, rest.length)

/-- What stands at the front if it is no white space, no name and no string. -/
def otherFront (c : Char) (rest : List Char) : Option Token × Nat :=
  if 0 < numberExtent (c :: rest) then
    (some (number (String.ofList ((c :: rest).take (numberExtent (c :: rest))))),
      numberExtent (c :: rest) - 1)
  else if c = '/' ∧ rest.head? = some '*' then (none, 1 + commentExtent (rest.drop 1))
  else (some (symbol c), 0)

/-- What stands at the front, case by case. -/
theorem front_eq (c : Char) (rest : List Char)
    : front c rest
      = if isSpace c = true then (some blank, (rest.takeWhile isSpace).length)
        else if 0 < identExtent (c :: rest) then
          (some (named ident 0 (identExtent (c :: rest)) (c :: rest)), identExtent (c :: rest) - 1)
        else if c = '#' ∧ 0 < nameExtent rest then
          (some (named hash 1 (1 + nameExtent rest) (c :: rest)), nameExtent rest)
        else if c = '"' ∨ c = '\'' then quotedFront c rest
        else otherFront c rest :=
  rfl

/-- A string that is closed before a blank doesn't depend on what follows it. -/
theorem quotedFront_of_seam {tail : List Char} (seam : Seam tail) {c : Char} (visible : c ≠ ' ')
    {rest : List Char} (short : (quotedFront c (rest ++ [' '])).snd ≤ rest.length)
    : quotedFront c (rest ++ tail) = quotedFront c (rest ++ [' ']) := by
  rw [quotedFront] at short
  rw [quotedFront, quotedFront]
  by_cases closes : (rest ++ [' '])[stringExtent c (rest ++ [' '])]? = some c
  · simp only [if_pos closes] at short ⊢
    have same := seam.stringExtent_eq visible rest (by omega)
    have inside : stringExtent c (rest ++ [' ']) < rest.length := by omega
    rw [List.getElem?_append_left inside] at closes
    rw [same, List.getElem?_append_left inside, if_pos closes,
      List.take_append_of_le_length (Nat.le_of_lt inside),
      List.take_append_of_le_length (Nat.le_of_lt inside)]
  · simp only [if_neg closes, List.length_append, List.length_singleton] at short
    omega

/-- A number, a comment that is closed before a blank or a single character doesn't depend on what
follows it.
-/
theorem otherFront_of_seam {tail : List Char} (seam : Seam tail) {c : Char} {rest : List Char}
    (short : (otherFront c (rest ++ [' '])).snd ≤ rest.length)
    : otherFront c (rest ++ tail) = otherFront c (rest ++ [' ']) := by
  have blank : Seam [' '] := .blank []
  have number := seam.numberExtent_eq (c := c) rest
  have number' := blank.numberExtent_eq (c := c) rest
  rw [List.cons_append] at number number'
  simp only [otherFront, number, number', seam.head?_eq_iff rest (by decide : '*' ≠ ' '),
    blank.head?_eq_iff rest (by decide : '*' ≠ ' ')] at short ⊢
  by_cases counts : 0 < numberExtent (c :: rest)
  · simp only [if_pos counts] at short ⊢
    have within : numberExtent (c :: rest) ≤ (c :: rest).length := by
      rw [List.length_cons]
      omega
    rw [← List.cons_append, ← List.cons_append, List.take_append_of_le_length within,
      List.take_append_of_le_length within]
  simp only [if_neg counts] at short ⊢
  by_cases comments : c = '/' ∧ rest.head? = some '*'
  · simp only [if_pos comments] at short ⊢
    obtain ⟨more, rfl⟩ := List.head?_eq_some_iff.mp comments.2
    simp only [List.cons_append, List.drop_one, List.tail_cons, List.length_cons] at short ⊢
    rw [seam.commentExtent_eq (by omega)]
  · simp only [if_neg comments]

/-- A token that ends before a blank doesn't depend on what follows it. -/
theorem front_of_seam {tail : List Char} (seam : Seam tail) {c : Char} {rest : List Char}
    (short : (front c (rest ++ [' '])).snd ≤ rest.length)
    : front c (rest ++ tail) = front c (rest ++ [' ']) := by
  rw [front_eq c (rest ++ [' '])] at short ⊢
  rw [front_eq c (rest ++ tail)]
  by_cases space : isSpace c = true
  · simp only [if_pos space] at short ⊢
    rw [takeWhile_isSpace_append tail short]
  simp only [if_neg space] at short ⊢
  have ident := seam.identExtent_eq c rest
  simp only [List.cons_append] at ident
  by_cases identifies : 0 < identExtent (c :: (rest ++ [' ']))
  · simp only [if_pos identifies] at short ⊢
    have within : identExtent (c :: (rest ++ [' '])) ≤ rest.length + 1 := by omega
    have cut := named_append .ident 0 (c :: rest) within
    simp only [List.cons_append] at cut
    rw [ident within, if_pos identifies, cut, cut]
  have unnamed : identExtent (c :: (rest ++ tail)) = identExtent (c :: (rest ++ [' '])) :=
    ident (by omega)
  simp only [unnamed, if_neg identifies] at short ⊢
  by_cases hashes : c = '#' ∧ 0 < nameExtent (rest ++ [' '])
  · simp only [if_pos hashes] at short ⊢
    have within : 1 + nameExtent (rest ++ [' ']) ≤ rest.length + 1 := by omega
    have cut := named_append .hash 1 (c :: rest) within
    simp only [List.cons_append] at cut
    rw [seam.nameExtent_eq short, if_pos hashes, cut, cut]
  have hashless : ¬(c = '#' ∧ 0 < nameExtent (rest ++ tail)) := by
    rintro ⟨hash, some⟩
    refine hashes ⟨hash, ?_⟩
    by_contra none
    rw [seam.nameExtent_eq (by omega)] at some
    exact none some
  simp only [if_neg hashes, if_neg hashless] at short ⊢
  by_cases quotes : c = '"' ∨ c = '\''
  · simp only [if_pos quotes] at short ⊢
    exact quotedFront_of_seam seam (by rcases quotes with rfl | rfl <;> decide) short
  · simp only [if_neg quotes] at short ⊢
    exact otherFront_of_seam seam short

theorem scanFrom_cons (c : Char) (rest : List Char)
    : scanFrom (c :: rest)
      = (front c rest).fst.toList ++ scanFrom (rest.drop (front c rest).snd) := by
  rw [scanFrom]

/-- Only white space is a blank. -/
theorem isSpace_of_front {c : Char} {rest : List Char} (found : (front c rest).fst = some .blank)
    : isSpace c = true := by
  rw [front_eq] at found
  by_contra visible
  rw [if_neg visible, quotedFront, otherFront] at found
  split_ifs at found <;> simp [named] at found

/-- If the blank behind a text is a token of its own, the tokens of the text stay the same in front
of a blank and anything else, by induction on the length of the text.
-/
theorem scanFrom_seam {text : List Char}
    (apart : scanFrom (text ++ [' ']) = scanFrom text ++ [.blank]) (more : List Char)
    : scanFrom (text ++ ' ' :: more) = scanFrom text ++ scanFrom (' ' :: more) := by
  induction size : text.length using Nat.strong_induction_on generalizing text with
  | _ size ih =>
      rcases text with - | ⟨c, rest⟩
      · rw [scanFrom, List.nil_append, List.nil_append]
      · simp only [List.cons_append, List.length_cons, scanFrom_cons c] at apart size ⊢
        by_cases short : (front c (rest ++ [' '])).snd ≤ rest.length
        · have alone := front_of_seam .nothing short
          have behind := front_of_seam (.blank more) short
          rw [List.append_nil] at alone
          rw [alone, List.drop_append_of_le_length short, List.append_assoc] at apart
          rw [alone, behind, List.drop_append_of_le_length short, List.append_assoc,
            ih _ (by rw [List.length_drop]; omega) (List.append_cancel_left apart) rfl]
        · -- The token takes up the blank, so it would have to be a blank and the only one.
          have past : (rest ++ [' ']).drop (front c (rest ++ [' '])).snd = [] := by
            rw [List.drop_eq_nil_iff, List.length_append, List.length_singleton]
            omega
          rw [past, scanFrom, List.append_nil] at apart
          cases first : (front c (rest ++ [' '])).fst with
          | none => simp [first] at apart
          | some token =>
              rw [first, Option.toList_some, ← List.nil_append [token]] at apart
              obtain ⟨nothing, last⟩ := List.append_inj' apart rfl
              cases last
              rw [front_eq, if_pos (isSpace_of_front first)] at nothing
              cases nothing

/-- The tokens of two texts with a blank between them. -/
theorem scan_seam {left right : String}
    (apart : scan (left ++ " ") = scan left ++ [.blank])
    (visible : ∀ c ∈ right.toList.head?, isSpace c = false)
    : scan (left ++ " " ++ right) = scan left ++ .blank :: scan right := by
  have behind : scanFrom (' ' :: right.toList) = .blank :: scanFrom right.toList := by
    have none : right.toList.takeWhile isSpace = [] := by
      cases shape : right.toList with
      | nil => rfl
      | cons c rest => exact List.takeWhile_cons_of_neg (by simp [visible c (by simp [shape])])
    rw [scanFrom_cons, front_eq, if_pos (by decide), none]
    rfl
  rw [scan, scan, String.toList_append] at apart
  have whole := scanFrom_seam apart right.toList
  rw [scan, scan, scan, String.toList_append, String.toList_append, List.append_assoc, ← behind]
  exact whole

end Token

end HtmlQuery.Css
