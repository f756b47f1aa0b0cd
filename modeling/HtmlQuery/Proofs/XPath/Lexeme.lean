import Mathlib.Data.List.TakeWhile
import HtmlQuery.XPath.Scan

/-! The texts that tokens of each kind have, and where such a text ends: a token at the front of an
expression is the one whose text cannot be prolonged by what follows.
-/

namespace HtmlQuery.XPath.Token

open HtmlQuery.Text

-----------------------------------------------------------------------------------------
-- The texts of tokens
-----------------------------------------------------------------------------------------

/-- What stands between the delimiters of a string: plain characters and escaped ones. A backslash
escapes any character but a line feed.
-/
inductive Quoted (delimiter : Char) : List Char → Prop
  | nil : Quoted delimiter []
  | plain {c rest} (inner : c ≠ delimiter) (unescaped : c ≠ '\\') (more : Quoted delimiter rest)
    : Quoted delimiter (c :: rest)
  | escaped {c rest} (visible : c ≠ '\n') (more : Quoted delimiter rest)
    : Quoted delimiter ('\\' :: c :: rest)

/-- A row of characters that begins with one of a class, or two such rows that a mark joins. -/
inductive Joined (mark : Char) (start part : Char → Bool) : List Char → Prop
  | single {first rest} (starts : start first = true) (parts : ∀ c ∈ rest, part c = true)
    : Joined mark start part (first :: rest)
  | double {first rest next more} (starts : start first = true)
    (parts : ∀ c ∈ rest, part c = true) (again : start next = true)
    (others : ∀ c ∈ more, part c = true)
    : Joined mark start part (first :: (rest ++ mark :: next :: more))

/-- Digits that may have a point and more digits behind them. -/
abbrev IsNumber : List Char → Prop :=
  Joined '.' isDigit isDigit

/-- A name, which may have a second part behind a single colon. -/
abbrev IsName : List Char → Prop :=
  Joined ':' isNameStart isNamePart

/-- The texts of the tokens of a kind; what can't be read has no such form. -/
def IsLexeme : TokenKind → List Char → Prop
  | .string, text =>
      ∃ delimiter body,
        (delimiter = '"' ∨ delimiter = '\'')
        ∧ Quoted delimiter body
        ∧ text = delimiter :: (body ++ [delimiter])
  | .number, text => IsNumber text
  | .name, text => IsName text
  | .doubleSlash, text => text = ['/', '/']
  | .slash, text => text = ['/']
  | .asterisk, text => text = ['*']
  | .doubleColon, text => text = [':', ':']
  | .doubleDot, text => text = ['.', '.']
  | .dot, text => text = ['.']
  | .openBracket, text => text = ['[']
  | .closeBracket, text => text = [']']
  | .atSign, text => text = ['@']
  | .openParen, text => text = ['(']
  | .closeParen, text => text = [')']
  | .comma, text => text = [',']
  | .bar, text => text = ['|']
  | .relation, text =>
      text ∈ [['<'], ['<', '='], ['>'], ['>', '='], ['='], ['!', '=']]
  | .error, _ => False

/-- The next character, if there is one, doesn't belong to a class. -/
def Stops (belongs : Char → Bool) (next : List Char) : Prop :=
  ∀ c ∈ next.head?, belongs c = false

/-- A text that follows prolongs neither the row of a class nor joins a second one to it. -/
def EndsJoined (mark : Char) (start part : Char → Bool) (text next : List Char) : Prop :=
  Stops part next ∧ (mark ∈ text ∨ ∀ more, next = mark :: more → Stops start more)

/-- A text that follows does not prolong a token of a kind and a text. -/
def Ends : TokenKind → List Char → List Char → Prop
  | .number, text, next => EndsJoined '.' isDigit isDigit text next
  | .name, text, next => EndsJoined ':' isNameStart isNamePart text next
  | .slash, _, next => Stops (· == '/') next
  | .dot, _, next => Stops (· == '.') next
  | .relation, text, next => text = ['<'] ∨ text = ['>'] → Stops (· == '=') next
  | _, _, _ => True

-----------------------------------------------------------------------------------------
-- Classes of characters
-----------------------------------------------------------------------------------------

/-- The code points of the blank characters. -/
def blankPoints : List Nat :=
  [0x09, 0x0A, 0x0B, 0x0C, 0x0D, 0x1C, 0x1D, 0x1E, 0x1F, 0x20, 0x85, 0xA0, 0x1680, 0x2000, 0x2001,
    0x2002, 0x2003, 0x2004, 0x2005, 0x2006, 0x2007, 0x2008, 0x2009, 0x200A, 0x2028, 0x2029, 0x202F,
    0x205F, 0x3000]

/-- Blanks are no word characters and no digits: they are few, so each is looked up. -/
theorem not_word_of_isBlank {c : Char} (blank : isBlank c = true)
    : isWord c = false ∧ isDigit c = false := by
  have points : c.toNat ∈ blankPoints := by
    simp only [isBlank, Bool.or_eq_true, Bool.and_eq_true, decide_eq_true_eq, beq_iff_eq] at blank
    simp only [blankPoints, List.mem_cons, List.not_mem_nil, or_false]
    omega
  have table
      : (blankPoints.all fun n => !isWord (Char.ofNat n) && !isDigit (Char.ofNat n)) = true := by
    decide +kernel
  simpa using List.all_eq_true.mp table _ points

/-- A digit starts no name. -/
theorem not_isNameStart_of_isDigit {c : Char} (digit : isDigit c = true)
    : isNameStart c = false := by
  simp [isNameStart, digit]

/-- The characters that symbols and strings begin with. -/
def marks : List Char :=
  ['/', '*', ':', '.', '[', ']', '@', '(', ')', ',', '|', '!', '<', '>', '=', '"', '\'']

/-- Symbols and strings begin with characters that occur in no number or name on their own. -/
theorem not_word_of_mem_marks {c : Char} (mark : c ∈ marks)
    : isDigit c = false ∧ isNameStart c = false ∧ isBlank c = false := by
  have table : (marks.all fun c => !isDigit c && !isNameStart c && !isBlank c) = true := by
    decide +kernel
  simpa [and_assoc] using List.all_eq_true.mp table c mark

-----------------------------------------------------------------------------------------
-- Rows of characters of one class
-----------------------------------------------------------------------------------------

/-- A row of a class ends where the next character does not belong to it. -/
theorem takeWhile_of_stops {belongs : Char → Bool} {inside next : List Char}
    (all : ∀ c ∈ inside, belongs c = true) (stops : Stops belongs next)
    : (inside ++ next).takeWhile belongs = inside := by
  rw [List.takeWhile_append_of_pos all]
  cases next with
  | nil => simp
  | cons c rest => simp [stops c (by simp)]

/-- What is left behind the longest row of a class does not go on with it. -/
theorem stops_drop_takeWhile (belongs : Char → Bool) (text : List Char)
    : Stops belongs (text.drop (text.takeWhile belongs).length) := by
  induction text with
  | nil => simp [Stops]
  | cons c rest ih =>
      cases found : belongs c with
      | false => simp [Stops, found]
      | true => simpa [found] using ih

/-- A text is its longest row of a class and what is left. -/
theorem takeWhile_append_drop (belongs : Char → Bool) (text : List Char)
    : text.takeWhile belongs ++ text.drop (text.takeWhile belongs).length = text :=
  List.prefix_iff_eq_append.mp (List.takeWhile_prefix belongs)

-----------------------------------------------------------------------------------------
-- Numbers and names
-----------------------------------------------------------------------------------------

section Joined

variable {mark : Char} {start part : Char → Bool}

/-- How many characters a mark and a second row behind a first one take. -/
def secondExtent (mark : Char) (start part : Char → Bool) : List Char → Nat
  | c :: d :: more => if c = mark ∧ start d = true then 2 + (more.takeWhile part).length else 0
  | _ => 0

/-- A number reaches over its first digits and what a point joins to them. -/
theorem numberExtent_append {row left : List Char} (digits : ∀ c ∈ row, isDigit c = true)
    (stops : Stops isDigit left)
    : numberExtent (row ++ left) = row.length + secondExtent '.' isDigit isDigit left := by
  simp only [numberExtent, takeWhile_of_stops digits stops, List.drop_left]
  unfold secondExtent
  split <;> split <;> simp_all
  omega

/-- A name reaches over its first part and what a colon joins to it. -/
theorem nameExtent_append {row left : List Char} (parts : ∀ c ∈ row, isNamePart c = true)
    (stops : Stops isNamePart left)
    : nameExtent (row ++ left) = row.length + secondExtent ':' isNameStart isNamePart left := by
  simp only [nameExtent, takeWhile_of_stops parts stops, List.drop_left]
  unfold secondExtent
  split <;> split <;> simp_all
  omega

/-- The text of a row or of two joined ones that is not prolonged ends where its last row does. -/
theorem Joined.extent {c : Char} {body next : List Char} (noStart : start mark = false)
    (noPart : part mark = false) (joined : Joined mark start part (c :: body))
    (ends : EndsJoined mark start part (c :: body) next)
    : ∃ row left,
        body ++ next = row ++ left
        ∧ (∀ d ∈ row, part d = true)
        ∧ Stops part left
        ∧ row.length + secondExtent mark start part left = body.length := by
  obtain ⟨stops, further⟩ := ends
  cases joined with
  | single starts parts =>
      have absent : mark ∉ c :: body := by
        intro member
        rcases List.mem_cons.mp member with same | member
        · simp [← same, noStart] at starts
        · simp [parts mark member] at noPart
      refine ⟨body, next, rfl, parts, stops, ?_⟩
      cases next with
      | nil => simp [secondExtent]
      | cons d more =>
          have beyond := further.resolve_left absent
          cases more with
          | nil => simp [secondExtent]
          | cons e more =>
              have : ¬(d = mark ∧ start e = true) := by
                rintro ⟨rfl, starts⟩
                simp [beyond (e :: more) rfl e (by simp)] at starts
              simp [secondExtent, this]
  | @double _ row d more starts parts again others =>
      refine ⟨row, mark :: d :: (more ++ next), by simp, parts, ?_, ?_⟩
      · intro e member
        obtain rfl : mark = e := by simpa using member
        exact noPart
      · simp only [secondExtent, again, and_self, if_true, takeWhile_of_stops others stops,
          List.length_append, List.length_cons]
        omega

/-- The extent of a row with what a mark joins to it yields such a text, and one that is not
prolonged.
-/
theorem Joined.of_extent (mark : Char) {start part : Char → Bool} {c : Char} {row left : List Char}
    (starts : start c = true) (parts : ∀ d ∈ row, part d = true) (stops : Stops part left)
    : ∃ body next,
        row ++ left = body ++ next
        ∧ body.length = row.length + secondExtent mark start part left
        ∧ Joined mark start part (c :: body)
        ∧ EndsJoined mark start part (c :: body) next := by
  by_cases second : ∃ d more, left = mark :: d :: more ∧ start d = true
  · obtain ⟨d, more, rfl, again⟩ := second
    refine ⟨row ++ mark :: d :: more.takeWhile part, more.drop (more.takeWhile part).length,
      ?_, ?_, ?_, ?_, ?_⟩
    · simp [takeWhile_append_drop]
    · simp only [secondExtent, again, and_self, if_true, List.length_append, List.length_cons]
      omega
    · exact .double starts parts again fun e => List.mem_takeWhile_imp
    · exact stops_drop_takeWhile part more
    · exact Or.inl (by simp)
  · have none : secondExtent mark start part left = 0 := by
      unfold secondExtent
      split
      · rename_i d e more
        rw [if_neg]
        rintro ⟨rfl, again⟩
        exact second ⟨e, more, rfl, again⟩
      · rfl
    refine ⟨row, left, rfl, by simp [none], .single starts parts, stops, Or.inr ?_⟩
    rintro more rfl d member
    cases more with
    | nil => simp at member
    | cons e more =>
        obtain rfl : e = d := by simpa using member
        cases again : start e with
        | false => rfl
        | true => exact (second ⟨e, more, rfl, again⟩).elim

end Joined

-----------------------------------------------------------------------------------------
-- Strings
-----------------------------------------------------------------------------------------

/-- A string ends at the first delimiter that no backslash escapes. -/
theorem closingDistance?_of_quoted {delimiter : Char} (other : delimiter ≠ '\\')
    {body : List Char} (quoted : Quoted delimiter body) (next : List Char)
    : closingDistance? delimiter (body ++ delimiter :: next) = some (body.length + 1) := by
  induction quoted with
  | nil => cases next <;> simp [closingDistance?]
  | @plain c rest inner unescaped _ ih =>
      cases shape : rest ++ delimiter :: next with
      | nil => simp at shape
      | cons d more =>
          rw [shape] at ih
          simp [closingDistance?, shape, inner, unescaped, ih]
  | @escaped c rest visible _ ih =>
      simp [closingDistance?, other.symm, visible, ih]

/-- What is read as a string is a quoted text up to its delimiter. -/
theorem quoted_of_closingDistance? {delimiter : Char} {text : List Char} {distance : Nat}
    (found : closingDistance? delimiter text = some distance)
    : ∃ body next,
        text = body ++ delimiter :: next
        ∧ distance = body.length + 1
        ∧ Quoted delimiter body := by
  fun_induction closingDistance? delimiter text generalizing distance with
  | case1 => cases found
  | case2 => exact ⟨[], [], rfl, by simpa using found.symm, .nil⟩
  | case3 => cases found
  | case4 d rest => exact ⟨[], d :: rest, rfl, by simpa using found.symm, .nil⟩
  | case5 => cases found
  | case6 d rest visible _ ih =>
      obtain ⟨inner, within, rfl⟩ := Option.map_eq_some_iff.mp found
      obtain ⟨body, next, rfl, rfl, quoted⟩ := ih within
      exact ⟨'\\' :: d :: body, next, rfl, by simp, .escaped visible quoted⟩
  | case7 c d rest inner unescaped ih =>
      obtain ⟨further, within, rfl⟩ := Option.map_eq_some_iff.mp found
      obtain ⟨body, next, shape, rfl, quoted⟩ := ih within
      exact ⟨c :: body, next, by simp [shape], by simp, .plain inner unescaped quoted⟩

-----------------------------------------------------------------------------------------
-- The token at the front of an expression
-----------------------------------------------------------------------------------------

theorem front_of_isDigit {c : Char} (digit : isDigit c = true) (rest : List Char)
    : front c rest = (.number, numberExtent rest) := by
  have noQuote : ¬(c = '"' ∨ c = '\'') := by
    rintro (rfl | rfl)
    · exact absurd digit (by decide)
    · exact absurd digit (by decide)
  simp [front, noQuote, digit]

theorem front_of_isNameStart {c : Char} (starts : isNameStart c = true) (rest : List Char)
    : front c rest = (.name, nameExtent rest) := by
  have noQuote : ¬(c = '"' ∨ c = '\'') := by
    rintro (rfl | rfl)
    · exact absurd starts (by decide)
    · exact absurd starts (by decide)
  have noDigit : isDigit c = false := by
    cases digit : isDigit c with
    | false => rfl
    | true => simp [not_isNameStart_of_isDigit digit] at starts
  simp [front, noQuote, noDigit, starts]

theorem front_of_quote {c : Char} (quote : c = '"' ∨ c = '\'') (rest : List Char)
    : front c rest
      = (closingDistance? c rest).elim (.error, rest.length) (fun distance => (.string, distance)) := by
  cases found : closingDistance? c rest <;> simp [front, quote, found]

theorem front_of_symbol {c : Char} (noQuote : ¬(c = '"' ∨ c = '\'')) (noDigit : isDigit c = false)
    (noStart : isNameStart c = false) (rest : List Char)
    : front c rest = (symbol? c rest.head?).getD (.error, rest.length) := by
  simp [front, noQuote, noDigit, noStart]

/-- A symbol is read as such, whatever the tables of digits and letters hold. -/
theorem front_of_mem_marks {c : Char} (mark : c ∈ marks) (noQuote : ¬(c = '"' ∨ c = '\''))
    (rest : List Char)
    : front c rest = (symbol? c rest.head?).getD (.error, rest.length) :=
  front_of_symbol noQuote (not_word_of_mem_marks mark).1 (not_word_of_mem_marks mark).2.1 rest

/-- A text of a kind that is not prolonged is the token that is read, by the kinds. -/
theorem front_of_ends {kind : TokenKind} {c : Char} {body next : List Char}
    (lexeme : IsLexeme kind (c :: body)) (ends : Ends kind (c :: body) next)
    : front c (body ++ next) = (kind, body.length) := by
  cases kind with
  | string =>
      obtain ⟨delimiter, inner, quote, quoted, text⟩ := lexeme
      obtain ⟨rfl, rfl⟩ := List.cons.inj text
      have other : c ≠ '\\' := by rcases quote with rfl | rfl <;> decide
      rw [front_of_quote quote, List.append_assoc, List.singleton_append,
        closingDistance?_of_quoted other quoted]
      simp
  | number =>
      obtain ⟨row, left, shape, parts, stops, length⟩ :=
        Joined.extent (by decide) (by decide) lexeme ends
      have starts : isDigit c = true := by cases lexeme <;> assumption
      rw [front_of_isDigit starts, shape, numberExtent_append parts stops, length]
  | name =>
      obtain ⟨row, left, shape, parts, stops, length⟩ :=
        Joined.extent (by decide) (by decide) lexeme ends
      have starts : isNameStart c = true := by cases lexeme <;> assumption
      rw [front_of_isNameStart starts, shape, nameExtent_append parts stops, length]
  | slash =>
      obtain ⟨rfl, rfl⟩ := List.cons.inj lexeme
      have apart : next.head? ≠ some '/' := fun h => by simpa using ends '/' h
      simp [front_of_mem_marks (c := '/') (by decide) (by decide), symbol?, apart]
  | dot =>
      obtain ⟨rfl, rfl⟩ := List.cons.inj lexeme
      have apart : next.head? ≠ some '.' := fun h => by simpa using ends '.' h
      simp [front_of_mem_marks (c := '.') (by decide) (by decide), symbol?, apart]
  | relation =>
      have apart (short : c :: body = ['<'] ∨ c :: body = ['>']) : next.head? ≠ some '=' :=
        fun h => by simpa using ends short '=' h
      simp only [IsLexeme, List.mem_cons, List.not_mem_nil, or_false] at lexeme
      rcases lexeme with text | text | text | text | text | text <;>
        obtain ⟨rfl, rfl⟩ := List.cons.inj text <;>
        rw [front_of_mem_marks (by decide) (by decide)] <;>
        simp_all [symbol?]
  | error => exact lexeme.elim
  | doubleSlash | asterisk | doubleColon | doubleDot | openBracket | closeBracket | atSign
  | openParen | closeParen | comma | bar =>
      obtain ⟨rfl, rfl⟩ := List.cons.inj lexeme
      rw [front_of_mem_marks (by decide) (by decide)]
      simp [symbol?]

/-- A symbol has the text of its kind and is not prolonged, by its first character. -/
theorem isLexeme_of_symbol? {kind : TokenKind} {c : Char} {rest : List Char} {extent : Nat}
    (found : symbol? c rest.head? = some (kind, extent))
    : ∃ body next,
        rest = body ++ next
        ∧ extent = body.length
        ∧ IsLexeme kind (c :: body)
        ∧ Ends kind (c :: body) next := by
  -- Only the next character decides how long the symbol is.
  have alone (lexeme : IsLexeme kind [c]) (ends : Ends kind [c] rest) (short : extent = 0)
      : ∃ body next, rest = body ++ next ∧ extent = body.length ∧ IsLexeme kind (c :: body)
        ∧ Ends kind (c :: body) next :=
    ⟨[], rest, rfl, short, lexeme, ends⟩
  have double {d : Char} (second : rest.head? = some d) (lexeme : IsLexeme kind [c, d])
      (ends : ∀ next, Ends kind [c, d] next) (long : extent = 1)
      : ∃ body next, rest = body ++ next ∧ extent = body.length ∧ IsLexeme kind (c :: body)
        ∧ Ends kind (c :: body) next := by
    cases rest with
    | nil => cases second
    | cons e more =>
        obtain rfl : e = d := by simpa using second
        exact ⟨[e], more, rfl, long, lexeme, ends more⟩
  have stops {d : Char} (other : rest.head? ≠ some d) : Stops (· == d) rest := by
    intro e member
    by_contra same
    exact other (by simpa [← (beq_iff_eq.mp (by simpa using same) : e = d)] using member)
  unfold symbol? at found
  split at found
  case h_1 | h_4 =>
    simp only [Option.some.injEq] at found
    split at found
    · rename_i second
      cases found
      exact double second rfl (fun _ => trivial) rfl
    · rename_i other
      cases found
      exact alone rfl (stops other) rfl
  case h_3 | h_12 =>
    split at found
    · rename_i second
      cases found
      exact double second (by simp [IsLexeme]) (fun _ => by simp [Ends]) rfl
    · cases found
  case h_13 | h_14 =>
    simp only [Option.some.injEq, Prod.mk.injEq] at found
    obtain ⟨rfl, length⟩ := found
    split at length
    · rename_i second
      exact double second (by simp [IsLexeme]) (fun _ => by simp [Ends]) length.symm
    · rename_i other
      exact alone (by simp [IsLexeme]) (fun _ => stops other) length.symm
  case h_15 =>
    cases found
    exact alone (by simp [IsLexeme]) (by simp [Ends]) rfl
  case h_16 => cases found
  all_goals
    cases found
    exact alone rfl trivial rfl

/-- What is read as a token of a kind has a text of that kind and is not prolonged. -/
theorem isLexeme_of_front {kind : TokenKind} {c : Char} {rest : List Char} {extent : Nat}
    (read : front c rest = (kind, extent)) (known : kind ≠ .error)
    : ∃ body next,
        rest = body ++ next
        ∧ extent = body.length
        ∧ IsLexeme kind (c :: body)
        ∧ Ends kind (c :: body) next := by
  by_cases quote : c = '"' ∨ c = '\''
  · rw [front_of_quote quote] at read
    cases found : closingDistance? c rest with
    | none =>
        rw [found] at read
        exact (known (Prod.mk.inj read).1.symm).elim
    | some distance =>
        rw [found] at read
        obtain ⟨rfl, rfl⟩ := Prod.mk.inj read
        obtain ⟨body, next, rfl, rfl, quoted⟩ := quoted_of_closingDistance? found
        exact ⟨body ++ [c], next, by simp, by simp, ⟨c, body, quote, quoted, rfl⟩, trivial⟩
  cases digit : isDigit c with
  | true =>
      rw [front_of_isDigit digit] at read
      obtain ⟨rfl, rfl⟩ := Prod.mk.inj read
      have digits : ∀ d ∈ rest.takeWhile isDigit, isDigit d = true :=
        fun d => List.mem_takeWhile_imp
      have stops := stops_drop_takeWhile isDigit rest
      obtain ⟨body, next, shape, length, joined, ends⟩ :=
        Joined.of_extent '.' digit digits stops
      rw [takeWhile_append_drop] at shape
      refine ⟨body, next, shape, ?_, joined, ends⟩
      rw [length, ← numberExtent_append digits stops, takeWhile_append_drop]
  | false =>
      cases starts : isNameStart c with
      | true =>
          rw [front_of_isNameStart starts] at read
          obtain ⟨rfl, rfl⟩ := Prod.mk.inj read
          have parts : ∀ d ∈ rest.takeWhile isNamePart, isNamePart d = true :=
            fun d => List.mem_takeWhile_imp
          have stops := stops_drop_takeWhile isNamePart rest
          obtain ⟨body, next, shape, length, joined, ends⟩ :=
            Joined.of_extent ':' starts parts stops
          rw [takeWhile_append_drop] at shape
          refine ⟨body, next, shape, ?_, joined, ends⟩
          rw [length, ← nameExtent_append parts stops, takeWhile_append_drop]
      | false =>
          rw [front_of_symbol quote digit starts] at read
          cases found : symbol? c rest.head? with
          | none =>
              rw [found] at read
              exact (known (Prod.mk.inj read).1.symm).elim
          | some pair =>
              rw [found] at read
              obtain rfl : pair = (kind, extent) := read
              exact isLexeme_of_symbol? found

end HtmlQuery.XPath.Token
