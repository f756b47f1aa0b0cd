import HtmlQuery.Proofs.XPath.Lexeme

/-! Rows of tokens and the texts they stand for. Cutting an expression into tokens undoes laying them
out with white space around them, so it commutes with putting expressions one behind the other.
-/

namespace HtmlQuery.XPath.Token

open HtmlQuery.Text

/-- Readable tokens laid out as a text that begins at a position: there may be white space around
all of them, and none is prolonged by what follows it.
-/
inductive Laid : Nat → List Token → List Char → Prop
  | done {start gap} (blank : ∀ c ∈ gap, isBlank c = true) : Laid start [] gap
  | token {start gap kind text tokens next} (blank : ∀ c ∈ gap, isBlank c = true)
    (lexeme : IsLexeme kind text) (ends : Ends kind text next)
    (more : Laid (start + gap.length + text.length) tokens next)
    : Laid start (⟨start + gap.length, kind, String.ofList text⟩ :: tokens) (gap ++ text ++ next)

-----------------------------------------------------------------------------------------
-- Scanning undoes laying out
-----------------------------------------------------------------------------------------

/-- White space in front of an expression only moves its tokens. -/
theorem scanFrom_gap (start : Nat) {gap : List Char} (blank : ∀ c ∈ gap, isBlank c = true)
    (text : List Char)
    : scanFrom start (gap ++ text) = scanFrom (start + gap.length) text := by
  induction gap generalizing start with
  | nil => rfl
  | cons c rest ih =>
      rw [List.cons_append, scanFrom, if_pos (blank c (by simp)),
        ih (start + 1) fun d member => blank d (by simp [member])]
      simp only [List.length_cons]
      congr 1
      omega

/-- No token begins with white space. -/
theorem isBlank_head_of_isLexeme {kind : TokenKind} {c : Char} {body : List Char}
    (lexeme : IsLexeme kind (c :: body))
    : isBlank c = false := by
  cases blank : isBlank c with
  | false => rfl
  | true =>
      obtain ⟨noWord, noDigit⟩ := not_word_of_isBlank blank
      have noMark : c ∉ marks := fun mark => by simp [(not_word_of_mem_marks mark).2.2] at blank
      cases kind with
      | string =>
          obtain ⟨delimiter, inner, quote, -, text⟩ := lexeme
          obtain ⟨rfl, -⟩ := List.cons.inj text
          exact (noMark (by rcases quote with rfl | rfl <;> decide)).elim
      | number =>
          have starts : isDigit c = true := by cases lexeme <;> assumption
          simp [starts] at noDigit
      | name =>
          have starts : isNameStart c = true := by cases lexeme <;> assumption
          simp [isNameStart, noWord] at starts
      | error => exact lexeme.elim
      | relation =>
          simp only [IsLexeme, List.mem_cons, List.not_mem_nil, or_false] at lexeme
          rcases lexeme with text | text | text | text | text | text <;>
            exact (noMark (by simp [(List.cons.inj text).1, marks])).elim
      | doubleSlash | slash | asterisk | doubleColon | doubleDot | dot | openBracket
      | closeBracket | atSign | openParen | closeParen | comma | bar =>
          exact (noMark (by simp [(List.cons.inj lexeme).1, marks])).elim

/-- The texts of tokens aren't empty. -/
theorem ne_nil_of_isLexeme {kind : TokenKind} {text : List Char} (lexeme : IsLexeme kind text)
    : text ≠ [] := by
  rintro rfl
  cases kind <;> simp [IsLexeme] at lexeme
  all_goals cases lexeme

/-- A readable token at the front is cut off, and the scan goes on behind it. -/
theorem scanFrom_lexeme (start : Nat) {kind : TokenKind} {text next : List Char}
    (lexeme : IsLexeme kind text) (ends : Ends kind text next)
    : scanFrom start (text ++ next)
      = ⟨start, kind, String.ofList text⟩ :: scanFrom (start + text.length) next := by
  cases text with
  | nil => exact (ne_nil_of_isLexeme lexeme rfl).elim
  | cons c body =>
      rw [List.cons_append, scanFrom, isBlank_head_of_isLexeme lexeme]
      simp only [Bool.false_eq_true, if_false, front_of_ends lexeme ends, List.take_left,
        List.drop_left, List.length_cons]
      congr 2
      omega

/-- Tokens that were laid out are found again, by induction on the layout. -/
theorem Laid.scanFrom_eq {start : Nat} {tokens : List Token} {text : List Char}
    (laid : Laid start tokens text)
    : scanFrom start text = tokens := by
  induction laid with
  | @done start gap blank =>
      have scanned := scanFrom_gap start blank []
      simpa [scanFrom] using scanned
  | @token start gap kind text tokens next blank lexeme ends _ ih =>
      rw [List.append_assoc, scanFrom_gap start blank, scanFrom_lexeme _ lexeme ends, ih]

/-- One more blank in front of a layout. -/
theorem Laid.blank {start : Nat} {c : Char} {tokens : List Token} {text : List Char}
    (blank : isBlank c = true) (laid : Laid (start + 1) tokens text)
    : Laid start tokens (c :: text) := by
  have more {gap : List Char} (others : ∀ d ∈ gap, isBlank d = true)
      : ∀ d ∈ c :: gap, isBlank d = true := by
    intro d member
    rcases List.mem_cons.mp member with rfl | member
    · exact blank
    · exact others d member
  cases laid with
  | done others => exact .done (more others)
  | @token _ gap kind text tokens next others lexeme ends rest =>
      have place : start + 1 + gap.length = start + (c :: gap).length := by
        simp only [List.length_cons]
        omega
      rw [place] at rest ⊢
      exact .token (more others) lexeme ends rest

/-- The tokens of an expression are laid out as it, as long as all of it can be read. -/
theorem laid_of_scanFrom {start : Nat} {text : List Char}
    (readable : ∀ token ∈ scanFrom start text, token.kind ≠ .error)
    : Laid start (scanFrom start text) text := by
  fun_induction scanFrom start text with
  | case1 start => exact .done (by simp)
  | case2 start c rest blank ih => exact (ih readable).blank blank
  | case3 start c rest _ kind extent read ih =>
      obtain ⟨body, next, rfl, rfl, lexeme, ends⟩ :=
        isLexeme_of_front read (readable _ List.mem_cons_self)
      rw [List.drop_left] at ih ⊢
      rw [List.take_left]
      have later := ih fun token member => readable token (by simp [member])
      have place : start + 1 + body.length = start + ([] : List Char).length + (c :: body).length := by
        simp only [List.length_nil, List.length_cons]
        omega
      rw [place] at later ⊢
      have noGap : ∀ d ∈ ([] : List Char), isBlank d = true := by simp
      exact .token noGap lexeme ends later

/-- One more token directly in front of a layout. -/
theorem Laid.lexeme {start : Nat} {kind : TokenKind} {text next : List Char} {tokens : List Token}
    (lexeme : IsLexeme kind text) (ends : Ends kind text next)
    (more : Laid (start + text.length) tokens next)
    : Laid start (⟨start, kind, String.ofList text⟩ :: tokens) (text ++ next) := by
  have nothing : ∀ c ∈ ([] : List Char), isBlank c = true := by simp
  exact .token nothing lexeme ends more

/-- A row of tokens needs some text. -/
theorem Laid.ne_nil_of_cons {start : Nat} {token : Token} {tokens : List Token} {text : List Char}
    (laid : Laid start (token :: tokens) text)
    : text ≠ [] := by
  cases laid with
  | token _ lexeme _ _ => simp [ne_nil_of_isLexeme lexeme]

/-- What is laid out is readable. -/
theorem Laid.readable {start : Nat} {tokens : List Token} {text : List Char}
    (laid : Laid start tokens text)
    : ∀ token ∈ tokens, token.kind ≠ .error := by
  induction laid with
  | done => simp
  | token _ lexeme _ _ ih =>
      intro token member
      rcases List.mem_cons.mp member with rfl | member
      · rintro rfl
        exact lexeme
      · exact ih token member

/-- Readable expressions are exactly the layouts of their tokens. -/
theorem scanFrom_eq_iff {start : Nat} {tokens : List Token} {text : List Char}
    : scanFrom start text = tokens ∧ (∀ token ∈ tokens, token.kind ≠ .error)
      ↔ Laid start tokens text := by
  constructor
  · rintro ⟨rfl, readable⟩
    exact laid_of_scanFrom readable
  · exact fun laid => ⟨laid.scanFrom_eq, laid.readable⟩

-----------------------------------------------------------------------------------------
-- Expressions behind one another
-----------------------------------------------------------------------------------------

theorem Stops.append {belongs : Char → Bool} {next text : List Char} (left : Stops belongs next)
    (right : Stops belongs text)
    : Stops belongs (next ++ text) := by
  cases next with
  | nil => exact right
  | cons c rest => exact fun d member => left d (by simpa using member)

theorem Stops.mono {belongs fewer : Char → Bool} {text : List Char} (stops : Stops belongs text)
    (within : ∀ c, fewer c = true → belongs c = true)
    : Stops fewer text := by
  intro c member
  cases found : fewer c with
  | false => rfl
  | true => simpa [stops c member] using within c found

/-- A text begins with no character that could prolong the readable text in front of it; behind a
slash it begins with no other one.
-/
structure Detached (last : Option TokenKind) (text : List Char) : Prop where
  digit : Stops isDigit text
  part : Stops isNamePart text
  colon : Stops (· == ':') text
  equals : Stops (· == '=') text
  slash : last = some .slash → Stops (· == '/') text

theorem Detached.of_apart {c : Char} {last : Option TokenKind} (noDigit : isDigit c = false)
    (noPart : isNamePart c = false) (noColon : c ≠ ':') (noEquals : c ≠ '=')
    (noSlash : last = some .slash → c ≠ '/') (rest : List Char)
    : Detached last (c :: rest) := by
  have head {belongs : Char → Bool} (stops : belongs c = false) : Stops belongs (c :: rest) := by
    rintro d ⟨⟩
    exact stops
  exact {
    digit := head noDigit
    part := head noPart
    colon := head (by simpa using noColon)
    equals := head (by simpa using noEquals)
    slash := fun same => head (by simpa using noSlash same)
  }

/-- A text does not prolong a row that what follows already does not prolong if it goes on with neither
that row nor with a second one.
-/
theorem EndsJoined.append {mark : Char} {start part : Char → Bool} {text next more : List Char}
    (ends : EndsJoined mark start part text next) (inner : Stops part more)
    (outer : Stops start more) (unjoined : ∀ rest, more = mark :: rest → Stops start rest)
    : EndsJoined mark start part text (next ++ more) := by
  refine ⟨ends.1.append inner, ends.2.imp_right fun further => ?_⟩
  intro rest shape
  cases next with
  | nil => exact unjoined rest shape
  | cons c next =>
      obtain ⟨rfl, rfl⟩ := List.cons.inj shape
      exact (further next rfl).append outer

/-- A text that doesn't begin with a mark joins nothing. -/
theorem Stops.unjoined {mark : Char} {text : List Char} (unmarked : Stops (· == mark) text)
    (start : Char → Bool)
    : ∀ rest, text = mark :: rest → Stops start rest := by
  rintro rest rfl
  simpa using unmarked mark rfl

/-- Detached text does not prolong a token that what follows already does not prolong. -/
theorem Ends.append {kind : TokenKind} {text next more : List Char} (ends : Ends kind text next)
    {last : Option TokenKind} (detached : Detached last more) (seam : next = [] → last = some kind)
    : Ends kind text (next ++ more) := by
  have dot : Stops (· == '.') more :=
    detached.part.mono fun c same => by simp [isNamePart, beq_iff_eq.mp same]
  cases kind with
  | number => exact EndsJoined.append ends detached.digit detached.digit (dot.unjoined isDigit)
  | name =>
      refine EndsJoined.append ends detached.part (detached.part.mono ?_)
        (detached.colon.unjoined isNameStart)
      intro c starts
      simp only [isNameStart, Bool.and_eq_true] at starts
      simp [isNamePart, starts.1]
  | slash =>
      cases next with
      | nil => exact detached.slash (seam rfl)
      | cons c rest => exact fun d member => ends d (by simpa using member)
  | dot => exact Stops.append ends dot
  | relation => exact fun short => (ends short).append detached.equals
  | _ => trivial

/-- Two colons prolong no token, not even a name, which goes on behind a single one only. -/
theorem Ends.append_colons {kind : TokenKind} {text next : List Char} (ends : Ends kind text next)
    (rest : List Char)
    : Ends kind text (next ++ ':' :: ':' :: rest) := by
  have head {belongs : Char → Bool} (other : belongs ':' = false) (rest : List Char)
      : Stops belongs (':' :: rest) := by
    rintro c ⟨⟩
    exact other
  cases kind with
  | number =>
      exact EndsJoined.append ends (head (by decide) _) (head (by decide) _)
        ((head (by decide) _).unjoined isDigit)
  | name =>
      refine EndsJoined.append ends (head (by decide) _) (head (by decide) _) ?_
      rintro more ⟨⟩
      exact head (by decide) rest
  | slash | dot => exact Stops.append ends (head (by decide) _)
  | relation => exact fun short => (ends short).append (head (by decide) _)
  | _ => trivial

/-- Layouts behind one another make a layout if the second text prolongs no token of the first one, by
induction on that.
-/
theorem Laid.append_of_ends {start : Nat} {tokens others : List Token} {text more : List Char}
    (left : Laid start tokens text)
    (apart : ∀ {kind text next}, Ends kind text next →
      (next = [] → tokens.getLast?.map Token.kind = some kind) → Ends kind text (next ++ more))
    (right : Laid (start + text.length) others more)
    : Laid start (tokens ++ others) (text ++ more) := by
  induction left with
  | @done start gap blank =>
      clear apart
      induction gap generalizing start with
      | nil => exact right
      | cons c gap ih =>
          refine Laid.blank (blank c (by simp)) (ih (fun d member => blank d (by simp [member])) ?_)
          simpa only [List.length_cons, Nat.add_assoc, Nat.add_comm 1] using right
  | @token start gap kind text tokens next blank lexeme ends rest ih =>
      have seam : next = [] → ((⟨start + gap.length, kind, String.ofList text⟩ : Token)
          :: tokens).getLast?.map Token.kind = some kind := by
        rintro rfl
        cases tokens with
        | nil => rfl
        | cons token tokens => exact (rest.ne_nil_of_cons rfl).elim
      rw [List.append_assoc]
      refine .token blank lexeme (apart ends seam) (ih ?_ ?_)
      · intro kind text next ends seam
        refine apart ends fun empty => ?_
        cases tokens with
        | nil => cases seam empty
        | cons token tokens => simpa using seam empty
      · simpa only [List.length_append, Nat.add_assoc] using right

/-- Layouts behind one another make a layout, unless the second text prolongs the last token. -/
theorem Laid.append {start : Nat} {tokens others : List Token} {text more : List Char}
    (left : Laid start tokens text)
    (detached : Detached (tokens.getLast?.map Token.kind) more)
    (right : Laid (start + text.length) others more)
    : Laid start (tokens ++ others) (text ++ more) :=
  left.append_of_ends (fun ends seam => ends.append detached seam) right

-----------------------------------------------------------------------------------------
-- Moving expressions
-----------------------------------------------------------------------------------------

/-- The token some characters later. -/
def moved (distance : Nat) (token : Token) : Token :=
  { token with position := distance + token.position }

/-- Where an expression begins only shows in the positions of its tokens. -/
theorem scanFrom_add (distance start : Nat) (text : List Char)
    : scanFrom (distance + start) text = (scanFrom start text).map (moved distance) := by
  fun_induction scanFrom start text with
  | case1 => simp [scanFrom]
  | case2 start c rest blank ih => rw [scanFrom, if_pos blank, ← ih, Nat.add_assoc]
  | case3 start c rest visible kind extent read ih =>
      rw [scanFrom, if_neg visible]
      simp only [read]
      rw [List.map_cons, ← ih]
      simp only [moved, Nat.add_assoc]

-----------------------------------------------------------------------------------------
-- Unreadable rests and positions
-----------------------------------------------------------------------------------------

/-- What can't be read reaches to the end of the expression. -/
theorem extent_of_error {c : Char} {rest : List Char} {extent : Nat}
    (read : front c rest = (.error, extent))
    : extent = rest.length := by
  unfold front at read
  split at read
  · split at read
    · cases read
    · exact (Prod.mk.inj read).2.symm
  · split at read
    · cases read
    · split at read
      · cases read
      · cases found : symbol? c rest.head? with
        | none =>
            rw [found] at read
            exact (Prod.mk.inj read).2.symm
        | some pair =>
            rw [found] at read
            obtain rfl : pair = (.error, extent) := read
            obtain ⟨_, _, _, _, lexeme, _⟩ := isLexeme_of_symbol? found
            exact lexeme.elim

/-- Nothing follows what can't be read, by induction on the scan. -/
theorem eq_nil_of_error {start : Nat} {text : List Char} {before after : List Token} {token : Token}
    (scanned : scanFrom start text = before ++ token :: after) (error : token.kind = .error)
    : after = [] := by
  fun_induction scanFrom start text generalizing before with
  | case1 => simp at scanned
  | case2 start c rest _ ih => exact ih scanned
  | case3 start c rest _ kind extent read ih =>
      cases before with
      | nil =>
          obtain ⟨rfl, tail⟩ := List.cons.inj scanned
          obtain rfl : kind = .error := error
          rw [extent_of_error read, List.drop_length, scanFrom] at tail
          exact tail.symm
      | cons head before => exact ih (List.cons.inj scanned).2

-----------------------------------------------------------------------------------------
-- Expressions that are cut in front of a token
-----------------------------------------------------------------------------------------

theorem Stops.of_append {belongs : Char → Bool} {next more : List Char}
    (stops : Stops belongs (next ++ more))
    : Stops belongs next := by
  cases next with
  | nil => simp [Stops]
  | cons c rest => exact stops

/-- What does not prolong a row of a class does not do so either when it is cut. -/
theorem EndsJoined.of_append {mark : Char} {start part : Char → Bool} {text next more : List Char}
    (ends : EndsJoined mark start part text (next ++ more))
    : EndsJoined mark start part text next := by
  refine ⟨ends.1.of_append, ends.2.imp_right fun further => ?_⟩
  rintro rest rfl
  exact (further (rest ++ more) rfl).of_append

/-- What does not prolong a token does not do so either when it is cut. -/
theorem Ends.of_append {kind : TokenKind} {text next more : List Char}
    (ends : Ends kind text (next ++ more))
    : Ends kind text next := by
  cases kind with
  | number | name => exact EndsJoined.of_append ends
  | slash | dot => exact Stops.of_append ends
  | relation => exact fun short => (ends short).of_append
  | _ => trivial

/-- The tokens in front of another one are laid out as the text in front of it, by induction on the
scan: no token looks beyond the place where the next one begins.
-/
theorem laid_of_scanFrom_append {start : Nat} {text : List Char} {before after : List Token}
    {token : Token} (scanned : scanFrom start text = before ++ token :: after)
    : ∃ front c back,
        text = front ++ c :: back
        ∧ token.position = start + front.length
        ∧ isBlank c = false
        ∧ Laid start before front := by
  fun_induction scanFrom start text generalizing before with
  | case1 => simp at scanned
  | case2 start c rest blank ih =>
      obtain ⟨front, d, back, rfl, place, visible, laid⟩ := ih scanned
      refine ⟨c :: front, d, back, rfl, ?_, visible, laid.blank blank⟩
      simp only [place, List.length_cons]
      omega
  | case3 start c rest visible kind extent read ih =>
      cases before with
      | nil =>
          obtain ⟨rfl, -⟩ := List.cons.inj scanned
          exact ⟨[], c, rest, rfl, rfl, by simpa using visible, .done (by simp)⟩
      | cons head before =>
          obtain ⟨rfl, behind⟩ := List.cons.inj scanned
          have readable : kind ≠ .error := by
            rintro rfl
            simp [extent_of_error read, scanFrom] at behind
          obtain ⟨body, next, rfl, rfl, lexeme, ends⟩ := isLexeme_of_front read readable
          rw [List.drop_left] at ih behind
          obtain ⟨front, d, back, rfl, place, visible', laid⟩ := ih behind
          refine ⟨(c :: body) ++ front, d, back, by simp, ?_, visible', ?_⟩
          · simp only [place, List.length_append, List.length_cons]
            omega
          · rw [List.take_left]
            have shift : start + 1 + body.length
                = start + ([] : List Char).length + (c :: body).length := by
              simp only [List.length_nil, List.length_cons]
              omega
            rw [shift] at laid
            exact .token (by simp) lexeme ends.of_append laid

/-- Each token begins with a visible character. -/
theorem visible_of_mem_scanFrom {start : Nat} {text : List Char} {token : Token}
    (member : token ∈ scanFrom start text)
    : ∃ before c after,
        text = before ++ c :: after
        ∧ token.position = start + before.length
        ∧ isBlank c = false := by
  obtain ⟨before, after, scanned⟩ := List.append_of_mem member
  obtain ⟨front, c, back, shape, place, visible, -⟩ := laid_of_scanFrom_append scanned
  exact ⟨front, c, back, shape, place, visible⟩

/-- Tokens begin within the text that they are laid out as, by induction on the layout. -/
theorem Laid.position_lt {start : Nat} {tokens : List Token} {text : List Char}
    (laid : Laid start tokens text)
    : ∀ token ∈ tokens, token.position < start + text.length := by
  induction laid with
  | done => simp
  | @token start gap kind text tokens next _ lexeme _ _ ih =>
      have some := List.length_pos_iff.mpr (ne_nil_of_isLexeme lexeme)
      intro token member
      simp only [List.length_append]
      rcases List.mem_cons.mp member with rfl | member
      · simp only
        omega
      · have within := ih token member
        omega

-----------------------------------------------------------------------------------------
-- White space behind the last token
-----------------------------------------------------------------------------------------

/-- Names and numbers are made of the characters of their class and the mark that joins them. -/
theorem Joined.mem {mark : Char} {start part : Char → Bool} {text : List Char}
    (joined : Joined mark start part text)
    : ∀ c ∈ text, start c = true ∨ part c = true ∨ c = mark := by
  cases joined with
  | single starts parts =>
      intro c member
      rcases List.mem_cons.mp member with rfl | member
      · exact .inl starts
      · exact .inr (.inl (parts c member))
  | double starts parts again others =>
      intro c member
      rcases List.mem_cons.mp member with rfl | member
      · exact .inl starts
      · rcases List.mem_append.mp member with member | member
        · exact .inr (.inl (parts c member))
        · rcases List.mem_cons.mp member with rfl | member
          · exact .inr (.inr rfl)
          · rcases List.mem_cons.mp member with rfl | member
            · exact .inl again
            · exact .inr (.inl (others c member))

/-- What joins two rows occurs once, and not in a single row. -/
theorem Joined.count_le {mark : Char} {start part : Char → Bool} {text : List Char}
    (noStart : start mark = false) (noPart : part mark = false)
    (joined : Joined mark start part text)
    : text.count mark ≤ 1 := by
  have none {row : List Char} (parts : ∀ c ∈ row, part c = true) : row.count mark = 0 :=
    List.count_eq_zero.mpr fun member => by simp [parts mark member] at noPart
  have other {c : Char} (starts : start c = true) : c ≠ mark := by
    rintro rfl
    simp [starts] at noStart
  cases joined with
  | single starts parts => simp [none parts, other starts]
  | double starts parts again others =>
      simp [none parts, none others, other starts, other again]

/-- There is no white space in names. -/
theorem isBlank_of_mem_name {text : List Char} (named : IsLexeme .name text)
    : ∀ c ∈ text, isBlank c = false := by
  intro c member
  cases blank : isBlank c with
  | false => rfl
  | true =>
      obtain ⟨noWord, noDigit⟩ := not_word_of_isBlank blank
      rcases Joined.mem named c member with starts | part | rfl
      · simp [isNameStart, noWord] at starts
      · rcases (by simpa [isNamePart, noWord] using part : c = '.' ∨ c = '-') with rfl | rfl <;>
          exact absurd blank (by decide)
      · exact absurd blank (by decide)

/-- No token ends with white space. -/
theorem isBlank_getLast_of_isLexeme {kind : TokenKind} {text : List Char} {c : Char}
    (lexeme : IsLexeme kind text) (last : text.getLast? = some c)
    : isBlank c = false := by
  cases kind with
  | string =>
      obtain ⟨delimiter, inner, quote, -, rfl⟩ := lexeme
      rw [← List.cons_append, List.getLast?_concat] at last
      cases last
      rcases quote with rfl | rfl <;> decide
  | number =>
      cases blank : isBlank c with
      | false => rfl
      | true =>
          obtain ⟨-, noDigit⟩ := not_word_of_isBlank blank
          rcases Joined.mem lexeme c (List.mem_of_getLast? last) with digit | digit | rfl
          · simp [noDigit] at digit
          · simp [noDigit] at digit
          · exact absurd blank (by decide)
  | name => exact isBlank_of_mem_name lexeme c (List.mem_of_getLast? last)
  | error => exact lexeme.elim
  | relation =>
      simp only [IsLexeme, List.mem_cons, List.not_mem_nil, or_false] at lexeme
      rcases lexeme with rfl | rfl | rfl | rfl | rfl | rfl <;> (cases last; decide)
  | doubleSlash | slash | asterisk | doubleColon | doubleDot | dot | openBracket | closeBracket
    | atSign | openParen | closeParen | comma | bar =>
      obtain rfl := lexeme
      cases last
      decide

/-- White space at the end belongs to no token, by induction on the layout. -/
theorem Laid.of_append_blank {start : Nat} {tokens : List Token} {text back : List Char}
    (blank : ∀ c ∈ back, isBlank c = true) (laid : Laid start tokens (text ++ back))
    : Laid start tokens text := by
  generalize shape : text ++ back = whole at laid
  induction laid generalizing text with
  | done all => exact .done fun c member => all c (shape ▸ List.mem_append_left back member)
  | @token start gap kind word tokens next gapped lexeme ends more ih =>
      rcases List.append_eq_append_iff.mp shape with ⟨middle, front, rfl⟩ | ⟨middle, rfl, behind⟩
      · rcases List.eq_nil_or_concat middle with rfl | ⟨before, c, rfl⟩
        · rw [List.append_nil] at front
          rw [← front, ← List.append_nil (gap ++ word)]
          exact .token gapped lexeme ends.of_append (ih rfl)
        · have last : word.getLast? = some c := by
            have same := congrArg List.getLast? front
            rw [List.getLast?_append, List.getLast?_eq_some_getLast (ne_nil_of_isLexeme lexeme)]
              at same
            simpa [List.getLast?_eq_some_getLast (ne_nil_of_isLexeme lexeme)] using same
          have visible := isBlank_getLast_of_isLexeme lexeme last
          simp [blank c (by simp)] at visible
      · rw [behind] at ends
        exact .token gapped lexeme ends.of_append (ih behind.symm)

end HtmlQuery.XPath.Token
