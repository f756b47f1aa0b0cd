import HtmlQuery.Proofs.XPath.Lossless
import HtmlQuery.Proofs.XPath.Surroundings

/-! White space between tokens. An expression means the same however much of it there is, as long as
there is some wherever tokens meet; not even what can't be read makes a difference.
-/

namespace HtmlQuery.XPath

open HtmlQuery.Text

namespace Token

/-- Texts one behind the other with white space between neighbours. -/
inductive Spread : List String → List Char → Prop
  | nil : Spread [] []
  | single (text) : Spread [text] text.toList
  | cons (text) {other texts gap next} (blank : ∀ c ∈ gap, isBlank c = true) (apart : gap ≠ [])
    (more : Spread (other :: texts) next)
    : Spread (text :: other :: texts) (text.toList ++ (gap ++ next))

/-- Whether an expression consists of texts with white space between neighbours, and perhaps around
them.
-/
def Respaces (texts : List String) (expression : String) : Prop :=
  ∃ front inner back,
    expression.toList = front ++ (inner ++ back)
    ∧ (∀ c ∈ front, isBlank c = true)
    ∧ Spread texts inner
    ∧ ∀ c ∈ back, isBlank c = true

/-- The kind and the text of a token; one that can't be read is trimmed at its end. -/
def content (token : Token) : TokenKind × String :=
  match token.kind with
  | .error => (.error, String.ofList (trimEnd token.text.toList))
  | kind => (kind, token.text)

-----------------------------------------------------------------------------------------
-- Texts that can't be read
-----------------------------------------------------------------------------------------

/-- White space doesn't close a string that is never closed. -/
theorem closingDistance?_append_blank {delimiter : Char}
    (quote : delimiter = '"' ∨ delimiter = '\'') {rest back : List Char}
    (never : closingDistance? delimiter rest = none) (blank : ∀ c ∈ back, isBlank c = true)
    : closingDistance? delimiter (rest ++ back) = none := by
  have other : delimiter ≠ '\\' := by rcases quote with rfl | rfl <;> decide
  have absent : delimiter ∉ back := by
    intro inside
    rcases quote with rfl | rfl <;> exact absurd (blank _ inside) (by decide)
  cases found : closingDistance? delimiter (rest ++ back) with
  | none => rfl
  | some distance =>
      obtain ⟨body, next, shape, -, quoted⟩ := quoted_of_closingDistance? found
      -- A delimiter that closes the string isn't in the white space, so it closes it without that.
      rcases List.append_eq_append_iff.mp shape with ⟨middle, rfl, behind⟩ | ⟨middle, rfl, behind⟩
      · exact (absent (by simp [behind])).elim
      · cases middle with
        | nil =>
            have inside : delimiter ∈ [] ++ back := behind ▸ List.mem_cons_self
            exact (absent inside).elim
        | cons d middle =>
            obtain ⟨rfl, -⟩ := List.cons.inj behind
            rw [closingDistance?_of_quoted other quoted] at never
            cases never

/-- A character that is no symbol alone isn't one in front of white space. -/
theorem symbol?_blank {c d : Char} (alone : symbol? c none = none) (blank : isBlank d = true)
    : symbol? c (some d) = none := by
  have colon : d ≠ ':' := by
    rintro rfl
    exact absurd blank (by decide)
  have equals : d ≠ '=' := by
    rintro rfl
    exact absurd blank (by decide)
  unfold symbol? at alone ⊢
  split at alone <;> simp_all

/-- What can't be read can't be read with white space at its end, either. -/
theorem front_append_blank {c : Char} {rest back : List Char}
    (stuck : front c rest = (.error, rest.length)) (blank : ∀ c ∈ back, isBlank c = true)
    : front c (rest ++ back) = (.error, (rest ++ back).length) := by
  by_cases quote : c = '"' ∨ c = '\''
  · rw [front_of_quote quote] at stuck ⊢
    cases found : closingDistance? c rest with
    | none => rw [closingDistance?_append_blank quote found blank]; rfl
    | some distance =>
        rw [found] at stuck
        cases stuck
  -- Numbers and names are always read, so only a symbol is left.
  cases digit : isDigit c with
  | true =>
      rw [front_of_isDigit digit] at stuck
      cases stuck
  | false =>
      cases starts : isNameStart c with
      | true =>
          rw [front_of_isNameStart starts] at stuck
          cases stuck
      | false =>
          rw [front_of_symbol quote digit starts] at stuck ⊢
          have none : symbol? c rest.head? = none := by
            cases found : symbol? c rest.head? with
            | none => rfl
            | some pair =>
                rw [found] at stuck
                obtain rfl : pair = (.error, rest.length) := stuck
                obtain ⟨_, _, _, _, lexeme, _⟩ := isLexeme_of_symbol? found
                exact lexeme.elim
          have none' : symbol? c (rest ++ back).head? = Option.none := by
            cases rest with
            | cons d rest => exact none
            | nil =>
                cases back with
                | nil => exact none
                | cons d back => exact symbol?_blank none (blank d List.mem_cons_self)
          rw [none']
          rfl

theorem trimEnd_append_blank (text : List Char) {back : List Char}
    (blank : ∀ c ∈ back, isBlank c = true)
    : trimEnd (text ++ back) = trimEnd text := by
  rw [trimEnd, List.reverse_append, List.dropWhile_append_of_pos, trimEnd]
  exact fun c member => blank c (List.mem_reverse.mp member)

-----------------------------------------------------------------------------------------
-- Tokens that are found again
-----------------------------------------------------------------------------------------

/-- Tokens that are readable, each on its own, but perhaps for the last one. -/
inductive Legible : List Token → Prop
  | nil : Legible []
  | readable {token tokens} (lexeme : IsLexeme token.kind token.text.toList)
    (more : Legible tokens)
    : Legible (token :: tokens)
  | unreadable {position c rest} (visible : isBlank c = false)
    (stuck : front c rest = (.error, rest.length))
    : Legible [⟨position, .error, String.ofList (c :: rest)⟩]

/-- The tokens of an expression are legible, by induction on the scan. -/
theorem legible_scanFrom (start : Nat) (text : List Char) : Legible (scanFrom start text) := by
  fun_induction scanFrom start text with
  | case1 => exact .nil
  | case2 _ _ _ _ ih => exact ih
  | case3 start c rest visible kind extent read ih =>
      by_cases error : kind = .error
      · subst error
        obtain rfl := extent_of_error read
        rw [List.take_length, List.drop_length, scanFrom]
        exact .unreadable (by simpa using visible) read
      · obtain ⟨body, next, rfl, rfl, lexeme, -⟩ := isLexeme_of_front read error
        rw [List.take_left, List.drop_left] at *
        exact .readable (by simpa using lexeme) ih

/-- White space alone has no tokens. -/
theorem scanFrom_blank (start : Nat) {gap : List Char} (blank : ∀ c ∈ gap, isBlank c = true)
    : scanFrom start gap = [] :=
  Laid.scanFrom_eq (.done blank)

/-- Legible tokens are found again wherever white space keeps them apart, by induction on them. -/
theorem Legible.content_scanFrom {tokens : List Token} (legible : Legible tokens)
    {inner back : List Char} (spread : Spread (tokens.map Token.text) inner)
    (blank : ∀ c ∈ back, isBlank c = true) (start : Nat)
    : (scanFrom start (inner ++ back)).map content = tokens.map content := by
  induction legible generalizing inner start with
  | nil =>
      cases spread
      rw [List.nil_append, scanFrom_blank start blank]
  | @readable token tokens lexeme more ih =>
      cases tokens with
      | nil =>
          cases spread
          have ends : Ends token.kind token.text.toList (back ++ []) :=
            ends_blank blank _ _ fun _ => rfl
          rw [List.append_nil] at ends
          rw [scanFrom_lexeme start lexeme ends, scanFrom_blank _ blank]
          simp [content]
      | cons other tokens =>
          cases spread with
          | @cons _ _ _ gap next blank' apart more =>
              have ends : Ends token.kind token.text.toList (gap ++ (next ++ back)) :=
                ends_blank blank' _ _ fun empty => (apart empty).elim
              rw [List.append_assoc, List.append_assoc, scanFrom_lexeme start lexeme ends,
                scanFrom_gap _ blank', List.map_cons, ih more]
              simp [content]
  | @unreadable position c rest visible stuck =>
      cases spread
      have stuck' := front_append_blank stuck blank
      rw [String.toList_ofList, List.cons_append, scanFrom, visible]
      simp only [Bool.false_eq_true, if_false, stuck', List.take_length, List.drop_length,
        List.map_cons]
      rw [scanFrom, ← List.cons_append]
      simp only [content, String.toList_ofList, trimEnd_append_blank _ blank, List.map_nil]

/-- An expression with other white space between its tokens has the same tokens. -/
theorem content_scan_eq {expression respaced : String}
    (respaces : Respaces ((scan expression).map Token.text) respaced)
    : (scan respaced).map content = (scan expression).map content := by
  obtain ⟨front, inner, back, shape, blank, spread, blank'⟩ := respaces
  rw [scan, shape, scanFrom_gap 0 blank]
  exact (legible_scanFrom 0 expression.toList).content_scanFrom spread blank' _

end Token

-----------------------------------------------------------------------------------------
-- What is read from the tokens
-----------------------------------------------------------------------------------------

namespace Token

/-- The token without its position and without what can't be read. -/
abbrev bare : Token → Token :=
  respelled (fun _ => 0) (fun _ => "")

/-- The content of a token is all that matters of it. -/
theorem bare_eq_of_content (token : Token)
    : bare token
      = respelled (fun _ => 0) (fun _ => "") ⟨0, token.content.fst, token.content.snd⟩ := by
  obtain ⟨position, kind, text⟩ := token
  cases kind <;> rfl

theorem map_bare_eq {tokens others : List Token} (same : tokens.map content = others.map content)
    : tokens.map bare = others.map bare := by
  have through (row : List Token)
      : row.map bare
        = (row.map content).map fun (kind, text) =>
          respelled (fun _ => 0) (fun _ => "") ⟨0, kind, text⟩ := by
    rw [List.map_map]
    exact List.map_congr_left fun token _ => bare_eq_of_content token
  rw [through, through, same]

end Token

/-- What was read of steps, apart from all that depends on positions and on what can't be read. -/
def Steps.gist (reading : Steps) : List Step × Nat × Bool :=
  (reading.steps, reading.ignored.length, reading.rest.isEmpty)

/-- Tokens with the same content are read as the same steps. -/
theorem Steps.gist_read_eq {isFirst : Bool} {tokens others : List Token}
    (same : tokens.map Token.content = others.map Token.content)
    : (read isFirst tokens).map gist = (read isFirst others).map gist := by
  have through (row : List Token)
      : (read isFirst row).map gist
        = ((read isFirst (row.map Token.bare)).map outline).map fun (steps, ignored, rest) =>
          (steps, ignored, rest.isEmpty) := by
    rw [read_respelled]
    cases read isFirst row with
    | error fault => rfl
    | ok reading => simp [Except.map, gist, outline]
  rw [through, through, Token.map_bare_eq same]

namespace Path

/-- The steps of a path, the number of its skipped predicates and whether it is complete. -/
def summary (path : Path) : List Step × Nat × Bool :=
  (path.steps, path.ignored.length, path.isComplete)

/-- What is read of an expression shows in its tokens. -/
theorem summary_read (expression : String)
    : (read expression).map summary
      = ((Steps.read true (Token.scan expression)).map Steps.gist).map
        fun (steps, ignored, ended) => (steps, ignored, !steps.isEmpty && ended) := by
  cases found : Steps.read true (Token.scan expression) with
  | error fault =>
      rw [read, found]
      rfl
  | ok reading =>
      obtain ⟨steps, ignored, rest⟩ := reading
      cases rest with
      | nil =>
          rw [read_of_steps found]
          simp [Except.map, summary, Steps.gist, isComplete]
      | cons token rest =>
          have member : token ∈ Token.scan expression :=
            Steps.rest_subset_of_read found List.mem_cons_self
          rw [read_of_rest found]
          simp [Except.map, summary, Steps.gist, isComplete, excerpt_ne_empty member]

/--
An expression that consists of another one's tokens, with any white space between neighbours and
around them, has the same tokens, apart from the white space at the end of what can't be read. So it
is read as the same steps, with the same number of skipped predicates, and completely just if the
other one is; or both are faults.
-/
theorem read_respaced {expression respaced : String}
    (respaces : Token.Respaces ((Token.scan expression).map Token.text) respaced)
    : (Token.scan respaced).map Token.content = (Token.scan expression).map Token.content
      ∧ (read respaced).map summary = (read expression).map summary := by
  have same := Token.content_scan_eq respaces
  refine ⟨same, ?_⟩
  rw [summary_read, summary_read, Steps.gist_read_eq same]

/-- White space within a predicate and around a string that is never closed. -/
theorem read_respaced_endless
    : Token.Respaces ((Token.scan "p[r]'s").map Token.text) "p [\tr ] 's\n"
      ∧ (Token.scan "p [\tr ] 's\n").map Token.content
        = [(.name, "p"), (.openBracket, "["), (.name, "r"), (.closeBracket, "]"), (.error, "'s")]
      ∧ (read "p [\tr ] 's\n").map summary = (read "p[r]'s").map summary := by
  have scanned : Token.scan "p[r]'s"
      = [⟨0, .name, "p"⟩, ⟨1, .openBracket, "["⟩, ⟨2, .name, "r"⟩, ⟨3, .closeBracket, "]"⟩,
        ⟨4, .error, "'s"⟩] := by
    decide +kernel
  have gap {c : Char} (blank : isBlank c = true) : ∀ d ∈ [c], isBlank d = true := by
    simpa using blank
  have blank : ∀ c ∈ [' '], isBlank c = true := gap (by decide)
  have spread : Token.Spread ((Token.scan "p[r]'s").map Token.text) "p [\tr ] 's".toList := by
    rw [scanned]
    exact .cons "p" blank (by simp) (.cons "[" (gap (by decide)) (by simp)
      (.cons "r" blank (by simp) (.cons "]" blank (by simp) (.single "'s"))))
  have respaces : Token.Respaces ((Token.scan "p[r]'s").map Token.text) "p [\tr ] 's\n" :=
    ⟨[], _, ['\n'], rfl, by simp, spread, gap (by decide)⟩
  obtain ⟨same, alike⟩ := read_respaced respaces
  rw [scanned] at same
  exact ⟨respaces, same, alike⟩

end Path

end HtmlQuery.XPath
