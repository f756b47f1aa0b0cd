import HtmlQuery.Proofs.XPath.TokenRow

/-! Cutting an expression into tokens loses nothing but white space. An expression may itself be cut
in front of any of its tokens: both parts have the tokens that they have within the whole.
-/

namespace HtmlQuery.XPath.Token

open HtmlQuery.Text

/-- The place behind a token. -/
def stop (token : Token) : Nat :=
  token.position + token.text.length

/-- Tokens laid out as a text that begins at a position, readable or not: there is white space
around them, and nothing follows one that can't be read.
-/
inductive Tiles : Nat → List Token → List Char → Prop
  | done {start gap} (blank : ∀ c ∈ gap, isBlank c = true) : Tiles start [] gap
  | token {start gap kind text tokens next} (blank : ∀ c ∈ gap, isBlank c = true)
    (some : text ≠ []) (final : kind = .error → next = [])
    (more : Tiles (start + gap.length + text.length) tokens next)
    : Tiles start (⟨start + gap.length, kind, String.ofList text⟩ :: tokens) (gap ++ text ++ next)

-----------------------------------------------------------------------------------------
-- Scanning lays tokens out
-----------------------------------------------------------------------------------------

/-- A token ends within the expression, whatever its kind. -/
theorem extent_le {c : Char} {rest : List Char} {kind : TokenKind} {extent : Nat}
    (read : front c rest = (kind, extent))
    : extent ≤ rest.length := by
  by_cases error : kind = .error
  · rw [error] at read
    exact (extent_of_error read).le
  · obtain ⟨body, next, rfl, rfl, -, -⟩ := isLexeme_of_front read error
    simp

/-- One more blank in front of the tokens. -/
theorem Tiles.blank {start : Nat} {c : Char} {tokens : List Token} {text : List Char}
    (blank : isBlank c = true) (tiles : Tiles (start + 1) tokens text)
    : Tiles start tokens (c :: text) := by
  have more {gap : List Char} (others : ∀ d ∈ gap, isBlank d = true)
      : ∀ d ∈ c :: gap, isBlank d = true :=
    List.forall_mem_cons.mpr ⟨blank, others⟩
  cases tiles with
  | done others => exact .done (more others)
  | @token _ gap kind text tokens next others some final rest =>
      have place : start + 1 + gap.length = start + (c :: gap).length := by
        simp only [List.length_cons]
        omega
      rw [place] at rest ⊢
      exact .token (more others) some final rest

/-- The tokens of an expression are laid out as it, by induction on the scan. -/
theorem tiles_scanFrom (start : Nat) (text : List Char)
    : Tiles start (scanFrom start text) text := by
  fun_induction scanFrom start text with
  | case1 start => exact .done (by simp)
  | case2 start c rest blank ih => exact ih.blank blank
  | case3 start c rest _ kind extent read ih =>
      have length : (rest.take extent).length = extent := List.length_take_of_le (extent_le read)
      have final : kind = .error → rest.drop extent = [] := by
        rintro rfl
        rw [extent_of_error read, List.drop_length]
      have place : start + 1 + extent
          = start + ([] : List Char).length + (c :: rest.take extent).length := by
        simp only [List.length_nil, List.length_cons, length]
        omega
      rw [place] at ih ⊢
      have tiles := Tiles.token (by simp) (List.cons_ne_nil _ _) final ih
      rwa [List.nil_append, List.cons_append, List.take_append_drop] at tiles

-----------------------------------------------------------------------------------------
-- What is laid out where
-----------------------------------------------------------------------------------------

/-- A token's text stands at its position, by induction on the layout. -/
theorem Tiles.slice {start : Nat} {tokens : List Token} {text : List Char}
    (tiles : Tiles start tokens text) {token : Token} (member : token ∈ tokens)
    : ∃ before after,
        text = before ++ token.text.toList ++ after
        ∧ token.position = start + before.length
        ∧ token.text.toList ≠ [] := by
  induction tiles with
  | done => cases member
  | @token start gap kind text tokens next _ some _ _ ih =>
      rcases List.mem_cons.mp member with rfl | member
      · exact ⟨gap, next, by simp, rfl, by simpa using some⟩
      · obtain ⟨before, after, rfl, place, some⟩ := ih member
        refine ⟨gap ++ text ++ before, after, by simp, ?_, some⟩
        simp only [place, List.length_append]
        omega

/-- Each token ends before the next one begins, by induction on the layout. -/
theorem Tiles.ordered {start : Nat} {tokens : List Token} {text : List Char}
    (tiles : Tiles start tokens text)
    : tokens.Pairwise fun first second => first.stop ≤ second.position := by
  induction tiles with
  | done => exact .nil
  | @token start gap kind text tokens next _ _ _ more ih =>
      refine .cons (fun second member => ?_) ih
      obtain ⟨before, -, -, place, -⟩ := more.slice member
      simp only [stop, place, String.length_ofList]
      omega

/-- What is outside of all tokens is white space, by induction on the layout. -/
theorem Tiles.blank_outside {start : Nat} {tokens : List Token} {text : List Char}
    (tiles : Tiles start tokens text) {index : Nat} {c : Char} (found : text[index]? = some c)
    (outside : ∀ token ∈ tokens, ¬(token.position ≤ start + index ∧ start + index < token.stop))
    : isBlank c = true := by
  induction tiles generalizing index with
  | done blank => exact blank c (List.mem_of_getElem? found)
  | @token start gap kind text tokens next blank _ _ _ ih =>
      have first := outside _ List.mem_cons_self
      simp only [stop, String.length_ofList] at first
      by_cases early : index < gap.length
      · rw [List.append_assoc, List.getElem?_append_left early] at found
        exact blank c (List.mem_of_getElem? found)
      · have late : (gap ++ text).length ≤ index := by
          rw [List.length_append]
          omega
        rw [List.getElem?_append_right late] at found
        refine ih found fun token member inside => ?_
        refine outside token (List.mem_cons_of_mem _ member) ?_
        rw [List.length_append] at late inside
        omega

/-- A token that can't be read reaches to the end, by induction on the layout. -/
theorem Tiles.final {start : Nat} {tokens : List Token} {text : List Char}
    (tiles : Tiles start tokens text) {token : Token} (member : token ∈ tokens)
    (error : token.kind = .error)
    : tokens.getLast? = some token ∧ token.stop = start + text.length := by
  induction tiles with
  | done => cases member
  | @token start gap kind text tokens next _ _ final more ih =>
      rcases List.mem_cons.mp member with rfl | member
      · obtain rfl : next = [] := final error
        obtain rfl : tokens = [] := by
          by_contra some
          obtain ⟨other, within⟩ := List.exists_mem_of_ne_nil tokens some
          obtain ⟨before, after, nothing, -, filled⟩ := more.slice within
          simp_all
        simp [stop, Nat.add_assoc]
      · obtain ⟨last, place⟩ := ih member
        refine ⟨?_, ?_⟩
        · rw [List.getLast?_cons, last]
          rfl
        · simp only [place, List.length_append]
          omega

-----------------------------------------------------------------------------------------
-- Expressions that begin at a token
-----------------------------------------------------------------------------------------

/-- From the position of a token on, an expression has this token and those behind it, by induction
on the scan.
-/
theorem scanFrom_behind {start : Nat} {text : List Char} {before after : List Token} {token : Token}
    (scanned : scanFrom start text = before ++ token :: after)
    : ∃ front back,
        text = front ++ back
        ∧ token.position = start + front.length
        ∧ scanFrom token.position back = token :: after := by
  fun_induction scanFrom start text generalizing before with
  | case1 => simp at scanned
  | case2 start c rest blank ih =>
      obtain ⟨front, back, rfl, place, behind⟩ := ih scanned
      refine ⟨c :: front, back, rfl, ?_, behind⟩
      simp only [place, List.length_cons]
      omega
  | case3 start c rest visible kind extent read ih =>
      cases before with
      | nil =>
          obtain ⟨rfl, rfl⟩ := List.cons.inj scanned
          refine ⟨[], c :: rest, rfl, rfl, ?_⟩
          rw [scanFrom, if_neg visible]
          simp only [read]
      | cons head before =>
          obtain ⟨front, back, rest', place, behind⟩ := ih (List.cons.inj scanned).2
          refine ⟨c :: rest.take extent ++ front, back, ?_, ?_, behind⟩
          · rw [List.append_assoc, ← rest', List.cons_append, List.take_append_drop]
          · rw [place, List.length_append, List.length_cons,
              List.length_take_of_le (extent_le read)]
            omega

-----------------------------------------------------------------------------------------
-- All expressions
-----------------------------------------------------------------------------------------

/-- Tokens give a text back: each one is the piece of the text at its position, none overlaps
another one, what is outside of them is white space, and one that can't be read is the last one and
reaches to the end.
-/
structure Lossless (text : List Char) (tokens : List Token) : Prop where
  increasing : tokens.Pairwise fun first second => first.position < second.position
  apart : tokens.Pairwise fun first second => first.stop ≤ second.position
  slice
    : ∀ token ∈ tokens,
        token.text ≠ ""
        ∧ (text.drop token.position).take token.text.length = token.text.toList
  blank
    : ∀ index c, text[index]? = some c →
        (∀ token ∈ tokens, ¬(token.position ≤ index ∧ index < token.stop)) → isBlank c = true
  final
    : ∀ token ∈ tokens, token.kind = .error →
        tokens.getLast? = some token ∧ token.stop = text.length

theorem Tiles.lossless {tokens : List Token} {text : List Char} (tiles : Tiles 0 tokens text)
    : Lossless text tokens := by
  refine ⟨?_, tiles.ordered, fun token member => ?_, fun index c found outside => ?_,
    fun token member error => ?_⟩
  · refine tiles.ordered.imp_of_mem fun {first second} member _ ordered => ?_
    obtain ⟨-, -, -, -, some⟩ := tiles.slice member
    have length : 0 < first.text.length := List.length_pos_iff.mpr some
    rw [stop] at ordered
    omega
  · obtain ⟨before, after, rfl, place, some⟩ := tiles.slice member
    refine ⟨fun empty => some (by rw [empty]; rfl), ?_⟩
    rw [place, Nat.zero_add, List.append_assoc, List.drop_left]
    exact List.take_left
  · exact tiles.blank_outside found (by simpa using outside)
  · simpa using tiles.final member error

/--
The tokens of an expression give it back. In front of any token, the expression can be cut: the
first part has the tokens in front of that one, the second part has that one and those behind it,
whose positions then count from the cut.
-/
theorem scan_lossless (expression : String)
    : Lossless expression.toList (scan expression)
      ∧ ∀ index token, (scan expression)[index]? = some token →
        scan (String.ofList (expression.toList.take token.position))
          = (scan expression).take index
        ∧ (scan (String.ofList (expression.toList.drop token.position))).map (moved token.position)
          = (scan expression).drop index := by
  refine ⟨(tiles_scanFrom 0 expression.toList).lossless, fun index token found => ?_⟩
  obtain ⟨bound, same⟩ := List.getElem?_eq_some_iff.mp found
  have scanned : scanFrom 0 expression.toList
      = (scan expression).take index ++ token :: (scan expression).drop (index + 1) := by
    rw [← same, List.getElem_cons_drop, List.take_append_drop]
    rfl
  obtain ⟨front, c, back, shape, place, -, laid⟩ := laid_of_scanFrom_append scanned
  obtain ⟨front', back', shape', place', behind⟩ := scanFrom_behind scanned
  rw [Nat.zero_add] at place place'
  constructor
  · rw [place, shape, List.take_left, scan, String.toList_ofList]
    exact laid.scanFrom_eq
  · rw [place', shape', List.drop_left, scan, String.toList_ofList, ← scanFrom_add, Nat.add_zero,
      ← place', behind, ← same, List.getElem_cons_drop]

/-- A string that holds its own delimiter, and one that is never closed. -/
theorem scan_lossless_quotes
    : Lossless "p ='a\\'b' 'c d".toList
        [⟨0, .name, "p"⟩, ⟨2, .relation, "="⟩, ⟨3, .string, "'a\\'b'"⟩, ⟨10, .error, "'c d"⟩]
      ∧ scan "p ='a\\'b' " = [⟨0, .name, "p"⟩, ⟨2, .relation, "="⟩, ⟨3, .string, "'a\\'b'"⟩]
      ∧ (scan "'c d").map (moved 10) = [⟨10, .error, "'c d"⟩] := by
  have scanned : scan "p ='a\\'b' 'c d"
      = [⟨0, .name, "p"⟩, ⟨2, .relation, "="⟩, ⟨3, .string, "'a\\'b'"⟩, ⟨10, .error, "'c d"⟩] := by
    decide +kernel
  obtain ⟨lossless, cuts⟩ := scan_lossless "p ='a\\'b' 'c d"
  rw [scanned] at lossless cuts
  exact ⟨lossless, cuts 3 _ rfl⟩

end HtmlQuery.XPath.Token
