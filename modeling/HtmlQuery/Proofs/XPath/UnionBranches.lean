import HtmlQuery.Proofs.XPath.Surroundings

/-! Expressions that a bar joins. Only the brackets and parentheses in front of the bar decide whether
it separates branches; if it does, both sides keep the branches that they have on their own.
-/

namespace HtmlQuery.XPath

open HtmlQuery.Text

-----------------------------------------------------------------------------------------
-- The tokens of both sides
-----------------------------------------------------------------------------------------

namespace Token

/-- In front of a text that prolongs none of them, tokens are found as they were laid out, and the
scan goes on behind them, by induction on the layout.
-/
theorem Laid.scanFrom_append {start : Nat} {tokens : List Token} {text more : List Char}
    (laid : Laid start tokens text)
    (apart : ∀ {kind text next}, Ends kind text next → Ends kind text (next ++ more))
    : scanFrom start (text ++ more) = tokens ++ scanFrom (start + text.length) more := by
  induction laid with
  | done blank => exact scanFrom_gap _ blank more
  | @token start gap kind text tokens next blank lexeme ends _ ih =>
      rw [List.append_assoc, List.append_assoc, scanFrom_gap start blank,
        scanFrom_lexeme _ lexeme (apart ends), ih]
      simp [Nat.add_assoc]

/-- A bar prolongs no token. -/
theorem Ends.append_bar {kind : TokenKind} {text next : List Char} (ends : Ends kind text next)
    (rest : List Char)
    : Ends kind text (next ++ '|' :: rest) := by
  have detached : Detached (some kind) ('|' :: rest) :=
    .of_apart (by decide) (by decide) (by decide) (by decide) (fun _ => by decide) rest
  exact ends.append detached fun _ => rfl

/-- The bar between two expressions is a token, whatever the second one is. -/
theorem scan_append_bar {left : String} (readable : ∀ token ∈ scan left, token.kind ≠ .error)
    (right : String)
    : scan (left ++ "|" ++ right)
      = scan left ++ ⟨left.length, .bar, "|"⟩ :: (scan right).map (moved (left.length + 1)) := by
  have shape : (left ++ "|" ++ right).toList = left.toList ++ '|' :: right.toList := by simp
  have laid : Laid 0 (scan left) left.toList := laid_of_scanFrom readable
  have bar : IsLexeme .bar ['|'] := rfl
  rw [scan, shape, laid.scanFrom_append (fun ends => ends.append_bar right.toList), Nat.zero_add,
    ← List.singleton_append, scanFrom_lexeme left.toList.length bar trivial]
  have behind := scanFrom_add (left.length + 1) 0 right.toList
  rw [Nat.add_zero] at behind
  exact congrArg (fun tokens => scan left ++ ⟨left.length, .bar, "|"⟩ :: tokens) behind

end Token

-----------------------------------------------------------------------------------------
-- The bars of both sides
-----------------------------------------------------------------------------------------

/-- How many more groups a row opens than it closes. -/
def surplus (tokens : List Token) : Int :=
  tokens.countP (·.kind.isOpener) - tokens.countP (·.kind.isCloser)

theorem surplus_cons (token : Token) (rest : List Token)
    : surplus (token :: rest)
      = surplus rest
        + (if token.kind.isOpener then 1 else if token.kind.isCloser then -1 else 0) := by
  have exclusive : ¬(token.kind.isOpener = true ∧ token.kind.isCloser = true) := by
    cases token.kind <;> decide
  simp only [surplus, List.countP_cons]
  split
  all_goals split <;> grind

/-- Behind a row, bars are found at the depth that its brackets and parentheses lead to, by induction
on the row.
-/
theorem barPositions_append (depth : Int) (tokens others : List Token)
    : barPositions depth (tokens ++ others)
      = barPositions depth tokens ++ barPositions (depth + surplus tokens) others := by
  induction tokens generalizing depth with
  | nil => simp [surplus, barPositions]
  | cons token rest ih =>
      rw [List.cons_append, barPositions, barPositions, surplus_cons]
      split
      · rw [ih, Int.add_assoc, Int.add_comm 1]
      · split
        · rw [ih, Int.sub_eq_add_neg, Int.add_assoc, Int.add_comm (-1)]
        · rw [Int.add_zero, ih]
          split <;> rfl

/-- Bars move with their tokens, by induction on these. -/
theorem barPositions_moved (distance : Nat) (depth : Int) (tokens : List Token)
    : barPositions depth (tokens.map (Token.moved distance))
      = (barPositions depth tokens).map (distance + ·) := by
  induction tokens generalizing depth with
  | nil => rfl
  | cons token rest ih =>
      simp only [List.map_cons, barPositions, Token.moved, ih]
      split
      · rfl
      · split
        · rfl
        · split <;> rfl

/-- Bars are tokens, by induction on these. -/
theorem exists_token_of_mem_barPositions {depth : Int} {tokens : List Token} {position : Nat}
    (member : position ∈ barPositions depth tokens)
    : ∃ token ∈ tokens, token.position = position := by
  fun_induction barPositions depth tokens with
  | case1 => cases member
  | case2 _ _ _ _ ih | case3 _ _ _ _ _ ih | case5 _ _ _ _ _ _ ih =>
      obtain ⟨token, within, place⟩ := ih member
      exact ⟨token, List.mem_cons_of_mem _ within, place⟩
  | case4 _ token rest _ _ _ ih =>
      rcases List.mem_cons.mp member with rfl | member
      · exact ⟨token, List.mem_cons_self, rfl⟩
      · obtain ⟨other, within, place⟩ := ih member
        exact ⟨other, List.mem_cons_of_mem _ within, place⟩

/-- If all groups in front of a bar are closed, the bars of both sides are found around it. -/
theorem barPositions_append_bar {left : String}
    (readable : ∀ token ∈ Token.scan left, token.kind ≠ .error)
    (even : surplus (Token.scan left) = 0) (right : String)
    : barPositions 0 (Token.scan (left ++ "|" ++ right))
      = barPositions 0 (Token.scan left)
        ++ left.length :: (barPositions 0 (Token.scan right)).map (left.length + 1 + ·) := by
  rw [Token.scan_append_bar readable, barPositions_append, even, Int.add_zero,
    ← barPositions_moved]
  rfl

-----------------------------------------------------------------------------------------
-- The pieces of both sides
-----------------------------------------------------------------------------------------

/-- Up to a cut, the pieces of a text are those of its part in front of the cut, by induction on the
positions there.
-/
theorem piecesFrom_append (start : Nat) (text : List Char) {cut : Nat} {before : List Nat}
    (within : ∀ position ∈ before, position ≤ cut) (after : List Nat)
    : piecesFrom start text (before ++ cut :: after)
      = piecesFrom start (text.take cut) before ++ piecesFrom (cut + 1) text after := by
  induction before generalizing start with
  | nil => rfl
  | cons position before ih =>
      obtain ⟨first, others⟩ := List.forall_mem_cons.mp within
      rw [List.cons_append, piecesFrom, piecesFrom, ih _ others, List.take_take,
        Nat.min_eq_left first]
      rfl

/-- Behind a text, pieces are the same, by induction on the positions. -/
theorem piecesFrom_moved (front text : List Char) (start : Nat) (positions : List Nat)
    : piecesFrom (front.length + start) (front ++ text) (positions.map (front.length + ·))
      = piecesFrom start text positions := by
  induction positions generalizing start with
  | nil => exact congrArg (fun piece => [piece]) (List.drop_length_add_append start)
  | cons position positions ih =>
      rw [List.map_cons, piecesFrom, piecesFrom, Nat.add_assoc, ih, List.take_length_add_append,
        List.drop_length_add_append]

/-- Two texts with a character between them have the pieces of both of them. -/
theorem piecesFrom_append_cons (left right : List Char) (c : Char) {before : List Nat}
    (within : ∀ position ∈ before, position ≤ left.length) (after : List Nat)
    : piecesFrom 0 (left ++ c :: right)
        (before ++ left.length :: after.map (left.length + 1 + ·))
      = piecesFrom 0 left before ++ piecesFrom 0 right after := by
  have behind := piecesFrom_moved (left ++ [c]) right 0 after
  rw [List.length_append, List.length_singleton, Nat.add_zero, List.append_assoc,
    List.singleton_append] at behind
  rw [piecesFrom_append 0 _ within, List.take_left, behind]

-----------------------------------------------------------------------------------------
-- The branches of both sides
-----------------------------------------------------------------------------------------

/-- A bar behind an expression without open groups separates its branches from those that follow. -/
theorem branches_append {left : String}
    (readable : ∀ token ∈ Token.scan left, token.kind ≠ .error)
    (even : surplus (Token.scan left) = 0) (right : String)
    : branches (left ++ "|" ++ right) = branches left ++ branches right := by
  have shape : (left ++ "|" ++ right).toList = left.toList ++ '|' :: right.toList := by simp
  have laid : Token.Laid 0 (Token.scan left) left.toList := Token.laid_of_scanFrom readable
  have within : ∀ position ∈ barPositions 0 (Token.scan left), position ≤ left.length := by
    intro position member
    obtain ⟨token, found, rfl⟩ := exists_token_of_mem_barPositions member
    have bound := laid.position_lt token found
    rw [Nat.zero_add] at bound
    exact bound.le
  simp only [branches, barPositions_append_bar readable even, shape]
  rw [← String.length_toList] at within ⊢
  rw [piecesFrom_append_cons _ _ _ within, List.map_append, List.filter_append]

/-- An expression that is read to its end is its only branch. -/
theorem Path.Covers.branches_eq {path : Path} {expression : String}
    (covers : path.Covers expression)
    : branches expression = [expression.trimmed] := by
  obtain ⟨c, member, visible⟩ := covers.exists_visible
  obtain ⟨front, middle, back, shape, blank, blank', some, unpadded⟩ :=
    exists_unpadded member visible
  rw [branches_of_no_bars shape blank blank' unpadded some covers.barPositions_eq, String.trimmed,
    shape, unpadded.trim_padded some blank blank']

/--
A bar behind readable tokens that close as many groups as they open separates branches: those of the
joined expressions are those of the first one and those of the second one, whatever that is. An
expression that is read to its end is a single branch, so bars within its predicates don't split it.
-/
theorem branches_homomorphism
    : (∀ left right : String,
        (∀ token ∈ Token.scan left, token.kind ≠ .error) →
        (Token.scan left).countP (·.kind.isOpener) = (Token.scan left).countP (·.kind.isCloser) →
        branches (left ++ "|" ++ right) = branches left ++ branches right)
      ∧ ∀ (path : Path) (expression : String), path.Covers expression →
        branches expression = [expression.trimmed] := by
  refine ⟨fun left right readable same => ?_, fun path expression covers => covers.branches_eq⟩
  exact branches_append readable (by rw [surplus, same, Int.sub_self]) right

/-- A bar behind a stray bracket, bars in front of a string that is never closed, and a bar within a
predicate that is skipped.
-/
theorem branches_homomorphism_brackets
    : branches ("a]|b[" ++ "|" ++ "c | 'd") = ["a]|b[", "c", "'d"]
      ∧ branches " p[a|b] " = ["p[a|b]"] := by
  have first : Token.scan "a]|b["
      = [⟨0, .name, "a"⟩, ⟨1, .closeBracket, "]"⟩, ⟨2, .bar, "|"⟩, ⟨3, .name, "b"⟩,
        ⟨4, .openBracket, "["⟩] := by
    decide +kernel
  have second : Token.scan "c | 'd" = [⟨0, .name, "c"⟩, ⟨2, .bar, "|"⟩, ⟨4, .error, "'d"⟩] := by
    decide +kernel
  have scanned : Token.scan " p[a|b] "
      = [⟨1, .name, "p"⟩, ⟨2, .openBracket, "["⟩, ⟨3, .name, "a"⟩, ⟨4, .bar, "|"⟩,
        ⟨5, .name, "b"⟩, ⟨6, .closeBracket, "]"⟩] := by
    decide +kernel
  have covers : Path.Covers ⟨[⟨.child, .name "p", []⟩], "", ["[a|b]"]⟩ " p[a|b] " := by
    refine Path.covers_iff.mpr ⟨by simp, [(2, 7)], ?_, by decide +kernel⟩
    rw [scanned, Steps.read_cons, Step.read_eq]
    decide +kernel
  obtain ⟨joined, whole⟩ := branches_homomorphism
  constructor
  · rw [joined "a]|b[" "c | 'd" (by simp [first]) (by rw [first]; rfl)]
    rw [branches, branches, first, second]
    cbv
  · exact whole _ _ covers

end HtmlQuery.XPath
