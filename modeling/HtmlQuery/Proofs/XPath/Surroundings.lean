import HtmlQuery.Proofs.XPath.CompletePath
import HtmlQuery.Proofs.XPath.LexicalRow
import HtmlQuery.XPath.Union

/-! What may stand around an expression that is read to its end: white space, and something behind two
colons. Such an expression is no union.
-/

namespace HtmlQuery.XPath

open HtmlQuery.Text

-----------------------------------------------------------------------------------------
-- Bars
-----------------------------------------------------------------------------------------

namespace Token

/-- Whether a token separates branches, if it stands outside of all groups. -/
abbrev isBar (token : Token) : Bool :=
  token.kind == .bar

/-- A single token that neither belongs to the ends of a group nor is a bar. -/
theorem nested_plain {token : Token} {kind : TokenKind} (same : token.kind = kind)
    (plain : kind.isOpener = false ∧ kind.isCloser = false ∧ kind ≠ .bar)
    : Nested isBar [token] := by
  subst same
  exact .single plain.1 plain.2.1 (by simp [isBar, plain.2.2])

end Token

/-- The bars outside of all groups are where a row is cut at bars, by induction on the row. -/
theorem barPositions_eq (depth : Int) (tokens : List Token)
    : barPositions depth tokens
      = (Token.partitionFrom Token.isBar depth tokens).others.map fun other =>
        other.fst.position := by
  induction tokens generalizing depth with
  | nil => rfl
  | cons token rest ih =>
      rw [barPositions, Token.partitionFrom]
      split
      · exact ih _
      · split
        · exact ih _
        · simp only [and_comm, Token.isBar, beq_iff_eq]
          split
          · exact congrArg (token.position :: ·) (ih depth)
          · exact ih depth

/-- A row without bars outside of its groups adds none to what is behind it. -/
theorem barPositions_nested {row : List Token} (nested : Token.Nested Token.isBar row)
    (rest : List Token)
    : barPositions 0 (row ++ rest) = barPositions 0 rest := by
  rw [barPositions_eq, barPositions_eq, ← Token.partition, Token.partition_nested nested]
  rfl

namespace Grammar

open Token (Nested isBar)

theorem Marker.nested {marker : List Token} (marked : Marker marker) : Nested isBar marker := by
  cases marked with
  | plain slashes =>
      rcases slashes with slash | slash <;> exact Token.nested_plain slash (by decide)
  | dotted before slashes =>
      refine (Token.nested_plain before (by decide)).append ?_
      rcases slashes with slash | slash <;> exact Token.nested_plain slash (by decide)

theorem Naming.nested {axis : Option Axis} {naming : List Token} (named : Naming axis naming)
    : Nested isBar naming := by
  cases named with
  | none => exact .nil
  | some named _ separated =>
      exact (Token.nested_plain named (by decide)).append
        (Token.nested_plain separated (by decide))

theorem AttributeTest.nested {test : List Token} (tested : AttributeTest test)
    : Nested isBar test := by
  obtain ⟨signed, named⟩ := tested
  refine (Token.nested_plain signed (by decide)).append ?_
  rcases named with named | named <;> exact Token.nested_plain named (by decide)

theorem Test.nested {test : List Token} (tested : Test test) : Nested isBar test := by
  cases tested with
  | name named => rcases named with named | named <;> exact Token.nested_plain named (by decide)
  | call named _ opens closes =>
      refine (Token.nested_plain named (by decide)).append (.group ?_ .nil .nil)
      rw [opens, closes]
      rfl

theorem Groups.nested {groups : List Token} (grouped : Groups groups) : Nested isBar groups := by
  induction grouped with
  | nil => exact .nil
  | cons opens inside closes _ ih =>
      refine .group ?_ inside ih
      rw [opens, closes]
      rfl

theorem Body.nested {body : List Token} (step : Body body) : Nested isBar body := by
  cases step with
  | dots dots => rcases dots with dots | dots <;> exact Token.nested_plain dots (by decide)
  | attributes named tested => exact named.nested.append tested.nested
  | nodes named tested grouped =>
      exact named.nested.append (tested.nested.append grouped.nested)

theorem Following.nested {rest : List Token} (following : Following rest) : Nested isBar rest := by
  induction following with
  | nil => exact .nil
  | cons marked step _ ih => exact marked.nested.append (step.nested.append ih)

/-- No bar stands outside of the groups of a path. -/
theorem Derives.nested {tokens : List Token} (derives : Derives tokens) : Nested isBar tokens := by
  obtain ⟨marked, step, more⟩ := derives
  have body := step.nested.append more.nested
  rcases marked with rfl | marked
  · exact body
  · exact marked.nested.append body

end Grammar

/-- Without bars outside of its groups, an expression is its only branch, without the white space at
its ends.
-/
theorem branches_of_no_bars {expression : String} {front text back : List Char}
    (shape : expression.toList = front ++ (text ++ back))
    (blank : ∀ c ∈ front, isBlank c = true) (blank' : ∀ c ∈ back, isBlank c = true)
    (unpadded : Unpadded text) (some : text ≠ [])
    (none : barPositions 0 (Token.scan expression) = [])
    : branches expression = [String.ofList text] := by
  have nonempty : (String.ofList text != "") = true := by
    rw [bne_iff_ne]
    intro empty
    have same := congrArg String.toList empty
    exact some (by simpa using same)
  simp only [branches, none, piecesFrom, List.drop_zero, List.map_cons, List.map_nil, shape,
    unpadded.trim_padded some blank blank', List.filter_cons, nonempty, if_true, List.filter_nil]

-----------------------------------------------------------------------------------------
-- White space around an expression
-----------------------------------------------------------------------------------------

/-- Tokens are read as the same steps where they were moved from. -/
theorem Steps.read_of_moved {isFirst : Bool} {tokens : List Token} {steps : List Step}
    {ignored : List (Nat × Nat)} {distance : Nat}
    (found : read isFirst (tokens.map (Token.moved distance)) = .ok ⟨steps, ignored, []⟩)
    : ∃ ignored', read isFirst tokens = .ok ⟨steps, ignored', []⟩ := by
  have same := read_placed (fun token => distance + token.position) isFirst tokens
  have moved : read isFirst (tokens.map (Token.placed fun token => distance + token.position)) = _ :=
    found
  rw [moved] at same
  obtain ⟨⟨steps', ignored', rest⟩, original, outline⟩ := ok_of_map same.symm
  simp only [Steps.outline, Prod.mk.injEq, List.map_eq_nil_iff] at outline
  obtain ⟨rfl, -, rfl⟩ := outline
  exact ⟨ignored', original⟩

/-- An expression that is read to its end is laid out as its tokens. -/
theorem Path.Covers.laid {path : Path} {expression : String} (covers : path.Covers expression)
    : Token.Laid 0 (Token.scan expression) expression.toList := by
  obtain ⟨-, ignored, found, -⟩ := Path.covers_iff.mp covers
  exact Token.laid_of_scanFrom (Token.readable_of_steps found rfl).1

theorem Path.Covers.derives {path : Path} {expression : String} (covers : path.Covers expression)
    : Grammar.Derives (Token.scan expression) :=
  (Path.isComplete_iff_derives covers.1).mp covers.2

/-- White space at the ends of an expression doesn't change its steps. -/
theorem Path.Covers.unpadded {path : Path} {expression : String} {front text back : List Char}
    (covers : path.Covers expression) (shape : expression.toList = front ++ (text ++ back))
    (blank : ∀ c ∈ front, isBlank c = true) (blank' : ∀ c ∈ back, isBlank c = true)
    : ∃ inner : Path, inner.Covers (String.ofList text) ∧ inner.steps = path.steps := by
  obtain ⟨some, ignored, found, -⟩ := Path.covers_iff.mp covers
  have laid := covers.laid
  have scanned : Token.scan expression = Token.scanFrom (0 + front.length) (text ++ back) := by
    rw [Token.scan, shape, Token.scanFrom_gap 0 blank]
  have readable := laid.readable
  rw [scanned] at readable
  have same := ((Token.laid_of_scanFrom readable).of_append_blank blank').scanFrom_eq
  rw [← scanned, Nat.add_comm, Token.scanFrom_add] at same
  rw [← same] at found
  obtain ⟨ignored', found⟩ := Steps.read_of_moved found
  rw [← String.toList_ofList (l := text)] at found
  exact Path.covers_of_steps found some

/-- An expression that is read to its end isn't blank. -/
theorem Path.Covers.exists_visible {path : Path} {expression : String}
    (covers : path.Covers expression)
    : ∃ c ∈ expression.toList, isBlank c = false := by
  obtain ⟨some, ignored, found, -⟩ := Path.covers_iff.mp covers
  cases scanned : Token.scan expression with
  | nil =>
      rw [scanned, Steps.read_nil] at found
      exact (some (congrArg Steps.steps (Except.ok.inj found)).symm).elim
  | cons token rest =>
      have member : token ∈ Token.scan expression := scanned ▸ List.mem_cons_self
      obtain ⟨front, c, back, shape, -, visible⟩ := Token.visible_of_mem_scanFrom member
      exact ⟨c, by simp [shape], visible⟩

theorem Path.Covers.trimmed {path : Path} {expression : String} (covers : path.Covers expression)
    : ∃ inner : Path, inner.Covers expression.trimmed ∧ inner.steps = path.steps := by
  obtain ⟨c, member, visible⟩ := covers.exists_visible
  obtain ⟨front, middle, back, shape, blank, blank', some, unpadded⟩ :=
    exists_unpadded member visible
  rw [String.trimmed, shape, unpadded.trim_padded some blank blank']
  exact covers.unpadded shape blank blank'

-----------------------------------------------------------------------------------------
-- Behind two colons
-----------------------------------------------------------------------------------------

/-- A call with a name between its parentheses, laid out behind two colons. -/
theorem Token.exists_laid_call {function name : String} (plain : isPlainName function = true)
    (named : IsLexeme .name name.toList) (start : Nat)
    : ∃ tokens,
      Laid start tokens
        (':' :: ':' :: (function.toList ++ ('(' :: (name.toList ++ [')']))))
      ∧ Nested isBar tokens := by
  have other {c : Char} (noPart : isNamePart c = false) (noColon : c ≠ ':') (text rest : List Char)
      : Ends .name text (c :: rest) := by
    refine ⟨?_, .inr ?_⟩
    · rintro d ⟨⟩
      exact noPart
    · rintro more ⟨⟩
      exact (noColon rfl).elim
  have colons : IsLexeme .doubleColon [':', ':'] := rfl
  have opens : IsLexeme .openParen ['('] := rfl
  have closes : IsLexeme .closeParen [')'] := rfl
  have closer (start : Nat) : Laid start _ ([')'] ++ []) :=
    .lexeme closes trivial (.done (by simp))
  have inner (start : Nat) : Laid start _ (name.toList ++ [')']) :=
    .lexeme named (other (by decide) (by decide) _ _) (closer _)
  have group (start : Nat) : Laid start _ (['('] ++ (name.toList ++ [')'])) :=
    .lexeme opens trivial (inner _)
  have called (start : Nat)
      : Laid start _ (function.toList ++ ('(' :: (name.toList ++ [')']))) :=
    .lexeme (isLexeme_of_isPlainName plain) (other (by decide) (by decide) _ _) (group _)
  have whole : Laid start _
      ([':', ':'] ++ (function.toList ++ ('(' :: (name.toList ++ [')'])))) :=
    .lexeme colons trivial (called _)
  exact ⟨_, whole, .plain rfl rfl rfl (.plain rfl rfl rfl (.group rfl (.single rfl rfl rfl) .nil))⟩

/-- Behind an expression that is read to its end, no bar stands outside of all groups in the suffix for
an attribute.
-/
theorem Path.Covers.barPositions_attr {path : Path} {expression name : String}
    (covers : path.Covers expression) (named : Token.IsLexeme .name name.toList)
    : barPositions 0 (Token.scan (expression ++ ("::attr(" ++ name ++ ")"))) = [] := by
  have plain : Token.isPlainName "attr" = true := by decide
  obtain ⟨tokens, call, nested⟩ :=
    Token.exists_laid_call plain named (0 + expression.toList.length)
  have laid := covers.laid.append_of_ends (fun ends _ => ends.append_colons _) call
  have shape : (expression ++ ("::attr(" ++ name ++ ")")).toList
      = expression.toList
        ++ ':' :: ':' :: ("attr".toList ++ ('(' :: (name.toList ++ [')']))) := by
    simp
  rw [Token.scan, shape, laid.scanFrom_eq, barPositions_nested covers.derives.nested,
    ← List.append_nil tokens, barPositions_nested nested]
  rfl

/-- An expression that is read to its end has no bars outside of all groups. -/
theorem Path.Covers.barPositions_eq {path : Path} {expression : String}
    (covers : path.Covers expression)
    : barPositions 0 (Token.scan expression) = [] := by
  rw [← List.append_nil (Token.scan expression), barPositions_nested covers.derives.nested]
  rfl

end HtmlQuery.XPath
