import HtmlQuery.Proofs.Text.Trimming
import HtmlQuery.Proofs.XPath.Grammar
import HtmlQuery.Proofs.XPath.Positions
import HtmlQuery.Proofs.XPath.TokenRow

/-! Expressions that are read to their end: those that the grammar derives, and two of them one behind
the other.
-/

namespace HtmlQuery.XPath

open HtmlQuery.Text

/-- A path that covers the whole expression. -/
abbrev Path.Covers (path : Path) (expression : String) : Prop :=
  Path.read expression = .ok path ∧ path.isComplete = true

-----------------------------------------------------------------------------------------
-- Nothing is left
-----------------------------------------------------------------------------------------

/-- The rest of an expression from one of its tokens on. -/
theorem excerpt_from {expression : String} {front back : List Char}
    (shape : expression.toList = front ++ back)
    : excerpt expression front.length expression.length = String.ofList back := by
  rw [excerpt, ← String.length_toList, List.take_length, shape, List.drop_left]

/-- A token shows the rest of the expression from it on. -/
theorem excerpt_ne_empty {expression : String} {token : Token}
    (member : token ∈ Token.scan expression)
    : (excerpt expression token.position expression.length).trimmed ≠ "" := by
  obtain ⟨front, c, back, shape, place, visible⟩ := Token.visible_of_mem_scanFrom member
  rw [place, Nat.zero_add, excerpt_from shape, trimmed_visible back visible]
  intro empty
  have same := congrArg String.toList empty
  simp at same

namespace Path

/-- Steps that leave no token make a path without remainder. -/
theorem read_of_steps {expression : String} {steps : List Step} {ignored : List (Nat × Nat)}
    (found : Steps.read true (Token.scan expression) = .ok ⟨steps, ignored, []⟩)
    : read expression
      = .ok ⟨steps, "", ignored.map fun place => excerpt expression place.fst place.snd⟩ := by
  rw [read, found]
  rfl

/-- Steps that leave tokens make a path with what the expression shows from the first one on. -/
theorem read_of_rest {expression : String} {steps : List Step} {ignored : List (Nat × Nat)}
    {token : Token} {rest : List Token}
    (found : Steps.read true (Token.scan expression) = .ok ⟨steps, ignored, token :: rest⟩)
    : read expression
      = .ok ⟨steps, (excerpt expression token.position expression.length).trimmed,
        ignored.map fun place => excerpt expression place.fst place.snd⟩ := by
  rw [read, found]
  rfl

/-- A path covers an expression whose tokens are all read as its steps. -/
theorem covers_iff {path : Path} {expression : String}
    : path.Covers expression
      ↔ path.steps ≠ []
        ∧ ∃ ignored,
          Steps.read true (Token.scan expression) = .ok ⟨path.steps, ignored, []⟩
          ∧ path = ⟨path.steps, "",
            ignored.map fun place => excerpt expression place.fst place.snd⟩ := by
  constructor
  · rintro ⟨found, complete⟩
    simp only [isComplete, Bool.and_eq_true, Bool.not_eq_true', List.isEmpty_eq_false_iff,
      beq_iff_eq] at complete
    obtain ⟨some, remainder⟩ := complete
    refine ⟨some, ?_⟩
    rcases steps : Steps.read true (Token.scan expression) with fault | ⟨steps, ignored, rest⟩
    · rw [read, steps] at found
      cases found
    · cases rest with
      | nil =>
          rw [read_of_steps steps] at found
          cases found
          exact ⟨ignored, rfl, rfl⟩
      | cons token rest =>
          have member : token ∈ Token.scan expression :=
            Steps.rest_subset_of_read steps List.mem_cons_self
          rw [read_of_rest steps] at found
          cases found
          exact (excerpt_ne_empty member remainder).elim
  · rintro ⟨some, ignored, found, shape⟩
    rw [shape]
    refine ⟨read_of_steps found, ?_⟩
    simpa [isComplete] using some

/-- Steps that leave no token make a path that covers the expression. -/
theorem covers_of_steps {expression : String} {steps : List Step} {ignored : List (Nat × Nat)}
    (found : Steps.read true (Token.scan expression) = .ok ⟨steps, ignored, []⟩)
    (some : steps ≠ [])
    : ∃ path : Path, path.Covers expression ∧ path.steps = steps :=
  ⟨⟨steps, "", _⟩, covers_iff.mpr ⟨some, ignored, found, rfl⟩, rfl⟩

/-- A path covers its expression just if the grammar derives the expression's tokens. -/
theorem isComplete_iff_derives {path : Path} {expression : String}
    (found : read expression = .ok path)
    : path.isComplete = true ↔ Grammar.Derives (Token.scan expression) := by
  constructor
  · intro complete
    obtain ⟨some, ignored, steps, -⟩ := covers_iff.mp ⟨found, complete⟩
    obtain ⟨row, whole, derives⟩ := Steps.derives_of_read steps some
    rw [whole, List.append_nil]
    exact derives
  · intro derives
    cases reads : Steps.read true (Token.scan expression) with
    | error fault =>
        rw [read, reads] at found
        cases found
    | ok reading =>
        obtain ⟨steps, ignored, rest⟩ := reading
        obtain ⟨some, ended⟩ := Steps.rest_of_derives derives reads
        obtain rfl : rest = [] := ended
        obtain ⟨whole, covers, -⟩ := covers_of_steps reads some
        obtain rfl : path = whole := Except.ok.inj (found.symm.trans covers.1)
        exact covers.2

/-- Two dots make a step, but one without predicates. -/
theorem derives_iff_dots
    : Grammar.Derives (Token.scan "./..") ∧ ¬Grammar.Derives (Token.scan "..[1]") := by
  have dots : read "./.." = .ok ⟨[⟨.parent, .anyNode, []⟩], "", []⟩ := by decide +kernel
  have filtered : read "..[1]" = .ok ⟨[⟨.parent, .anyNode, []⟩], "[1]", []⟩ := by decide +kernel
  have incomplete : Path.isComplete ⟨[⟨.parent, .anyNode, []⟩], "[1]", []⟩ ≠ true := by decide
  exact ⟨(isComplete_iff_derives dots).mp (by decide),
    fun derives => incomplete ((isComplete_iff_derives filtered).mpr derives)⟩

end Path

-----------------------------------------------------------------------------------------
-- One expression behind the other
-----------------------------------------------------------------------------------------

namespace Token

/-- Tokens that are all read are readable, and the last one is no slash. -/
theorem readable_of_steps {expression : String} {reading : Steps}
    (found : Steps.read true (scan expression) = .ok reading) (all : reading.rest = [])
    : (∀ token ∈ scan expression, token.kind ≠ .error)
      ∧ (scan expression).getLast?.map Token.kind ≠ some .slash := by
  rcases Steps.leaves_of_read found with empty | ⟨before, last, whole, readable, other⟩
  · rw [← empty, all]
    simp
  · rw [all] at whole
    rw [whole]
    constructor
    · intro token member error
      rcases List.mem_append.mp member with member | member
      · obtain ⟨first, between, rfl⟩ := List.append_of_mem member
        rw [List.append_assoc] at whole
        have nothing := eq_nil_of_error whole error
        simp at nothing
      · obtain rfl : token = last := by simpa using member
        exact readable error
    · simpa using other

/-- White space and slashes prolong no token but a slash. -/
theorem Detached.of_head {c : Char} {last : Option TokenKind} (noSlash : last ≠ some .slash)
    (seam : isBlank c = true ∨ c = '/') (rest : List Char)
    : Detached last (c :: rest) := by
  have apart : isWord c = false ∧ isDigit c = false
      ∧ c ≠ '.' ∧ c ≠ '-' ∧ c ≠ ':' ∧ c ≠ '=' := by
    rcases seam with blank | rfl
    · obtain ⟨noWord, noDigit⟩ := not_word_of_isBlank blank
      refine ⟨noWord, noDigit, ?_, ?_, ?_, ?_⟩
      all_goals
        rintro rfl
        revert blank
        decide
    · decide +kernel
  obtain ⟨noWord, noDigit, noDot, noDash, noColon, noEquals⟩ := apart
  exact .of_apart noDigit (by simp [isNamePart, noWord, noDot, noDash]) noColon noEquals
    (fun same => (noSlash same).elim) rest

/-- A text whose first token is a separator is detached from whatever stands in front of it. -/
theorem detached_of_separated {start : Nat} {text : List Char} {last : Option TokenKind}
    (noSlash : last ≠ some .slash) (separated : Separated (scanFrom start text))
    : Detached last text := by
  obtain ⟨token, head, kind⟩ := separated
  cases text with
  | nil => simp [scanFrom] at head
  | cons c rest =>
      refine .of_head noSlash ?_ rest
      cases blank : isBlank c with
      | true => exact .inl rfl
      | false =>
          rw [scanFrom, blank] at head
          rcases found : front c rest with ⟨shape, extent⟩
          have same : shape = token.kind := by
            rw [found] at head
            exact congrArg Token.kind (Option.some.inj head)
          have readable : shape ≠ .error := by
            rcases kind with kind | kind <;> simp [same, kind]
          obtain ⟨body, next, -, -, lexeme, -⟩ := isLexeme_of_front found readable
          rw [same] at lexeme
          rcases kind with kind | kind
          all_goals
            rw [kind] at lexeme
            exact .inr (List.cons.inj lexeme).1

/-- Tokens of two expressions, where the first token of the second one is a separator. -/
theorem scan_append {first second : String}
    (readable : ∀ token ∈ scan first, token.kind ≠ .error)
    (readable' : ∀ token ∈ scan second, token.kind ≠ .error)
    (noSlash : (scan first).getLast?.map Token.kind ≠ some .slash)
    (separated : Separated (scan second))
    : scan (first ++ second) = scan first ++ (scan second).map (moved first.toList.length) := by
  have left := laid_of_scanFrom readable
  have place : scanFrom (0 + first.toList.length) second.toList
      = (scan second).map (moved first.toList.length) := by
    rw [Nat.add_comm, scanFrom_add, scan]
  have right : Laid (0 + first.toList.length) ((scan second).map (moved first.toList.length))
      second.toList := by
    rw [← place]
    apply laid_of_scanFrom
    rw [place]
    intro token member
    obtain ⟨original, inside, rfl⟩ := List.mem_map.mp member
    exact readable' original inside
  rw [scan, String.toList_append]
  exact (left.append (detached_of_separated noSlash separated) right).scanFrom_eq

end Token

-----------------------------------------------------------------------------------------
-- Paths of concatenated expressions
-----------------------------------------------------------------------------------------

/-- Moved tokens are read as the same steps. -/
theorem Steps.read_moved {isFirst : Bool} {tokens : List Token} {steps : List Step}
    {ignored : List (Nat × Nat)} (distance : Nat)
    (found : read isFirst tokens = .ok ⟨steps, ignored, []⟩)
    : ∃ ignored', read isFirst (tokens.map (Token.moved distance)) = .ok ⟨steps, ignored', []⟩ := by
  have same := read_placed (fun token => distance + token.position) isFirst tokens
  rw [found] at same
  obtain ⟨⟨steps', ignored', rest'⟩, moved, outline⟩ := ok_of_map same
  simp only [Steps.outline, Prod.mk.injEq, List.map_nil] at outline
  obtain ⟨rfl, -, rfl⟩ := outline
  exact ⟨ignored', moved⟩

/-- The separator that tokens begin with stays one when they are moved. -/
theorem Separated.moved {tokens : List Token} (separated : Separated tokens) (distance : Nat)
    : Separated (tokens.map (Token.moved distance)) := by
  obtain ⟨token, head, slash⟩ := separated
  refine ⟨Token.moved distance token, ?_, slash⟩
  rw [List.head?_map]
  exact Option.mem_map_of_mem _ head

namespace Path

/-- The step that stays where it is. -/
def stay : Step :=
  ⟨.self, .anyNode, []⟩

/-- Behind an expression that is read to its end, another one goes on with its own steps. Only the
step of a mere dot vanishes: the separator behind it takes the dot.
-/
theorem covers_append {first second : Path} {left right : String} (covers : first.Covers left)
    (covers' : second.Covers right) (separated : Separated (Token.scan right))
    : ∃ path : Path,
        path.Covers (left ++ right)
        ∧ (path.steps = first.steps ++ second.steps
          ∨ first.steps = [stay] ∧ path.steps = second.steps) := by
  obtain ⟨some, ignored, found, -⟩ := covers_iff.mp covers
  obtain ⟨some', ignored', found', -⟩ := covers_iff.mp covers'
  obtain ⟨readable, noSlash⟩ := Token.readable_of_steps found rfl
  obtain ⟨readable', -⟩ := Token.readable_of_steps found' rfl
  rw [Steps.read_first separated] at found'
  obtain ⟨skipped, behind⟩ := Steps.read_moved left.toList.length found'
  have seam := separated.moved left.toList.length
  have scanned := Token.scan_append readable readable' noSlash separated
  by_cases dot : (Token.scan left).map Token.kind = [.dot]
  · obtain ⟨⟨start, kind, text⟩, single, rfl⟩ := List.map_eq_singleton_iff.mp dot
    have alone : first.steps = [stay] := by
      rw [single, Steps.read_cons, Step.read_eq] at found
      simp only [Step.separator?, Step.readBody, if_true, Steps.read_nil] at found
      exact (congrArg Steps.steps (Except.ok.inj found)).symm
    have whole : Steps.read true (⟨start, .dot, text⟩ :: _) = _ := Steps.read_dot seam behind rfl
    rw [← List.singleton_append, ← single, ← scanned] at whole
    obtain ⟨path, whole, steps⟩ := covers_of_steps whole some'
    exact ⟨path, whole, .inr ⟨alone, steps⟩⟩
  · have begun : Token.scan left ≠ [] := by
      intro nothing
      rw [nothing, Steps.read_nil] at found
      exact some (congrArg Steps.steps (Except.ok.inj found)).symm
    have whole := Steps.read_append found rfl (fun _ => begun) dot seam
    rw [← scanned, behind] at whole
    obtain ⟨path, whole, steps⟩ := covers_of_steps whole (by simp [some])
    exact ⟨path, whole, .inl steps⟩

end Path

end HtmlQuery.XPath
