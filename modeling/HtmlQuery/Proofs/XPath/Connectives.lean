import HtmlQuery.Proofs.XPath.PredicateOverflow
import HtmlQuery.Proofs.XPath.PredicateSpelling
import HtmlQuery.XPath.Evaluate
import Mathlib.Data.List.Induction

/-! Predicates on both sides of a connective. Each side may consist of several operands itself; the
operands of both are then grouped to the left, which changes neither what is read nor what holds.
-/

namespace HtmlQuery.XPath.Predicate

open Token (Balanced Nested mark partition word)

variable {connective : Connective}

-----------------------------------------------------------------------------------------
-- Reading operands
-----------------------------------------------------------------------------------------

/-- Several computations succeed where those in front and those behind do. -/
theorem mapM_append_eq_ok {ε α β : Type} {f : α → Except ε β} {front back : List α}
    {results : List β}
    : (front ++ back).mapM f = .ok results
      ↔ ∃ first second, front.mapM f = .ok first ∧ back.mapM f = .ok second
        ∧ first ++ second = results := by
  simp [List.mapM_append, bind_eq_ok, pure, Except.pure]

theorem length_of_mapM {ε α β : Type} {f : α → Except ε β} {items : List α} {results : List β}
    (found : items.mapM f = .ok results)
    : results.length = items.length := by
  induction items generalizing results with
  | nil =>
      cases found
      rfl
  | cons item rest ih =>
      rw [List.mapM_cons] at found
      obtain ⟨first, -, found⟩ := bind_eq_ok.mp found
      obtain ⟨others, later, found⟩ := bind_eq_ok.mp found
      cases found
      exact congrArg (· + 1) (ih later)

/-- There is something to join as soon as there is an operand. -/
theorem exists_joinAll (connective : Connective) {predicates : List Predicate}
    (some : predicates ≠ [])
    : ∃ joined, joinAll connective predicates = .ok joined := by
  obtain ⟨first, others, rfl⟩ := List.exists_cons_of_ne_nil some
  exact ⟨_, rfl⟩

/-- Operands are read where none of them is missing and each is a predicate. -/
theorem readOperands_eq_ok {partition : Partition} {joined : Predicate}
    : readOperands connective partition = .ok joined
      ↔ [] ∉ partition.parts
        ∧ ∃ predicates, partition.parts.mapM read = .ok predicates
          ∧ joinAll connective predicates = .ok joined := by
  rw [readOperands]
  split
  · rename_i empty
    simp [any_isEmpty.mp empty]
  · rename_i full
    rw [any_isEmpty] at full
    rw [bind_eq_ok]
    simp [full]

/-- Predicates are read from a partition exactly where there is something to join. -/
theorem exists_readOperands {partition : Partition}
    : (∃ joined, readOperands connective partition = .ok joined)
      ↔ [] ∉ partition.parts ∧ ∃ predicates, partition.parts.mapM read = .ok predicates := by
  simp only [readOperands_eq_ok]
  constructor
  · rintro ⟨joined, full, predicates, known, -⟩
    exact ⟨full, predicates, known⟩
  · rintro ⟨full, predicates, known⟩
    have several : predicates ≠ [] := by
      rintro rfl
      simpa [Partition.parts] using length_of_mapM known
    obtain ⟨joined, joins⟩ := exists_joinAll connective several
    exact ⟨joined, full, predicates, known, joins⟩

/-- A row is read as the operands of a connective unless a weaker connective cuts it. -/
theorem readOperands_eq_read {row : List Token} (nonempty : row ≠ [])
    (level : connective = .and → Nested (separates .or) row)
    : readOperands connective (partition (separates connective) row) = read row := by
  by_cases several : (partition (separates connective) row).others = []
  · have whole : (partition (separates connective) row).whole = row :=
      (Token.whole_partitionFrom 0 row).1
    have alone : partition (separates connective) row = ⟨row, []⟩ := by
      generalize partition (separates connective) row = cut at several whole
      obtain ⟨first, others⟩ := cut
      obtain rfl : others = [] := several
      simpa [Partition.whole] using whole
    rw [alone, readOperands_single connective nonempty]
  · rw [read_eq]
    cases connective with
    | or => rw [if_pos several]
    | and => rw [Token.partition_eq (level rfl), if_neg (by simp), if_pos several]

-----------------------------------------------------------------------------------------
-- What joined operands hold of
-----------------------------------------------------------------------------------------

theorem combine_assoc (connective : Connective) (a b c : Bool)
    : connective.combine (connective.combine a b) c
      = connective.combine a (connective.combine b c) := by
  cases connective
  · exact Bool.and_assoc a b c
  · exact Bool.or_assoc a b c

theorem holds_join_eq_ok {left right : Predicate} {document : Document} {candidate : Candidate}
    {value : Bool}
    : (join connective left right).holds document candidate = .ok value
      ↔ ∃ a b, left.holds document candidate = .ok a ∧ right.holds document candidate = .ok b
        ∧ connective.combine a b = value := by
  simp only [holds, bind_eq_ok, Except.ok.injEq, exists_and_left]

/-- How three operands are grouped makes no difference, not even for what fails. -/
theorem holds_join_assoc (first second third : Predicate) (document : Document)
    (candidate : Candidate)
    : (join connective (join connective first second) third).holds document candidate
      = (join connective first (join connective second third)).holds document candidate := by
  simp only [holds]
  cases first.holds document candidate with
  | error fault => rfl
  | ok a =>
      cases second.holds document candidate with
      | error fault => rfl
      | ok b =>
          cases third.holds document candidate with
          | error fault => rfl
          | ok c => exact congrArg Except.ok (combine_assoc connective a b c)

/-- Operands that follow can be grouped on their own, by induction on them from the right. -/
theorem holds_foldl_join (left first : Predicate) (others : List Predicate) (document : Document)
    (candidate : Candidate)
    : (others.foldl (join connective) (join connective left first)).holds document candidate
      = (join connective left (others.foldl (join connective) first)).holds document candidate := by
  induction others using List.reverseRecOn with
  | nil => rfl
  | append_singleton others third ih =>
      simp only [List.foldl_append, List.foldl_cons, List.foldl_nil]
      rw [← holds_join_assoc, holds, ih, ← holds]

/-- Operands in two rows hold together as what each row is joined to. -/
theorem holds_joinAll {front back : List Predicate} {joined first second : Predicate}
    (whole : joinAll connective (front ++ back) = .ok joined)
    (left : joinAll connective front = .ok first) (right : joinAll connective back = .ok second)
    (document : Document) (candidate : Candidate)
    : joined.holds document candidate = (join connective first second).holds document candidate := by
  cases front with
  | nil => cases left
  | cons predicate front =>
      cases back with
      | nil => cases right
      | cons predicate' back =>
          cases left
          cases right
          rw [List.cons_append, joinAll, List.foldl_append, List.foldl_cons] at whole
          cases whole
          exact holds_foldl_join _ _ back document candidate

-----------------------------------------------------------------------------------------
-- Both sides of a connective
-----------------------------------------------------------------------------------------

/-- A row is a predicate exactly if two others are, and what it holds of depends on these two. -/
structure Composes (row left right : List Token) (combine : Bool → Bool → Bool) : Prop where
  read : (∃ joined, read row = .ok joined)
    ↔ (∃ first, read left = .ok first) ∧ ∃ second, read right = .ok second
  holds : ∀ joined first second, Predicate.read row = .ok joined →
    Predicate.read left = .ok first → Predicate.read right = .ok second →
    ∀ document candidate value, joined.holds document candidate = .ok value
      ↔ ∃ a b, first.holds document candidate = .ok a ∧ second.holds document candidate = .ok b
        ∧ combine a b = value

/-- A connective composes what stands on its sides, if no weaker one stands there. -/
theorem composes {left right : List Token} {separator : Token}
    (named : separates connective separator = true) (nonempty : left ≠ []) (nonempty' : right ≠ [])
    (balanced : Balanced left)
    (level : connective = .and → Nested (separates .or) left ∧ Nested (separates .or) right)
    : Composes (left ++ separator :: right) left right connective.combine := by
  obtain ⟨kind, text⟩ : separator.kind = .name ∧ separator.text = connective.word := by
    simpa [Token.isKeyword] using named
  have noOpener : separator.kind.isOpener = false := by rw [kind]; rfl
  have noCloser : separator.kind.isCloser = false := by rw [kind]; rfl
  have front := readOperands_eq_read nonempty fun isAnd => (level isAnd).1
  have back := readOperands_eq_read nonempty' fun isAnd => (level isAnd).2
  have whole : readOperands connective
      ((partition (separates connective) left).join separator
        (partition (separates connective) right))
      = read (left ++ separator :: right) := by
    rw [← Token.partition_join balanced noOpener noCloser named right]
    apply readOperands_eq_read (by simp)
    rintro rfl
    obtain ⟨first, second⟩ := level rfl
    refine first.append (.plain noOpener noCloser ?_ second)
    simp [Token.isKeyword, text, Connective.word]
  constructor
  · rw [← whole, ← front, ← back, exists_readOperands, exists_readOperands, exists_readOperands,
      Partition.parts_join, List.mem_append, not_or]
    simp only [mapM_append_eq_ok]
    constructor
    · rintro ⟨⟨full, full'⟩, _, first, second, known, known', -⟩
      exact ⟨⟨full, first, known⟩, full', second, known'⟩
    · rintro ⟨⟨full, first, known⟩, full', second, known'⟩
      exact ⟨⟨full, full'⟩, _, first, second, known, known', rfl⟩
  · intro joined first second read read' read'' document candidate value
    rw [← whole, readOperands_eq_ok, Partition.parts_join] at read
    rw [← front, readOperands_eq_ok] at read'
    rw [← back, readOperands_eq_ok] at read''
    obtain ⟨-, _, all, joins⟩ := read
    obtain ⟨-, before, known, joins'⟩ := read'
    obtain ⟨-, behind, known', joins''⟩ := read''
    obtain ⟨_, _, known₁, known₂, rfl⟩ := mapM_append_eq_ok.mp all
    cases known.symm.trans known₁
    cases known'.symm.trans known₂
    rw [holds_joinAll joins joins' joins'', holds_join_eq_ok]

/-- `or` composes what stands on its sides, and so does `and` where no side has an `or` outside of
its groups.
-/
theorem composes_at_word {left right : List Token} (nonempty : left ≠ []) (nonempty' : right ≠ [])
    (balanced : Balanced left) {separator : Token} (named : separator.kind = .name)
    : (separator.text = "or" → Composes (left ++ separator :: right) left right (· || ·))
      ∧ (separator.text = "and" → Nested (separates .or) left → Nested (separates .or) right →
        Composes (left ++ separator :: right) left right (· && ·)) := by
  constructor
  · intro isOr
    have word : separates .or separator = true := by
      simp [Token.isKeyword, named, isOr, Connective.word]
    exact composes word nonempty nonempty' balanced (by simp)
  · intro isAnd noOr noOr'
    have word : separates .and separator = true := by
      simp [Token.isKeyword, named, isAnd, Connective.word]
    exact composes word nonempty nonempty' balanced fun _ => ⟨noOr, noOr'⟩

/-- Both sides have operands of their own: `@a or b or c and d`, and `@a and b and c and d`. -/
theorem composes_at_words_within
    : Composes [mark .atSign, word "a", word "or", word "b", word "or", word "c", word "and",
          word "d"]
        [mark .atSign, word "a", word "or", word "b"] [word "c", word "and", word "d"] (· || ·)
      ∧ Composes [mark .atSign, word "a", word "and", word "b", word "and", word "c", word "and",
          word "d"]
        [mark .atSign, word "a", word "and", word "b"] [word "c", word "and", word "d"]
        (· && ·) := by
  have left (middle : Token) (plain : middle.kind = .name) (isSeparator : Token → Bool)
      (none : ∀ token ∈ [mark .atSign, word "a", middle, word "b"], isSeparator token = false)
      : Nested isSeparator [mark .atSign, word "a", middle, word "b"] :=
    .of_plain (by simp [plain, mark, word]; decide) none
  have right : Nested (separates .or) [word "c", word "and", word "d"] :=
    .of_plain (by decide) (by decide)
  constructor
  · exact (@composes_at_word [mark .atSign, word "a", word "or", word "b"]
      [word "c", word "and", word "d"] (by simp) (by simp)
      (left (word "or") rfl _ (by simp)) (word "or") rfl).1 rfl
  · exact (@composes_at_word [mark .atSign, word "a", word "and", word "b"]
      [word "c", word "and", word "d"] (by simp) (by simp)
      (left (word "and") rfl _ (by simp)) (word "and") rfl).2 rfl
      (left (word "and") rfl _ (by decide)) right

end HtmlQuery.XPath.Predicate
