import HtmlQuery.Proofs.XPath.CompletePath
import HtmlQuery.Proofs.XPath.PredicateSpelling

/-! Reading undoes writing: a path is read from each text that spells its steps, and all steps within
the language have such a text.
-/

namespace HtmlQuery.XPath

open Token

-----------------------------------------------------------------------------------------
-- Predicates
-----------------------------------------------------------------------------------------

namespace Predicates

/-- The groups that spell predicates are read up to what follows them, by induction on the groups. -/
theorem Spelled.read {predicates : List Predicate} {row rest : List Token}
    (spelled : Spelled predicates row) (other : rest.head?.map Token.kind ≠ some .openBracket)
    : Predicates.read (row ++ rest) = .ok (⟨predicates, []⟩, rest) := by
  induction spelled with
  | nil => exact read_other other
  | @cons predicate row predicates more first _ ih =>
      have reads := first.reads
      rw [List.cons_append, List.append_assoc, List.cons_append]
      refine (read_closed_eq_ok rfl reads.nested.balanced).mpr
        ⟨fun others => ⟨predicate :: others.known, others.ignored⟩, _, ?_, ih, rfl⟩
      rw [readGroup, reads.whole]

/-- Groups begin with a bracket. -/
theorem Spelled.head {predicates : List Predicate} {row : List Token}
    (spelled : Spelled predicates row)
    : ∀ token ∈ row.head?, token.kind = .openBracket := by
  cases spelled with
  | nil => simp
  | cons => simp [mark]

end Predicates

-----------------------------------------------------------------------------------------
-- Steps
-----------------------------------------------------------------------------------------

namespace Step

/-- What may follow a step: nothing or the next one. -/
def Ended (rest : List Token) : Prop :=
  ∀ token ∈ rest.head?, token.kind = .slash

/-- A test is read back, unless what follows belongs to it. -/
theorem nodeTest?_spelled {test : NodeTest} {row tail : List Token}
    (spelled : NodeTest.Spelled test row)
    (ended : ∀ token ∈ tail.head?, token.kind = .openBracket ∨ token.kind = .slash) (axis : Axis)
    : nodeTest? axis (row ++ tail) = some (axis, test, tail) := by
  cases spelled with
  | anyName => rfl
  | name _ lowered =>
      rcases tail with - | ⟨⟨place, kind, text⟩, tail⟩
      · simp [nodeTest?, word, lowered]
      · rcases ended _ rfl with rfl | rfl <;> simp [nodeTest?, word, lowered]
  | anyNode => rfl
  | text => rfl

/-- A step is read from its spelling up to the next one. -/
theorem Spelled.readBody {step : Step} {row rest : List Token} (spelled : step.Spelled row)
    (ended : Ended rest) (suggested : Axis)
    : Step.readBody suggested (row ++ rest) = .ok (some ⟨step, [], rest⟩) := by
  obtain @⟨axis, test, row, predicates, groups, tested, filtered, unfiltered⟩ := spelled
  have tail : ∀ token ∈ (groups ++ rest).head?,
      token.kind = .openBracket ∨ token.kind = .slash := by
    intro token first
    cases groups with
    | nil => exact .inr (ended token first)
    | cons => exact .inl (filtered.head token first)
  have noBracket : rest.head?.map Token.kind ≠ some .openBracket := by
    intro bracket
    obtain ⟨token, first, kind⟩ := Option.map_eq_some_iff.mp bracket
    simp [ended token first] at kind
  rw [List.cons_append, List.cons_append, List.append_assoc,
    readBody_other suggested (by simp [word])]
  simp only [readTest, axisName?, word, mark, Axis.ofName?_eq_some.mpr rfl, Option.map_some, Option.getD_some,
    nodeTest?_spelled tested tail]
  rw [readGroups]
  split
  · rename_i attributes
    obtain rfl := unfiltered attributes
    cases filtered
    rfl
  · rw [filtered.read noBracket]
    rfl

/-- The first step needs no separator. -/
theorem Spelled.read_first {step : Step} {row rest : List Token} (spelled : step.Spelled row)
    (ended : Ended rest)
    : Step.read true (row ++ rest) = .ok (some ⟨step, [], rest⟩) := by
  rw [read_eq, ← spelled.readBody ended .child]
  cases spelled
  rfl

/-- All other steps stand behind a slash. -/
theorem Spelled.read_next {step : Step} {row rest : List Token} (spelled : step.Spelled row)
    (ended : Ended rest)
    : Step.read false (mark .slash :: (row ++ rest)) = .ok (some ⟨step, [], rest⟩) := by
  rw [read_eq, ← spelled.readBody ended .child]
  rfl

end Step

-----------------------------------------------------------------------------------------
-- Paths
-----------------------------------------------------------------------------------------

namespace Steps

/-- Behind a step the others are read. -/
theorem read_of_step {isFirst : Bool} {tokens rest : List Token} {step : Step} {steps : List Step}
    (first : Step.read isFirst tokens = .ok (some ⟨step, [], rest⟩))
    (behind : Steps.read false rest = .ok ⟨steps, [], []⟩)
    : Steps.read isFirst tokens = .ok ⟨step :: steps, [], []⟩ := by
  cases tokens with
  | nil => exact (Nat.not_lt_zero _ (Step.length_read first)).elim
  | cons token tokens =>
      rw [read_cons, first]
      simp only [behind]
      rfl

/-- Steps are read from their spelling, by induction on it: one step and then, behind a slash, what
is left.
-/
theorem Spelled.read {steps : List Step} {row : List Token} (spelled : Spelled steps row)
    : Steps.read true row = .ok ⟨steps, [], []⟩
      ∧ Steps.read false (mark .slash :: row) = .ok ⟨steps, [], []⟩ := by
  induction spelled with
  | @single step row only =>
      have ended : Step.Ended [] := by simp [Step.Ended]
      have first := only.read_first ended
      have next := only.read_next ended
      rw [List.append_nil] at first next
      exact ⟨read_of_step first (read_nil false), read_of_step next (read_nil false)⟩
  | @cons step row steps more first _ ih =>
      have ended : Step.Ended (mark .slash :: more) := by simp [Step.Ended, mark]
      exact ⟨read_of_step (first.read_first ended) ih.2, read_of_step (first.read_next ended) ih.2⟩

/-- The positions of tokens don't matter to steps that are all read. -/
theorem read_of_placed {isFirst : Bool} {tokens : List Token} {steps : List Step}
    (place : Token → Nat)
    (found : Steps.read isFirst (tokens.map (placed place)) = .ok ⟨steps, [], []⟩)
    : Steps.read isFirst tokens = .ok ⟨steps, [], []⟩ := by
  have same := read_placed place isFirst tokens
  rw [found] at same
  obtain ⟨⟨steps', ignored, rest⟩, original, outline⟩ := ok_of_map same.symm
  simp only [Steps.outline, Prod.mk.injEq, List.length_nil, List.length_eq_zero_iff,
    List.map_eq_nil_iff] at outline
  obtain ⟨rfl, rfl, rfl⟩ := outline
  exact original

/-- The steps that a text spells are all that is read from it. -/
theorem Written.read {steps : List Step} {text : String} (written : Written steps text)
    : Path.read text = .ok ⟨steps, "", []⟩ := by
  obtain ⟨tokens, laid, spelled⟩ := written
  have scanned : Token.scan text = tokens := laid.scanFrom_eq
  have found : Steps.read true (Token.scan text) = .ok ⟨steps, [], []⟩ := by
    rw [scanned]
    exact read_of_placed _ spelled.read.1
  exact Path.read_of_steps found

end Steps

end HtmlQuery.XPath
