import HtmlQuery.Proofs.XPath.Concatenation
import HtmlQuery.Proofs.XPath.PredicateOverflow

/-! When evaluating a path fails: some node is put to a predicate that cuts its text at an empty
delimiter. All else that a path can consist of is safe for all nodes.
-/

namespace HtmlQuery.XPath

variable {fault : Fault}

/-- What is done in turn fails just where one part fails on the result of those in front of it, by
induction on the parts.
-/
theorem chain_eq_error {ε α σ : Type} {run : List α → σ → Except ε σ} {act : α → σ → Except ε σ}
    (done : ∀ state, run [] state = .ok state)
    (goes : ∀ first rest state, run (first :: rest) state = act first state >>= run rest)
    {parts : List α} {state : σ} {error : ε}
    : run parts state = .error error
      ↔ ∃ before part after reached,
        parts = before ++ part :: after
        ∧ run before state = .ok reached
        ∧ act part reached = .error error := by
  induction parts generalizing state with
  | nil => simp [done]
  | cons first rest ih =>
      rw [goes, bind_eq_error]
      constructor
      · rintro (fails | ⟨next, acts, fails⟩)
        · exact ⟨[], first, rest, state, rfl, done state, fails⟩
        · obtain ⟨before, part, after, reached, rfl, runs, fails⟩ := ih.mp fails
          refine ⟨first :: before, part, after, reached, rfl, ?_, fails⟩
          rw [goes, acts]
          exact runs
      · rintro ⟨before, part, after, reached, shape, runs, fails⟩
        cases before with
        | nil =>
            obtain ⟨rfl, rfl⟩ := List.cons.inj shape
            rw [done] at runs
            cases runs
            exact .inl fails
        | cons other before =>
            obtain ⟨rfl, rfl⟩ := List.cons.inj shape
            rw [goes] at runs
            cases acts : act first state with
            | error other =>
                rw [acts] at runs
                cases runs
            | ok next =>
                rw [acts] at runs
                exact .inr ⟨next, rfl, ih.mpr ⟨before, part, after, reached, rfl, runs, fails⟩⟩

-----------------------------------------------------------------------------------------
-- Predicates
-----------------------------------------------------------------------------------------

namespace Predicate

/-- Whether a predicate cuts a text at an empty delimiter, no matter which text it is. -/
def cutsEmpty : Predicate → Bool
  | substringAfter delimiter _ _ => delimiter == ""
  | substringBefore delimiter _ _ => delimiter == ""
  | not predicate => cutsEmpty predicate
  | join _ left right => cutsEmpty left || cutsEmpty right
  | _ => false

theorem cutText_eq_error {text delimiter : String}
    : cutText text delimiter = .error fault ↔ fault = .emptyDelimiter ∧ delimiter = "" := by
  rw [cutText]
  split
  · rename_i empty
    simp [empty, eq_comm]
  · rename_i some
    simp [some]

/-- Evaluating a predicate fails just if it cuts at nothing, by induction on the predicate: both
operands of a connective are evaluated, whatever the first one results in.
-/
theorem holds_eq_error (document : Document) (candidate : Candidate) {predicate : Predicate}
    : predicate.holds document candidate = .error fault
      ↔ fault = .emptyDelimiter ∧ predicate.cutsEmpty = true := by
  induction predicate generalizing fault with
  | substringAfter delimiter equality value =>
      simp [holds, cutsEmpty, bind_eq_error, cutText_eq_error]
  | substringBefore delimiter equality value =>
      simp [holds, cutsEmpty, bind_eq_error, cutText_eq_error]
  | not predicate ih => simp [holds, cutsEmpty, bind_eq_error, ih]
  | join connective left right first second =>
      cases result : left.holds document candidate with
      | error other =>
          obtain ⟨rfl, cuts⟩ := first.mp result
          have fails : (join connective left right).holds document candidate
              = .error .emptyDelimiter :=
            bind_eq_error.mpr (.inl result)
          simp [fails, cutsEmpty, cuts, eq_comm]
      | ok value =>
          have safe : left.cutsEmpty = false := by
            rw [Bool.eq_false_iff]
            intro cuts
            have fails := first.mpr ⟨rfl, cuts⟩
            rw [result] at fails
            cases fails
          simp [holds, bind_eq_error, cutsEmpty, result, safe, second]
  | _ => simp [holds, cutsEmpty]

end Predicate

-----------------------------------------------------------------------------------------
-- Several predicates
-----------------------------------------------------------------------------------------

/-- A predicate that cuts at nothing fails just if there is a node to put it to, by induction on the
nodes.
-/
theorem keepFrom_eq_error (document : Document) (predicate : Predicate) (size position : Nat)
    (nodes : List Node)
    : keepFrom document predicate size position nodes = .error fault
      ↔ fault = .emptyDelimiter ∧ predicate.cutsEmpty = true ∧ nodes ≠ [] := by
  induction nodes generalizing position with
  | nil => simp [keepFrom]
  | cons node rest ih =>
      rw [keepFrom, bind_eq_error, Predicate.holds_eq_error]
      simp only [bind_eq_error, ih]
      constructor
      · rintro (⟨rfl, cuts⟩ | ⟨_, _, ⟨rfl, cuts, -⟩ | ⟨_, _, last⟩⟩)
        · exact ⟨rfl, cuts, by simp⟩
        · exact ⟨rfl, cuts, by simp⟩
        · cases last
      · rintro ⟨rfl, cuts, -⟩
        exact .inl ⟨rfl, cuts⟩

/-- Several predicates fail just if one of them cuts at nothing and a node passes those in front of
it.
-/
theorem keepAll_eq_error (document : Document) (predicates : List Predicate) (nodes : List Node)
    : keepAll document predicates nodes = .error fault
      ↔ fault = .emptyDelimiter
        ∧ ∃ known predicate others kept,
          predicates = known ++ predicate :: others
          ∧ predicate.cutsEmpty = true
          ∧ keepAll document known nodes = .ok kept
          ∧ kept ≠ [] := by
  rw [chain_eq_error (fun _ => rfl) fun _ _ _ => rfl]
  simp only [keepFrom_eq_error]
  constructor
  · rintro ⟨known, predicate, others, kept, shape, reads, rfl, cuts, some⟩
    exact ⟨rfl, known, predicate, others, kept, shape, cuts, reads, some⟩
  · rintro ⟨rfl, known, predicate, others, kept, shape, cuts, reads, some⟩
    exact ⟨known, predicate, others, kept, shape, reads, rfl, cuts, some⟩

-----------------------------------------------------------------------------------------
-- Steps
-----------------------------------------------------------------------------------------

/-- Whether a step puts a node, which it leads to from a given one, to a predicate that cuts at
nothing.
-/
def Step.CutsFrom (document : Document) (step : Step) (ref : NodeRef) : Prop :=
  ∃ known predicate others kept,
    step.predicates = known ++ predicate :: others
    ∧ predicate.cutsEmpty = true
    ∧ keepAll document known ((step.axis.nodes document ref).filter step.test.accepts) = .ok kept
    ∧ kept ≠ []

/-- Whether a step does so from one of several items. -/
def Step.Cuts (document : Document) (step : Step) (items : List Item) : Prop :=
  ∃ ref, .node ref ∈ items ∧ step.CutsFrom document ref

/-- Whether a path does so on its way from some items. -/
def Path.Cuts (document : Document) (path : Path) (items : List Item) : Prop :=
  ∃ before step after selected,
    path.steps = before ++ step :: after
    ∧ Path.selectSteps document before items = .ok selected
    ∧ step.Cuts document selected

namespace Step

/-- Predicates are never put to attributes. -/
def Bare (step : Step) : Prop :=
  step.axis = .attributes → step.predicates = []

variable {step : Step} (document : Document)

theorem selectFrom_eq_error (bare : step.Bare) (ref : NodeRef)
    : step.selectFrom document ref = .error fault
      ↔ fault = .emptyDelimiter ∧ step.CutsFrom document ref := by
  rw [selectFrom]
  split
  · rename_i attributes
    have none := bare attributes
    simp [CutsFrom, none]
  · simp only [bind_eq_error, keepAll_eq_error]
    constructor
    · rintro (fails | ⟨_, _, last⟩)
      · exact fails
      · cases last
    · exact .inl

/-- A step fails just if it does from one of its items, by induction on the items. -/
theorem select_eq_error (bare : step.Bare) (items : List Item)
    : step.select document items = .error fault
      ↔ fault = .emptyDelimiter ∧ step.Cuts document items := by
  induction items with
  | nil => simp [select, Cuts]
  | cons item rest ih =>
      cases item with
      | text value => simp [select, ih, Cuts]
      | node ref =>
          rw [select, bind_eq_error, selectFrom_eq_error document bare]
          simp only [bind_eq_error, ih]
          constructor
          · rintro (⟨rfl, cuts⟩ | ⟨_, _, ⟨rfl, other, member, cuts⟩ | ⟨_, _, last⟩⟩)
            · exact ⟨rfl, ref, List.mem_cons_self, cuts⟩
            · exact ⟨rfl, other, List.mem_cons_of_mem _ member, cuts⟩
            · cases last
          · rintro ⟨rfl, other, member, cuts⟩
            rcases List.mem_cons.mp member with same | member
            · obtain rfl : other = ref := Item.node.inj same
              exact .inl ⟨rfl, cuts⟩
            · cases own : step.selectFrom document ref with
              | error fault =>
                  obtain ⟨rfl, cuts⟩ := (selectFrom_eq_error document bare ref).mp own
                  exact .inl ⟨rfl, cuts⟩
              | ok selected => exact .inr ⟨selected, rfl, .inl ⟨rfl, other, member, cuts⟩⟩

/-- What is read as a step of attributes has no predicates. -/
theorem bare_of_read {isFirst : Bool} {tokens : List Token} {reading : Reading}
    (found : read isFirst tokens = .ok (some reading))
    : reading.step.Bare := by
  intro attributes
  rw [read_eq] at found
  split at found
  · cases found
  · rename_i suggested body _
    have tested : readTest suggested body = .ok (some reading) := by
      unfold readBody at found
      split at found
      · cases found
        cases attributes
      · cases found
        cases attributes
      · exact found
    unfold readTest at tested
    simp only at tested
    split at tested
    · cases tested
    · unfold readGroups at tested
      split at tested
      · cases tested
        rfl
      · rename_i nodes
        obtain ⟨groups, -, same⟩ := ok_of_map tested
        cases same
        exact (nodes attributes).elim

end Step

-----------------------------------------------------------------------------------------
-- Paths
-----------------------------------------------------------------------------------------

/-- No step that is read has predicates of attributes, by induction on the steps. -/
theorem Steps.bare_of_read {isFirst : Bool} {tokens : List Token} {reading : Steps}
    (found : read isFirst tokens = .ok reading)
    : ∀ step ∈ reading.steps, step.Bare := by
  have run := run_of_read found
  clear found
  induction run with
  | done => simp
  | step first _ _ ih =>
      intro other member
      rcases List.mem_cons.mp member with rfl | member
      · exact Step.bare_of_read first
      · exact ih other member

namespace Path

theorem bare_of_covers {path : Path} {expression : String} (covers : path.Covers expression)
    : ∀ step ∈ path.steps, step.Bare := by
  obtain ⟨-, ignored, found, -⟩ := covers_iff.mp covers
  exact Steps.bare_of_read found

/-- Steps fail just if one of them cuts at nothing from what the ones before select. -/
theorem selectSteps_eq_error (document : Document) {steps : List Step}
    (bare : ∀ step ∈ steps, step.Bare) (items : List Item)
    : selectSteps document steps items = .error fault
      ↔ fault = .emptyDelimiter
        ∧ ∃ before step after selected,
          steps = before ++ step :: after
          ∧ selectSteps document before items = .ok selected
          ∧ step.Cuts document selected := by
  rw [chain_eq_error (fun _ => rfl) fun _ _ _ => rfl]
  constructor
  · rintro ⟨before, step, after, selected, rfl, reads, fails⟩
    obtain ⟨rfl, cuts⟩ := (Step.select_eq_error document (bare step (by simp)) selected).mp fails
    exact ⟨rfl, before, step, after, selected, rfl, reads, cuts⟩
  · rintro ⟨rfl, before, step, after, selected, rfl, reads, cuts⟩
    have fails := (Step.select_eq_error document (bare step (by simp)) selected).mpr ⟨rfl, cuts⟩
    exact ⟨before, step, after, selected, rfl, reads, fails⟩

/-- What a path selects, or the one way to fail. -/
theorem select_eq_ok {path : Path} {expression : String} (covers : path.Covers expression)
    (document : Document) (items : List Item)
    : (∃ selected, path.select document items = .ok selected) ↔ ¬path.Cuts document items := by
  have fails (fault : Fault)
      : path.select document items = .error fault
        ↔ fault = .emptyDelimiter ∧ path.Cuts document items :=
    selectSteps_eq_error document (bare_of_covers covers) items
  cases result : path.select document items with
  | ok selected =>
      refine iff_of_true ⟨selected, rfl⟩ fun cuts => ?_
      have failing := (fails .emptyDelimiter).mpr ⟨rfl, cuts⟩
      rw [result] at failing
      cases failing
  | error fault =>
      obtain ⟨-, cuts⟩ := (fails fault).mp result
      simp [cuts]

end Path

end HtmlQuery.XPath
