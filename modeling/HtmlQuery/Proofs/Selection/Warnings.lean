import HtmlQuery.Proofs.Css.Spelling
import HtmlQuery.Proofs.Selection.QueriedNodes

/-! What queries warn about. A query that can't be read selects nothing and leaves one warning, but a
selector is only read if there is an element or a document to start from.
-/

namespace HtmlQuery

open HtmlQuery.Log

-----------------------------------------------------------------------------------------
-- Warnings
-----------------------------------------------------------------------------------------

namespace Log.Logged

variable {α β : Type}

/-- The messages of the warnings among what a computation reported, in order. -/
def warned (logged : Logged α) : List String :=
  (logged.records.filter fun record => record.level = .warning).map Record.message

/-- A failure leaves a single warning, which has a given message; without a failure there is none. -/
structure ReportsOnce (logged : Logged α) (failed : Prop) (message : String) : Prop where
  failure : failed → logged.warned = [message]
  success : ¬failed → logged.warned = []

@[simp]
theorem warned_pure (value : α) : (pure value : Logged α).warned = [] :=
  rfl

@[simp]
theorem warned_debug (message : String) (context : List (String × Json))
    : (debug message context).warned = [] :=
  rfl

@[simp]
theorem warned_warning (message : String) (context : List (String × Json))
    : (warning message context).warned = [message] :=
  rfl

@[simp]
theorem warned_bind (first : Logged α) (next : α → Logged β)
    : (first >>= next).warned = first.warned ++ (next first.value).warned := by
  simp [warned, bind]

/-- Behind a failure, nothing is reported any more. -/
theorem warned_run_bind {ε : Type} (first : ExceptT ε Logged α) (next : α → ExceptT ε Logged β)
    : (first >>= next).run.warned
      = first.run.warned
        ++ match first.run.value with
          | .ok value => (next value).run.warned
          | .error _ => [] := by
  refine (warned_bind first.run _).trans ?_
  cases first.run.value <;> rfl

@[simp]
theorem warned_run_adapt {ε ε' : Type} (f : ε → ε') (logged : ExceptT ε Logged α)
    : (logged.adapt f).run.warned = logged.run.warned :=
  (warned_bind logged.run fun outcome => pure (outcome.mapError f)).trans (List.append_nil _)

end Log.Logged

open HtmlQuery.Log.Logged

-----------------------------------------------------------------------------------------
-- Evaluations
-----------------------------------------------------------------------------------------

/-- Predicates that are skipped are no reason for a warning, by induction on them. -/
theorem XPath.warned_reports (expression : String) (ignored : List String)
    : (forIn (m := ExceptT Failure Log.Logged) ignored PUnit.unit fun predicate _ => do
        Log.Logged.debug "ignoring unsupported xpath predicate"
          [("expression", .string expression), ("predicate", .string predicate)]
        pure (ForInStep.yield PUnit.unit)).run.warned = [] := by
  induction ignored with
  | nil => rfl
  | cons predicate rest ih =>
      rw [List.forIn_cons, warned_run_bind]
      exact ih

/-- An evaluation warns of nothing, whatever it results in. -/
theorem XPath.warned_evaluate (document : Document) (expression : String) (items : List Item)
    : (evaluate document expression items).run.warned = [] := by
  rw [evaluate]
  cases Path.read expression with
  | error fault => rfl
  | ok path =>
      simp only [warned_run_bind, warned_reports, value_reports]
      split
      · cases path.select document items <;> rfl
      · rfl

namespace Selection

open HtmlQuery.XPath

variable {document : Document} {selection : Selection} {query : String}

/-- Nor does what is taken from the result. -/
theorem warned_evaluateBranch (document : Document) (contexts : List Item) (branch : String)
    : (evaluateBranch document contexts branch).run.warned = [] := by
  have silent := warned_evaluate document (Extracting.split branch).query contexts
  rw [← warned_run_adapt Failure.ofEvaluation] at silent
  rw [evaluateBranch, warned_run_bind, silent]
  split <;> rfl

/-- Nor do several branches, by induction on them. -/
theorem warned_evaluateBranches (document : Document) (contexts : List Item)
    (branches : List String)
    : (evaluateBranches document contexts branches).run.warned = [] := by
  induction branches with
  | nil => rfl
  | cons branch rest ih =>
      rw [evaluateBranches, warned_run_bind, warned_evaluateBranch]
      split
      · rw [warned_run_bind, ih]
        split <;> rfl
      · rfl

theorem warned_report (items : List Item) (query : String)
    : (report items query).warned = [] := by
  rw [report]
  split <;> simp

theorem warned_unreadable (query remainder error : String)
    : (unreadable query remainder error).warned = ["xpath could not be parsed completely"] := by
  rw [unreadable]
  simp [warned_report]

-----------------------------------------------------------------------------------------
-- Queries
-----------------------------------------------------------------------------------------

/-- Whether a query is a selector, apart from its suffix. -/
def IsSelector (query : String) : Prop :=
  Css.Group.read? (Extracting.split query).query ≠ none

/-- Whether a query is an expression without branches or one with a branch that can't be read
completely.
-/
def IsUnreadable (query : String) : Prop :=
  XPath.branches query = [] ∨ ∃ branch ∈ XPath.branches query, ¬Readable branch

/-- Whether an attached item of a selection is an element or a document. -/
def StartsSelectors (document : Document) (selection : Selection) : Prop :=
  ∃ item ∈ selection.contexts document, Css.isContext item = true

/-- A selector is found to be none just if there is something to start from. -/
theorem select_eq_invalid_iff
    : Css.select document (Extracting.split query).query (selection.contexts document)
        = .error .invalid
      ↔ ¬IsSelector query ∧ StartsSelectors document selection := by
  rw [Css.select, IsSelector, StartsSelectors, not_not, ← List.any_eq_true]
  cases (selection.contexts document).any Css.isContext with
  | false => simp
  | true =>
      cases Css.Group.read? (Extracting.split query).query with
      | none => simp
      | some group =>
          simp only [Bool.not_true, Bool.false_eq_true, if_false]
          split <;> simp

/-- What is no selector is reported once if there is something to start from, and otherwise not at
all.
-/
theorem reportsOnce_css {found : Selection}
    (answered : (css document selection query).value = .ok found)
    : (css document selection query).ReportsOnce
      (¬IsSelector query ∧ StartsSelectors document selection) "invalid CSS selector" := by
  rw [← select_eq_invalid_iff]
  rw [value_css] at answered
  rw [css]
  cases result : Css.select document (Extracting.split query).query (selection.contexts document) with
  | ok refs =>
      refine ⟨fun invalid => by simp at invalid, fun _ => ?_⟩
      simp only
      split
      · simp [warned_report]
      · rfl
  | error failure =>
      cases failure with
      | forbiddenCharacter =>
          rw [result] at answered
          cases answered
      | invalid => exact ⟨fun _ => by simp [warned_report], fun valid => (valid rfl).elim⟩

/-- What is no selector selects nothing, whether that is found or not. -/
theorem items_of_not_isSelector {found : Selection}
    (answered : (css document selection query).value = .ok found)
    (invalid : ¬IsSelector query)
    : found.items = [] := by
  by_cases starts : StartsSelectors document selection
  · rw [value_css, select_eq_invalid_iff.mpr ⟨invalid, starts⟩] at answered
    cases answered
    rfl
  · have idle : (selection.contexts document).any Css.isContext = false := by
      rwa [StartsSelectors, ← List.any_eq_true, Bool.not_eq_true] at starts
    have nothing
        : Css.select document (Extracting.split query).query (selection.contexts document)
          = .ok [] := by
      rw [Css.select, idle]
      rfl
    rw [value_css, nothing] at answered
    obtain ⟨items, taken, rfl⟩ := ok_of_map answered
    exact (Except.ok.inj ((take_eq_ok.mp taken).symm.trans (Extraction.apply_nil _ _)))

/-- Branches that result in something can be read, by induction on them. -/
theorem readable_of_evaluateBranches {contexts : List Item} {branches : List String}
    {items : List Item}
    (found : (evaluateBranches document contexts branches).run.value = .ok items)
    : ∀ branch ∈ branches, Readable branch := by
  induction branches generalizing items with
  | nil => simp
  | cons branch rest ih =>
      rw [value_evaluateBranches_cons] at found
      obtain ⟨taken, first, found⟩ := bind_eq_ok.mp found
      obtain ⟨others, later, -⟩ := ok_of_map found
      refine List.forall_mem_cons.mpr ⟨?_, ih later⟩
      by_contra unreadable
      obtain ⟨failure, fails⟩ := branchOutcome_of_unreadable unreadable document contexts
      rw [fails] at first
      cases first

/-- If branches are rejected, one of them can't be read, by induction on them. -/
theorem unreadable_of_evaluateBranches {contexts : List Item} {branches : List String}
    {error : PathError}
    (rejected : (evaluateBranches document contexts branches).run.value = .error (.unreadable error))
    : ∃ branch ∈ branches, ¬Readable branch := by
  induction branches with
  | nil => cases rejected
  | cons branch rest ih =>
      by_cases readable : Readable branch
      · rw [value_evaluateBranches_cons] at rejected
        rcases branchOutcome_of_covered document contexts readable
          with ⟨-, items, found⟩ | ⟨-, fault, found⟩
        · rw [found] at rejected
          obtain ⟨other, member, unreadable⟩ := ih (map_eq_error.mp rejected)
          exact ⟨other, List.mem_cons_of_mem _ member, unreadable⟩
        · rw [found] at rejected
          cases rejected
      · exact ⟨branch, List.mem_cons_self, readable⟩

/-- An expression that can't be read is reported once and selects nothing; other expressions are not
reported.
-/
theorem reportsOnce_xpath {found : Selection}
    (answered : (xpath document selection query).value = .ok found)
    : (xpath document selection query).ReportsOnce (IsUnreadable query)
        "xpath could not be parsed completely"
      ∧ (IsUnreadable query → found.items = []) := by
  by_cases none : XPath.branches query = []
  · have empty : xpath document selection query
        = unreadable query query "Empty expression." := by
      rw [xpath, none]
      rfl
    rw [empty, value_unreadable] at answered
    cases answered
    rw [empty]
    exact ⟨⟨fun _ => warned_unreadable query query _, fun some => (some (.inl none)).elim⟩,
      fun _ => rfl⟩
  · rw [value_xpath document selection none] at answered
    rw [xpath, if_neg (by simpa using none)]
    have silent := warned_evaluateBranches document (selection.contexts document)
      (XPath.branches query)
    cases evaluated : (evaluateBranches document (selection.contexts document)
        (XPath.branches query)).run.value with
    | ok items =>
        have readable : ¬IsUnreadable query := by
          rintro (nothing | ⟨branch, member, unreadable⟩)
          · exact none nothing
          · exact unreadable (readable_of_evaluateBranches evaluated branch member)
        refine ⟨⟨fun failed => (readable failed).elim, fun _ => ?_⟩,
          fun failed => (readable failed).elim⟩
        simp [silent, evaluated, warned_report]
    | error failure =>
        rw [evaluated] at answered
        cases failure with
        | fault fault => cases answered
        | unreadable error =>
            have failed : IsUnreadable query := .inr (unreadable_of_evaluateBranches evaluated)
            cases answered
            refine ⟨⟨fun _ => ?_, fun readable => (readable failed).elim⟩, fun _ => rfl⟩
            simp [silent, evaluated, warned_unreadable]

/--
A query that is no selector is reported once, and others aren't reported, if and only if it is a
selector or there is something to start from. Expressions that can't be read are always reported
once, and others aren't. Either way, what can't be read selects nothing.
-/
theorem reportsOnce_iff (document : Document) (selection : Selection) (query : String)
    : (∀ found, (css document selection query).value = .ok found →
        ((css document selection query).ReportsOnce (¬IsSelector query) "invalid CSS selector"
          ↔ IsSelector query ∨ StartsSelectors document selection)
        ∧ (¬IsSelector query → found.items = []))
      ∧ ∀ found, (xpath document selection query).value = .ok found →
        (xpath document selection query).ReportsOnce (IsUnreadable query)
          "xpath could not be parsed completely"
        ∧ (IsUnreadable query → found.items = []) := by
  refine ⟨fun found answered => ⟨?_, items_of_not_isSelector answered⟩,
    fun found answered => reportsOnce_xpath answered⟩
  have reports := reportsOnce_css answered
  constructor
  · intro always
    by_contra unnoticed
    obtain ⟨invalid, idle⟩ := not_or.mp unnoticed
    have silent := reports.success fun starting => idle starting.2
    have warned := always.failure invalid
    rw [silent] at warned
    cases warned
  · rintro (valid | starts)
    · exact ⟨fun invalid => (invalid valid).elim, fun _ =>
        reports.success fun starting => starting.1 valid⟩
    · exact ⟨fun invalid => reports.failure ⟨invalid, starts⟩, fun valid =>
        reports.success fun starting => valid starting.1⟩

-----------------------------------------------------------------------------------------
-- Brackets without an end
-----------------------------------------------------------------------------------------

theorem not_isSelector_brackets : ¬IsSelector "[[[invalid" := by
  have plain : Extracting.split "[[[invalid" = ⟨"[[[invalid", .node⟩ := by decide +kernel
  rw [IsSelector, plain, not_not]
  decide +kernel

/-- A predicate without an end is left over, so the whole expression is rejected. -/
theorem rejected_bracket
    : IsUnreadable "//p["
      ∧ (xpath withParagraph .start "//p[").value = .ok ⟨[], "//p["⟩ := by
  have alone : XPath.branches "//p[" = ["//p["] := by decide +kernel
  have plain : pathOf "//p[" = "//p[" := by decide +kernel
  have scanned : Token.scan "//p["
      = [⟨0, .doubleSlash, "//"⟩, ⟨2, .name, "p"⟩, ⟨3, .openBracket, "["⟩] := by
    decide +kernel
  have steps : Steps.read true (Token.scan "//p[")
      = .ok ⟨[⟨.descendant, .name "p", []⟩], [], [⟨3, .openBracket, "["⟩]⟩ := by
    rw [scanned, Steps.read_cons, Step.read_eq]
    decide +kernel
  have remainder : (excerpt "//p[" 3 "//p[".length).trimmed = "[" := by cbv
  have stops := Path.read_of_rest steps
  rw [remainder] at stops
  constructor
  · refine .inr ⟨"//p[", by simp [alone], ?_⟩
    rintro ⟨path, covers, complete⟩
    rw [plain, stops] at covers
    cases covers
    cases complete
  · rw [value_xpath_single alone, branchOutcome_eq, plain, outcome_of_incomplete stops rfl]
    rfl

/-- From a document, an attribute test and a predicate that have no end are reported, and a selector
isn't.
-/
theorem reportsOnce_brackets
    : (css withParagraph .start "[[[invalid").value = .ok ⟨[], "[[[invalid"⟩
      ∧ ¬IsSelector "[[[invalid"
      ∧ StartsSelectors withParagraph .start
      ∧ (css withParagraph .start "[[[invalid").warned = ["invalid CSS selector"]
      ∧ (css withParagraph .start "p").value = .ok ⟨[.node (.element 1)], "p"⟩
      ∧ IsSelector "p"
      ∧ (css withParagraph .start "p").warned = []
      ∧ (xpath withParagraph .start "//p[").value = .ok ⟨[], "//p["⟩
      ∧ IsUnreadable "//p["
      ∧ (xpath withParagraph .start "//p[").warned = ["xpath could not be parsed completely"] := by
  have starts : StartsSelectors withParagraph .start := ⟨.node .document, by decide, rfl⟩
  have invalid := not_isSelector_brackets
  obtain ⟨unreadable, stopped⟩ := rejected_bracket
  have plain : Extracting.split "p" = ⟨"p", .node⟩ := by decide +kernel
  have tokens : Css.Token.scan "p" = [.ident "p"] := by decide +kernel
  have read : Css.Group.read? "p" = some [.compound (.mk (some "p") [])] :=
    Css.Group.read?_compound (Css.Compound.spelled_type tokens)
  have valid : IsSelector "p" := by simp [IsSelector, plain, read]
  have rejected : (css withParagraph .start "[[[invalid").value = .ok ⟨[], "[[[invalid"⟩ := by
    rw [value_css, select_eq_invalid_iff.mpr ⟨invalid, starts⟩]
  have selected : (css withParagraph .start "p").value = .ok ⟨[.node (.element 1)], "p"⟩ := by
    rw [value_css, plain, contexts_start, Css.select, read, tokens]
    cbv
  obtain ⟨first, -⟩ := (reportsOnce_iff withParagraph .start "[[[invalid").1 _ rejected
  obtain ⟨second, -⟩ := (reportsOnce_iff withParagraph .start "p").1 _ selected
  obtain ⟨third, -⟩ := (reportsOnce_iff withParagraph .start "//p[").2 _ stopped
  exact ⟨rejected, invalid, starts, (first.mpr (.inr starts)).failure invalid, selected, valid,
    (second.mpr (.inl valid)).success (not_not.mpr valid), stopped, unreadable,
    third.failure unreadable⟩

/-- A selection that an expression found nothing for. -/
def nothingFound : Selection where
  items := []
  query := "//i"

theorem obtained_nothingFound : Obtained withParagraph nothingFound := by
  have covers : XPath.Path.Covers ⟨[⟨.descendant, .name "i", []⟩], "", []⟩ "//i" :=
    Path.covers_descendants "i" (Token.isLexeme_of_isPlainName (by decide)) (by decide +kernel)
  have plain : Extracting.split "//i" = ⟨"//i", .node⟩ := by decide +kernel
  have nothing : [Node.element 1 "p" [], .text (.lead 1) "a"].filter (NodeTest.name "i").accepts
      = [] := by
    decide +kernel
  refine .xpath (.start (.fragment _)) "//i" ?_
  rw [value_xpath_taken covers plain covers, contexts_start, Path.select_step,
    Step.select_node withParagraph (by decide), descendants_withParagraph, nothing]
  rfl

/-- From a selection of nothing, the attribute test without an end isn't reported. -/
theorem unreported_brackets
    : Obtained withParagraph nothingFound
      ∧ (css withParagraph nothingFound "[[[invalid").value = .ok ⟨[], "[[[invalid"⟩
      ∧ ¬IsSelector "[[[invalid"
      ∧ (css withParagraph nothingFound "[[[invalid").warned = []
      ∧ ¬(css withParagraph nothingFound "[[[invalid").ReportsOnce (¬IsSelector "[[[invalid")
        "invalid CSS selector" := by
  have answered : (css withParagraph nothingFound "[[[invalid").value = .ok ⟨[], "[[[invalid"⟩ :=
    value_css_of_no_context rfl "[[[invalid"
  have silent : (css withParagraph nothingFound "[[[invalid").warned = [] := by
    refine (reportsOnce_css answered).success ?_
    rintro ⟨-, item, ⟨⟩, -⟩
  refine ⟨obtained_nothingFound, answered, not_isSelector_brackets, silent, fun reports => ?_⟩
  have warned := reports.failure not_isSelector_brackets
  rw [silent] at warned
  cases warned

end Selection

end HtmlQuery
