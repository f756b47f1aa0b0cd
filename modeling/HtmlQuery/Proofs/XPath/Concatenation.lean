import HtmlQuery.Proofs.Document.Nodes
import HtmlQuery.Proofs.XPath.CompletePath
import HtmlQuery.Proofs.XPath.NamedSteps
import HtmlQuery.XPath.Evaluate

/-! Evaluating expressions that stand one behind the other: the second one goes on with what the first
one selects, item by item.
-/

namespace HtmlQuery

/-- The node that an item is; a text is none. -/
def Item.ref? : Item → Option NodeRef
  | .node ref => some ref
  | .text _ => none

namespace XPath

-----------------------------------------------------------------------------------------
-- What an evaluation results in
-----------------------------------------------------------------------------------------

/-- What an evaluation results in, whatever it reports on the way. -/
def outcome (document : Document) (expression : String) (items : List Item)
    : Except Failure (List Item) :=
  (evaluate document expression items).run.value

theorem value_bind {ε α β : Type} (first : ExceptT ε Log.Logged α)
    (next : α → ExceptT ε Log.Logged β)
    : (first >>= next).run.value
      = match first.run.value with
        | .ok value => (next value).run.value
        | .error failure => .error failure := by
  obtain ⟨value, records⟩ := first
  cases value <;> rfl

/-- Reports don't end an evaluation, by induction on what is reported. -/
theorem value_reports (expression : String) (ignored : List String)
    : (forIn (m := ExceptT Failure Log.Logged) ignored PUnit.unit fun predicate _ => do
        Log.Logged.debug "ignoring unsupported xpath predicate"
          [("expression", .string expression), ("predicate", .string predicate)]
        pure (ForInStep.yield PUnit.unit)).run.value = .ok PUnit.unit := by
  induction ignored with
  | nil => rfl
  | cons predicate rest ih =>
      rw [List.forIn_cons, value_bind]
      exact ih

/-- An expression that a path covers results in what the path selects. -/
theorem outcome_of_covers {path : Path} {expression : String} (covers : path.Covers expression)
    (document : Document) (items : List Item)
    : outcome document expression items
      = (path.select document items).mapError Failure.fault := by
  obtain ⟨found, complete⟩ := covers
  rw [outcome, evaluate, found]
  simp only [complete, if_true]
  rw [value_bind]
  have reports := value_reports expression path.ignored
  rw [reports]
  cases path.select document items <;> rfl

/-- An expression that is only read in part is rejected where that shows. -/
theorem outcome_of_incomplete {path : Path} {expression : String}
    (found : Path.read expression = .ok path) (unfinished : path.isComplete = false)
    (document : Document) (items : List Item)
    : outcome document expression items = .error (.unreadable (incomplete expression path)) := by
  rw [outcome, evaluate, found]
  simp only [unfinished, Bool.false_eq_true, if_false]
  rw [value_bind, value_reports expression path.ignored]
  rfl

-----------------------------------------------------------------------------------------
-- Several items
-----------------------------------------------------------------------------------------

/-- A step goes through its items in order, by induction on the first ones. -/
theorem Step.select_append (document : Document) (step : Step) (left right : List Item)
    : step.select document (left ++ right)
      = (step.select document left).bind fun first =>
        (step.select document right).map fun others => first ++ others := by
  induction left with
  | nil =>
      rw [List.nil_append, select]
      cases step.select document right <;> rfl
  | cons item rest ih =>
      cases item with
      | text value =>
          rw [List.cons_append, select, select]
          exact ih
      | node ref =>
          rw [List.cons_append, select, select, ih]
          cases step.selectFrom document ref with
          | error fault => rfl
          | ok first =>
              cases step.select document rest with
              | error fault => rfl
              | ok others =>
                  cases step.select document right with
                  | error fault => rfl
                  | ok last => simp [bind, Except.bind, Except.map]

/-- A step leads from a node to those on its axis that pass its test and its predicates. -/
theorem Step.select_node (document : Document) {axis : Axis} (nodes : axis ≠ .attributes)
    (test : NodeTest) (predicates : List Predicate) (ref : NodeRef)
    : Step.select document ⟨axis, test, predicates⟩ [.node ref]
      = (keepAll document predicates ((axis.nodes document ref).filter test.accepts)).map
        (List.map fun node => .node node.ref) := by
  simp only [Step.select, Step.selectFrom, nodes, if_false]
  cases keepAll document predicates ((axis.nodes document ref).filter test.accepts) <;>
    simp [bind, Except.bind, Except.map]

/-- A step without predicates selects what its axis leads to from one node after the other, as far as
it passes the test, by induction on the items.
-/
theorem Step.select_unfiltered (document : Document) {axis : Axis} (nodes : axis ≠ .attributes)
    (test : NodeTest) (items : List Item)
    : Step.select document ⟨axis, test, []⟩ items
      = .ok (((items.filterMap Item.ref?).flatMap fun ref =>
          ((axis.nodes document ref).filter test.accepts).map Node.ref).map .node) := by
  induction items with
  | nil => rfl
  | cons item rest ih =>
      cases item with
      | text value => exact ih
      | node ref =>
          have own : Step.selectFrom document ⟨axis, test, []⟩ ref
              = .ok ((((axis.nodes document ref).filter test.accepts).map Node.ref).map .node) := by
            simp [Step.selectFrom, nodes, keepAll, bind, Except.bind]
          rw [Step.select, own, ih]
          simp [Item.ref?, bind, Except.bind]

namespace Path

/-- A path of one step selects what the step does. -/
theorem select_step (document : Document) (step : Step) {remainder : String}
    {ignored : List String} (items : List Item)
    : select document ⟨[step], remainder, ignored⟩ items = step.select document items := by
  rw [select, selectSteps]
  cases step.select document items <;> rfl

/-- A path of one step without predicates selects what the step's axis leads to, as far as it passes
the test.
-/
theorem select_unfiltered (document : Document) {axis : Axis} (nodes : axis ≠ .attributes)
    (test : NodeTest) {remainder : String} {ignored : List String} (items : List Item)
    : select document ⟨[⟨axis, test, []⟩], remainder, ignored⟩ items
      = .ok (((items.filterMap Item.ref?).flatMap fun ref =>
          ((axis.nodes document ref).filter test.accepts).map Node.ref).map .node) := by
  rw [select_step, Step.select_unfiltered document nodes]

/-- Further steps go on with what the first ones select, by induction on the first ones. -/
theorem selectSteps_append (document : Document) (first second : List Step) (items : List Item)
    : selectSteps document (first ++ second) items
      = (selectSteps document first items).bind (selectSteps document second) := by
  induction first generalizing items with
  | nil => rfl
  | cons step first ih =>
      rw [List.cons_append, selectSteps, selectSteps]
      cases step.select document items with
      | error fault => rfl
      | ok selected => exact ih selected

/-- Steps select from two rows of items what they select from each of them, by induction on the
steps.
-/
theorem selectSteps_items_append (document : Document) {steps : List Step}
    {left right result : List Item}
    : selectSteps document steps (left ++ right) = .ok result
      ↔ ∃ first others,
        selectSteps document steps left = .ok first
        ∧ selectSteps document steps right = .ok others
        ∧ result = first ++ others := by
  induction steps generalizing left right with
  | nil =>
      simp only [selectSteps, Except.ok.injEq, exists_and_left, exists_eq_left']
      exact eq_comm
  | cons step steps ih =>
      simp only [selectSteps, Step.select_append]
      cases step.select document left with
      | error fault => simp [bind, Except.bind]
      | ok first =>
          cases step.select document right with
          | error fault => simp [bind, Except.bind, Except.map]
          | ok others => exact ih

/-- Without items there is nothing to select. -/
theorem selectSteps_nil (document : Document) (steps : List Step)
    : selectSteps document steps [] = .ok [] := by
  induction steps with
  | nil => rfl
  | cons step steps ih => exact ih

/-- Steps select from some items, one after the other, what they select from each of them, by
induction on the items.
-/
theorem selectSteps_eq_flatten (document : Document) {steps : List Step}
    {items result : List Item}
    : selectSteps document steps items = .ok result
      ↔ (items.mapM fun item => selectSteps document steps [item]).map List.flatten
        = .ok result := by
  induction items generalizing result with
  | nil => rw [selectSteps_nil]; rfl
  | cons item rest ih =>
      rw [← List.singleton_append, selectSteps_items_append, List.singleton_append,
        List.mapM_cons]
      simp only [ih]
      cases selectSteps document steps [item] with
      | error fault => simp [bind, Except.bind, Except.map]
      | ok first =>
          cases rest.mapM fun item => selectSteps document steps [item] with
          | error fault => simp [bind, Except.bind, Except.map]
          | ok others => simp [bind, Except.bind, Except.map, pure, Except.pure, eq_comm]

-----------------------------------------------------------------------------------------
-- Staying at a node
-----------------------------------------------------------------------------------------

theorem keepAll_nil (document : Document) (predicates : List Predicate)
    : keepAll document predicates [] = .ok [] := by
  induction predicates with
  | nil => rfl
  | cons predicate predicates ih => exact ih

/-- A name that belongs to nothing leads nowhere. -/
theorem selectFrom_of_unknown {document : Document} (sound : document.Sound) (step : Step)
    {ref : NodeRef} (unknown : document.node? ref = none)
    : step.selectFrom document ref = .ok [] := by
  have nowhere : document.place? ref = none := by
    cases found : document.place? ref with
    | none => rfl
    | some place =>
        have known := Document.node?_of_place? sound found
        rw [unknown] at known
        cases known
  have nodes : step.axis.nodes document ref = [] := by
    cases step.axis <;> simp [Axis.nodes, Document.along, nowhere, unknown]
  rw [Step.selectFrom]
  split
  · simp [Document.attributes, unknown]
  · simp only [nodes, List.filter_nil, keepAll_nil]
    rfl

/-- Staying where one is before a step makes no difference, by induction on the items. -/
theorem select_stay {document : Document} (sound : document.Sound) (items : List Item)
    : ∃ stayed,
        stay.select document items = .ok stayed
        ∧ ∀ step : Step, step.select document stayed = step.select document items := by
  induction items with
  | nil => exact ⟨[], rfl, fun _ => rfl⟩
  | cons item rest ih =>
      obtain ⟨stayed, found, same⟩ := ih
      cases item with
      | text value => exact ⟨stayed, found, same⟩
      | node ref =>
          cases known : document.node? ref with
          | none =>
              refine ⟨stayed, ?_, fun step => ?_⟩
              · rw [Step.select, selectFrom_of_unknown sound stay known, found]
                rfl
              · rw [Step.select, selectFrom_of_unknown sound step known, same step]
                cases step.select document rest <;> rfl
          | some node =>
              have own : stay.selectFrom document ref = .ok [.node ref] := by
                have all : [node].filter NodeTest.anyNode.accepts = [node] := by
                  cases node <;> rfl
                simp [Step.selectFrom, stay, Axis.nodes, known, all, keepAll, bind, Except.bind,
                  Document.ref_of_node? known]
              refine ⟨.node ref :: stayed, ?_, fun step => ?_⟩
              · rw [Step.select, own, found]
                rfl
              · rw [Step.select, Step.select, same step]

/-- A path goes on with what another one selects; a mere dot in front of it selects what is there. -/
theorem select_append {document : Document} (sound : document.Sound) {first second whole : Path}
    (some : second.steps ≠ [])
    (steps : whole.steps = first.steps ++ second.steps
      ∨ first.steps = [stay] ∧ whole.steps = second.steps)
    (items : List Item)
    : whole.select document items
      = (first.select document items).bind (second.select document) := by
  simp only [select]
  rcases steps with steps | ⟨alone, steps⟩
  · rw [steps, selectSteps_append]
    rfl
  · rw [steps, alone]
    obtain ⟨stayed, found, same⟩ := select_stay sound items
    obtain ⟨step, others, shape⟩ := List.exists_cons_of_ne_nil some
    simp [shape, selectSteps, found, same, bind, Except.bind, select]

end Path

-----------------------------------------------------------------------------------------
-- Expressions behind one another
-----------------------------------------------------------------------------------------

theorem mapError_eq_ok {ε ε' α : Type} {f : ε → ε'} {result : Except ε α} {value : α}
    : result.mapError f = .ok value ↔ result = .ok value := by
  cases result <;> simp [Except.mapError]

theorem mapM_mapError {ε ε' α β : Type} (f : ε → ε') (action : α → Except ε β) (items : List α)
    : (items.mapM fun item => (action item).mapError f) = (items.mapM action).mapError f := by
  induction items with
  | nil => rfl
  | cons item rest ih =>
      rw [List.mapM_cons, List.mapM_cons, ih]
      cases action item with
      | error error => rfl
      | ok value => cases rest.mapM action <;> rfl

/--
Two expressions that can be read completely, the second of which begins with a separator, make one
that can be read completely. It results in what the second one results in for the items that the
first one selects, and that is put together from what it results in for each of them.
-/
theorem outcome_append {document : Document} (reachable : document.Reachable)
    {left right : String} {first second : Path} (covers : first.Covers left)
    (covers' : second.Covers right) (separated : Separated (Token.scan right))
    : (∃ whole : Path, whole.Covers (left ++ right))
      ∧ (∀ items result,
        outcome document (left ++ right) items = .ok result
        ↔ ∃ selected,
          outcome document left items = .ok selected
          ∧ outcome document right selected = .ok result)
      ∧ ∀ selected result,
        outcome document right selected = .ok result
        ↔ (selected.mapM fun item => outcome document right [item]).map List.flatten
          = .ok result := by
  obtain ⟨whole, complete, steps⟩ := Path.covers_append covers covers' separated
  have some := (Path.covers_iff.mp covers').1
  refine ⟨⟨whole, complete⟩, fun items result => ?_, fun selected result => ?_⟩
  · simp only [outcome_of_covers covers, outcome_of_covers covers', outcome_of_covers complete,
      mapError_eq_ok]
    rw [Path.select_append reachable.sound some steps items]
    cases first.select document items <;> simp [Except.bind]
  · simp only [outcome_of_covers covers', mapError_eq_ok, Path.select]
    rw [Path.selectSteps_eq_flatten, mapM_mapError]
    cases selected.mapM fun item => Path.selectSteps document second.steps [item] <;>
      simp [Except.mapError, Except.map]

/-- Two nested elements with one tag. -/
def nestedBold : Document :=
  .fragment [.element "b" [] [.element "b" [] [.text "x"]]]

/-- A dot in front of a descent, which takes the dot for its own separator. From the document and the
outer element, the inner one is found twice.
-/
theorem outcome_append_dot
    : nestedBold.Reachable
      ∧ Path.Covers ⟨[Path.stay], "", []⟩ "."
      ∧ Path.Covers ⟨[⟨.descendant, .name "b", []⟩], "", []⟩ "//b"
      ∧ Separated (Token.scan "//b")
      ∧ (∃ whole : Path, whole.Covers ("." ++ "//b"))
      ∧ outcome nestedBold "." [.node .document, .node (.element 1)]
        = .ok [.node .document, .node (.element 1)]
      ∧ outcome nestedBold "//b" [.node .document, .node (.element 1)]
        = .ok [.node (.element 1), .node (.element 2), .node (.element 2)]
      ∧ outcome nestedBold ("." ++ "//b") [.node .document, .node (.element 1)]
        = .ok [.node (.element 1), .node (.element 2), .node (.element 2)]
      ∧ ([Item.node .document, .node (.element 1)].mapM fun item =>
          outcome nestedBold "//b" [item]).map List.flatten
        = .ok [.node (.element 1), .node (.element 2), .node (.element 2)] := by
  have reachable : nestedBold.Reachable := .fragment _
  have stays : Path.Covers ⟨[Path.stay], "", []⟩ "." := by decide +kernel
  have separated : Separated (Token.scan "//b") := ⟨⟨0, .doubleSlash, "//"⟩, by decide +kernel, by decide⟩
  have descends : Path.Covers ⟨[⟨.descendant, .name "b", []⟩], "", []⟩ "//b" :=
    Path.covers_descendants "b" (Token.isLexeme_of_isPlainName (by decide)) (by decide +kernel)
  have first : outcome nestedBold "." [.node .document, .node (.element 1)]
      = .ok [.node .document, .node (.element 1)] := by
    rw [outcome_of_covers stays]
    cbv
  have second : outcome nestedBold "//b" [.node .document, .node (.element 1)]
      = .ok [.node (.element 1), .node (.element 2), .node (.element 2)] := by
    have top : Axis.descendant.nodes nestedBold .document
        = [.element 1 "b" [], .element 2 "b" [], .text (.lead 2) "x"] := by
      cbv
    have below : Axis.descendant.nodes nestedBold (.element 1)
        = [.element 2 "b" [], .text (.lead 2) "x"] := by
      cbv
    rw [outcome_of_covers descends, Path.select_unfiltered nestedBold (by decide)]
    simp only [Item.ref?, List.filterMap_cons, List.flatMap_cons, top, below]
    exact congrArg Except.ok (by decide +kernel)
  obtain ⟨complete, composes, spreads⟩ := outcome_append reachable stays descends separated
  exact ⟨reachable, stays, descends, separated, complete, first, second,
    (composes _ _).mpr ⟨_, first, second⟩, (spreads _ _).mp second⟩

end XPath

end HtmlQuery
