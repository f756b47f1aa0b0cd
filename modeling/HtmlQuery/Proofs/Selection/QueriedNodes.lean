import HtmlQuery.Proofs.Document.InTree
import HtmlQuery.Proofs.Selection.SuffixSplitting
import HtmlQuery.Proofs.Selection.UnionQuery
import HtmlQuery.Proofs.XPath.FilteredSelection
import HtmlQuery.Proofs.XPath.UnionBranches

/-! Where queries lead to. A selection may outlive its nodes, but queries only start from those that
are still in the tree, and from there only lead to nodes in the tree.
-/

namespace HtmlQuery

/-- Whether all nodes among some items are in the tree. -/
def AllInTree (document : Document) (items : List Item) : Prop :=
  ∀ ref, .node ref ∈ items → document.InTree ref

-----------------------------------------------------------------------------------------
-- Steps and paths
-----------------------------------------------------------------------------------------

namespace XPath

variable {document : Document}

/-- A step from a node in the tree leads to nodes in the tree. -/
theorem Step.allInTree_of_selectFrom (sound : document.Sound) {step : Step} {ref : NodeRef}
    (inside : document.InTree ref) {selected : List Item}
    (found : step.selectFrom document ref = .ok selected)
    : AllInTree document selected := by
  intro other member
  rw [selectFrom] at found
  split at found
  · cases found
    obtain ⟨entry, -, ⟨⟩⟩ := List.mem_map.mp member
  · obtain ⟨kept, filtered, found⟩ := bind_eq_ok.mp found
    cases found
    obtain ⟨node, among, ⟨⟩⟩ := List.mem_map.mp member
    have candidate := (sublist_of_keepAll filtered).subset among
    exact inside.of_axis sound step.axis (List.mem_filter.mp candidate).1

/-- A step from items whose nodes are in the tree leads to such items, by induction on the items. -/
theorem Step.allInTree_of_select (sound : document.Sound) {step : Step} {items selected : List Item}
    (inside : AllInTree document items) (found : step.select document items = .ok selected)
    : AllInTree document selected := by
  induction items generalizing selected with
  | nil =>
      cases found
      exact inside
  | cons item rest ih =>
      have others : AllInTree document rest := fun ref member =>
        inside ref (List.mem_cons_of_mem item member)
      cases item with
      | text value => exact ih others found
      | node ref =>
          rw [select] at found
          obtain ⟨front, first, found⟩ := bind_eq_ok.mp found
          obtain ⟨back, later, found⟩ := bind_eq_ok.mp found
          cases found
          intro other member
          rcases List.mem_append.mp member with member | member
          · exact allInTree_of_selectFrom sound (inside ref List.mem_cons_self) first other member
          · exact ih others later other member

/-- Steps one after the other stay in the tree, by induction on the steps. -/
theorem Path.allInTree_of_selectSteps (sound : document.Sound) {steps : List Step}
    {items selected : List Item} (inside : AllInTree document items)
    (found : selectSteps document steps items = .ok selected)
    : AllInTree document selected := by
  induction steps generalizing items with
  | nil =>
      cases found
      exact inside
  | cons step others ih =>
      rw [selectSteps] at found
      obtain ⟨next, first, later⟩ := bind_eq_ok.mp found
      exact ih (Step.allInTree_of_select sound inside first) later

/-- What an expression results in is in the tree if that holds for what it starts from. -/
theorem allInTree_of_outcome (sound : document.Sound) {expression : String}
    {items selected : List Item} (inside : AllInTree document items)
    (found : outcome document expression items = .ok selected)
    : AllInTree document selected := by
  by_cases covered : ∃ path : Path, path.Covers expression
  · obtain ⟨path, covers⟩ := covered
    rw [outcome_of_covers covers] at found
    cases result : path.select document items with
    | error fault => simp [result, Except.mapError] at found
    | ok final =>
        simp only [result, Except.mapError, Except.ok.injEq] at found
        exact found ▸ Path.allInTree_of_selectSteps sound inside result
  · obtain ⟨failure, fails⟩ := outcome_of_uncovered covered document items
    rw [fails] at found
    cases found

end XPath

-----------------------------------------------------------------------------------------
-- Queries
-----------------------------------------------------------------------------------------

/-- The elements that a selector matches below a node in the tree are in the tree. -/
theorem Css.Group.inTree_of_mem_below {document : Document} (sound : document.Sound) {group : Group}
    {start ref : NodeRef} (inside : document.InTree start)
    (member : ref ∈ group.below document start)
    : document.InTree ref := by
  obtain ⟨node, among, rfl⟩ := List.mem_map.mp member
  have element := (List.mem_filter.mp among).1
  exact inside.of_axis sound .descendant (List.mem_filter.mp element).1

/-- What a selector matches is in the tree if that holds for what the query starts from. -/
theorem Css.inTree_of_select {document : Document} (sound : document.Sound) {selector : String}
    {items : List Item} (inside : AllInTree document items) {refs : List NodeRef}
    (found : select document selector items = .ok refs) {ref : NodeRef} (member : ref ∈ refs)
    : document.InTree ref := by
  rw [select] at found
  split at found
  · cases found
    cases member
  · split at found
    · cases found
    · split at found
      · cases found
      · cases found
        obtain ⟨item, among, matched⟩ := List.mem_flatMap.mp (List.mem_eraseDups.mp member)
        cases item with
        | text value => cases matched
        | node start => exact Group.inTree_of_mem_below sound (inside start among) matched

namespace Selection

open HtmlQuery.XPath

/-- The selections that queries and positions lead to from the start, together with the document in
its state at the time. Whatever else was selected may be removed in between, which leaves the
selection itself as it is.
-/
inductive Obtained : Document → Selection → Prop
  | start {document : Document} (reachable : document.Reachable) : Obtained document .start
  | css {document selection found} (obtained : Obtained document selection) (query : String)
    (answered : (css document selection query).value = .ok found)
    : Obtained document found
  | xpath {document selection found} (obtained : Obtained document selection) (query : String)
    (answered : (xpath document selection query).value = .ok found)
    : Obtained document found
  | pick {document selection} (obtained : Obtained document selection) (index : Int)
    : Obtained document (selection.pick index).value
  | single {document selection one} (obtained : Obtained document selection)
    (among : one ∈ selection.singles.value)
    : Obtained document one
  | remove {document selection} (obtained : Obtained document selection) (other : Selection)
    : Obtained (other.remove document) selection

variable {document : Document} {selection : Selection} {query : String}

/-- A query with a single branch selects what that results in. -/
theorem value_xpath_single {branch : String} (alone : XPath.branches query = [branch])
    : (xpath document selection query).value
      = match branchOutcome document (selection.contexts document) branch with
        | .ok items => .ok ⟨items, query⟩
        | .error (.unreadable _) => .ok ⟨[], query⟩
        | .error (.fault fault) => .error fault := by
  have nothing : (evaluateBranches document (selection.contexts document) []).run.value = .ok [] :=
    rfl
  rw [value_xpath document selection (by simp [alone]), alone, value_evaluateBranches_cons, nothing]
  cases branchOutcome document (selection.contexts document) branch with
  | ok items => simp [Except.bind, Except.map]
  | error failure => cases failure <;> rfl

/-- An expression that is read to its end leads to what is taken from the items that the part of it in
front of its suffix selects, if that is read to its end as well.
-/
theorem value_xpath_taken {inner : String} {whole path : XPath.Path} {extraction : Extraction}
    (complete : whole.Covers query)
    (taken : Extracting.split query = ⟨inner, extraction⟩) (covers : path.Covers inner)
    : (xpath document selection query).value
      = match path.select document (selection.contexts document) with
        | .ok items => (take document extraction items).map fun items => ⟨items, query⟩
        | .error fault => .error (.path fault) := by
  rw [value_xpath_single complete.branches_eq, branchOutcome_eq, pathOf, Extracting.split_trimmed,
    taken, outcome_of_covers covers]
  cases path.select document (selection.contexts document) with
  | error fault => rfl
  | ok items =>
      simp only [Except.mapError]
      cases take document extraction items <;> rfl

/-- What branches result in is in the tree if that holds for what they start from, by induction on
the branches.
-/
theorem allInTree_of_evaluateBranches (sound : document.Sound) {contexts : List Item}
    (inside : AllInTree document contexts) {branches : List String} {items : List Item}
    (found : (evaluateBranches document contexts branches).run.value = .ok items)
    : AllInTree document items := by
  induction branches generalizing items with
  | nil =>
      cases found
      rintro ref ⟨⟩
  | cons branch rest ih =>
      rw [value_evaluateBranches_cons] at found
      obtain ⟨taken, first, found⟩ := bind_eq_ok.mp found
      obtain ⟨others, later, rfl⟩ := ok_of_map found
      obtain ⟨selected, evaluated, taken⟩ := yields_iff.mpr first
      intro ref member
      rcases List.mem_append.mp member with member | member
      · exact allInTree_of_outcome sound inside evaluated ref
          (Extraction.mem_of_mem_apply taken member)
      · exact ih later ref member

theorem mem_of_mem_withoutRepeatedNodes {seen : List NodeRef} {items : List Item} {item : Item}
    (member : item ∈ withoutRepeatedNodes seen items)
    : item ∈ items := by
  induction items generalizing seen with
  | nil => exact member
  | cons first rest ih =>
      cases first with
      | text value =>
          rw [withoutRepeatedNodes] at member
          rcases List.mem_cons.mp member with rfl | member
          · exact List.mem_cons_self
          · exact List.mem_cons_of_mem _ (ih member)
      | node ref =>
          rw [withoutRepeatedNodes] at member
          split at member
          · exact List.mem_cons_of_mem _ (ih member)
          · rcases List.mem_cons.mp member with rfl | member
            · exact List.mem_cons_self
            · exact List.mem_cons_of_mem _ (ih member)

/-- What a query with a selector results in, from what the selector matches. -/
theorem value_css (document : Document) (selection : Selection) (query : String)
    : (css document selection query).value
      = match Css.select document (Extracting.split query).query (selection.contexts document) with
        | .ok refs =>
            (take document (Extracting.split query).extraction (refs.map Item.node)).map fun items =>
              ⟨items, query⟩
        | .error .forbiddenCharacter => .error .forbiddenCharacter
        | .error .invalid => .ok ⟨[], query⟩ := by
  rw [css]
  cases Css.select document (Extracting.split query).query (selection.contexts document) with
  | ok refs =>
      simp only
      cases take document (Extracting.split query).extraction (refs.map Item.node) with
      | ok items => exact congrArg Except.ok (value_report items query)
      | error fault => rfl
  | error failure =>
      cases failure with
      | forbiddenCharacter => rfl
      | invalid => exact congrArg Except.ok (value_report [] query)

/-- From nodes in the tree, a selector leads to nodes in the tree. -/
theorem allInTree_of_css (sound : document.Sound)
    (inside : AllInTree document (selection.contexts document)) {found : Selection}
    (answered : (css document selection query).value = .ok found)
    : AllInTree document found.items := by
  rw [value_css] at answered
  split at answered
  · rename_i refs selected
    obtain ⟨items, taken, rfl⟩ := ok_of_map answered
    intro ref member
    obtain ⟨other, among, ⟨⟩⟩ :=
      List.mem_map.mp (Extraction.mem_of_mem_apply (take_eq_ok.mp taken) member)
    exact Css.inTree_of_select sound inside selected among
  · cases answered
  · cases answered
    rintro ref ⟨⟩

/-- From nodes in the tree, an expression leads to nodes in the tree. -/
theorem allInTree_of_xpath (sound : document.Sound)
    (inside : AllInTree document (selection.contexts document)) {found : Selection}
    (answered : (xpath document selection query).value = .ok found)
    : AllInTree document found.items := by
  by_cases none : XPath.branches query = []
  · rw [xpath, none] at answered
    have empty := (value_unreadable query query "Empty expression.").symm.trans answered
    cases empty
    rintro ref ⟨⟩
  · rw [value_xpath document selection none] at answered
    split at answered
    · rename_i items evaluated
      have all := allInTree_of_evaluateBranches sound inside evaluated
      cases answered
      intro ref member
      split at member
      · exact all ref (mem_of_mem_withoutRepeatedNodes member)
      · exact all ref member
    · cases answered
      rintro ref ⟨⟩
    · cases answered

-----------------------------------------------------------------------------------------
-- Queries that are taken as they are
-----------------------------------------------------------------------------------------

theorem toList_fromPlace (digits : List Char)
    : (fromPlace digits).toList
      = "//p[substring(., ".toList ++ (digits ++ ")='x']".toList) :=
  toList_enclosed "//p[substring(., " ")='x']" digits

/-- The query begins and ends with visible characters. -/
theorem unpadded_fromPlace (digits : List Char) : Text.Unpadded (fromPlace digits).toList := by
  rw [toList_fromPlace]
  refine ⟨?_, ?_⟩
  · simp
    decide
  · rw [← List.append_assoc, List.getLast?_append_of_ne_nil _ (by simp)]
    simp
    decide

/-- The query is a single branch. -/
theorem branches_fromPlace {digits : List Char} (number : Token.IsLexeme .number digits)
    : branches (fromPlace digits) = [fromPlace digits] := by
  have bars : barPositions 0 (Token.scan (fromPlace digits)) = [] := by
    rw [scan_fromPlace number]
    rfl
  have some : (fromPlace digits).toList ≠ [] := by simp [toList_fromPlace]
  have nothing : ∀ c ∈ ([] : List Char), Text.isBlank c = true := by simp
  have shape : (fromPlace digits).toList = [] ++ ((fromPlace digits).toList ++ []) := by simp
  rw [branches_of_no_bars shape nothing nothing (unpadded_fromPlace digits) some bars,
    String.ofList_toList]

/-- The query has no suffix. -/
theorem split_fromPlace {digits : List Char} (absent : ':' ∉ digits)
    : Extracting.split (fromPlace digits) = ⟨fromPlace digits, .node⟩ := by
  refine Extracting.split_of_absent (unpadded_fromPlace digits) ?_
  rw [toList_fromPlace]
  simp [absent]

-----------------------------------------------------------------------------------------
-- Selections that were obtained before
-----------------------------------------------------------------------------------------

/-- What holds for obtained selections: what is attached of them are nodes. -/
structure Known (document : Document) (selection : Selection) : Prop where
  reachable : document.Reachable
  nodes
    : ∀ ref, .node ref ∈ selection.items →
        document.isAttached ref = true → document.IsNode ref

/-- Queries only start from nodes in the tree. -/
theorem Known.contexts (known : Known document selection)
    : AllInTree document (selection.contexts document) := by
  intro ref member
  obtain ⟨among, attached⟩ := List.mem_filter.mp member
  exact (Document.inTree_iff known.reachable.sound).mpr ⟨attached, known.nodes ref among attached⟩

theorem Known.of_allInTree (reachable : document.Reachable)
    (inside : AllInTree document selection.items)
    : Known document selection :=
  ⟨reachable, fun ref member _ => ((Document.inTree_iff reachable.sound).mp (inside ref member)).2⟩

/-- Fewer items are still known. -/
theorem Known.of_subset (known : Known document selection) {fewer : Selection}
    (subset : fewer.items ⊆ selection.items)
    : Known document fewer :=
  ⟨known.reachable, fun ref member => known.nodes ref (subset member)⟩

theorem Known.remove (known : Known document selection) (other : Selection)
    : Known (other.remove document) selection := by
  refine ⟨known.reachable.removeAll other.nodes, fun ref member => ?_⟩
  exact Document.isNode_of_isAttached_removeAll known.reachable (known.nodes ref member)

theorem items_pick_subset (selection : Selection) (index : Int)
    : (selection.pick index).value.items ⊆ selection.items := by
  intro item member
  rw [pick, value_report, Option.mem_toList] at member
  unfold itemAt? at member
  extract_lets place at member
  split at member
  · cases member
  · exact List.mem_of_getElem? member

/-- There is one selection for each item, by induction on the items. -/
theorem value_singles (selection : Selection)
    : selection.singles.value = selection.items.map fun item => ⟨[item], selection.query⟩ := by
  have general (items : List Item) (known : List Selection)
      : (List.mapM.loop (fun item => report [item] selection.query) items known).value
        = known.reverse ++ items.map fun item => ⟨[item], selection.query⟩ := by
    induction items generalizing known with
    | nil => simp [List.mapM.loop, pure]
    | cons item rest ih =>
        simp only [List.mapM.loop, bind]
        rw [ih, value_report]
        simp
  exact general selection.items []

theorem items_single_subset {one : Selection} (among : one ∈ selection.singles.value)
    : one.items ⊆ selection.items := by
  rw [value_singles] at among
  obtain ⟨item, member, rfl⟩ := List.mem_map.mp among
  exact List.cons_subset.mpr ⟨member, List.nil_subset _⟩

/-- All obtained selections are known, by induction on how they were obtained. -/
theorem Obtained.known (obtained : Obtained document selection) : Known document selection := by
  induction obtained with
  | start reachable =>
      refine ⟨reachable, fun ref member _ => ?_⟩
      obtain ⟨⟩ := List.mem_singleton.mp member
      exact ⟨rfl, by simp⟩
  | css _ query answered ih =>
      exact .of_allInTree ih.reachable (allInTree_of_css ih.reachable.sound ih.contexts answered)
  | xpath _ query answered ih =>
      exact .of_allInTree ih.reachable (allInTree_of_xpath ih.reachable.sound ih.contexts answered)
  | pick _ index ih => exact ih.of_subset (items_pick_subset _ index)
  | single _ among ih => exact ih.of_subset (items_single_subset among)
  | remove _ other ih => exact ih.remove other

-----------------------------------------------------------------------------------------
-- Queries that start from nothing
-----------------------------------------------------------------------------------------

/-- Whether reading some branches reaches an integer that is too large: one of them does, and those
in front of it can be read completely.
-/
def Overflows : List String → Prop
  | [] => False
  | branch :: rest =>
      XPath.Path.Overflows (Token.scan (pathOf branch)) ∨ (Readable branch ∧ Overflows rest)

/-- Starting from nothing, a branch results in nothing, is unreadable or overflows. -/
theorem branchOutcome_nil (document : Document) (branch : String)
    : XPath.Path.Overflows (Token.scan (pathOf branch))
        ∧ branchOutcome document [] branch = .error (.fault (.path .infiniteInteger))
      ∨ ¬XPath.Path.Overflows (Token.scan (pathOf branch))
        ∧ (Readable branch ∧ branchOutcome document [] branch = .ok []
          ∨ ¬Readable branch
            ∧ ∃ error, branchOutcome document [] branch = .error (.unreadable error)) := by
  cases found : XPath.Path.read (pathOf branch) with
  | error fault =>
      obtain ⟨rfl, overflows⟩ := XPath.Path.overflows_of_read found
      refine .inl ⟨overflows, ?_⟩
      rw [branchOutcome_eq, outcome, evaluate, found]
      rfl
  | ok path =>
      have finite : ¬XPath.Path.Overflows (Token.scan (pathOf branch)) := by
        intro overflows
        rw [XPath.Path.read_of_overflows overflows] at found
        cases found
      refine .inr ⟨finite, ?_⟩
      cases complete : path.isComplete with
      | true =>
          refine .inl ⟨⟨path, found, complete⟩, yields_iff.mp ⟨[], ?_, Extraction.apply_nil _ _⟩⟩
          rw [outcome_of_covers ⟨found, complete⟩, XPath.Path.select, XPath.Path.selectSteps_nil]
          rfl
      | false =>
          refine .inr ⟨?_, incomplete (pathOf branch) path, ?_⟩
          · rintro ⟨other, covers⟩
            obtain rfl : other = path := Except.ok.inj (covers.1.symm.trans found)
            exact absurd (complete.symm.trans covers.2) (by decide)
          · rw [branchOutcome_eq, outcome_of_incomplete found complete]
            rfl

/-- Starting from nothing, branches result in nothing, one of them is unreadable or they overflow,
by induction on them.
-/
theorem evaluateBranches_nil (document : Document) (branches : List String)
    : Overflows branches
        ∧ (evaluateBranches document [] branches).run.value
          = .error (.fault (.path .infiniteInteger))
      ∨ ¬Overflows branches
        ∧ ((evaluateBranches document [] branches).run.value = .ok []
          ∨ ∃ error,
            (evaluateBranches document [] branches).run.value = .error (.unreadable error)) := by
  induction branches with
  | nil => exact .inr ⟨id, .inl rfl⟩
  | cons branch rest ih =>
      have first := branchOutcome_nil document branch
      rw [value_evaluateBranches_cons]
      rcases first
        with ⟨overflows, found⟩ | ⟨finite, ⟨readable, found⟩ | ⟨unreadable, error, found⟩⟩
      · exact .inl ⟨.inl overflows, by rw [found]; rfl⟩
      · rw [found, Except.bind]
        simp only [List.nil_append]
        rcases ih with ⟨overflows, later⟩ | ⟨finite', later⟩
        · exact .inl ⟨.inr ⟨readable, overflows⟩, by rw [later]; rfl⟩
        · refine .inr ⟨by simp [Overflows, finite, finite'], ?_⟩
          rcases later with later | ⟨error, later⟩
          · exact .inl (by rw [later]; rfl)
          · exact .inr ⟨error, by rw [later]; rfl⟩
      · rw [found]
        exact .inr ⟨by simp [Overflows, finite, unreadable], .inr ⟨error, rfl⟩⟩

/-- If no node is attached any more, queries start from nothing. -/
theorem contexts_of_detached
    (detached : ∀ ref, .node ref ∈ selection.items → document.isAttached ref = false)
    : selection.contexts document = [] := by
  refine List.filter_eq_nil_iff.mpr fun item member => ?_
  cases item with
  | text value => simp [isAttached]
  | node ref => simp [isAttached, detached ref member]

/-- Starting from nothing, a selector isn't even read. -/
theorem value_css_of_no_context (empty : selection.contexts document = []) (query : String)
    : (css document selection query).value = .ok ⟨[], query⟩ := by
  have nothing : Css.select document (Extracting.split query).query [] = .ok [] := rfl
  rw [value_css, empty, nothing]
  cases (Extracting.split query).extraction <;> rfl

/-- Starting from nothing, an expression results in nothing unless reading it overflows. -/
theorem value_xpath_of_no_context (empty : selection.contexts document = []) (query : String)
    : (¬Overflows (XPath.branches query) ∧ (xpath document selection query).value = .ok ⟨[], query⟩)
      ∨ Overflows (XPath.branches query)
        ∧ (xpath document selection query).value = .error (.path .infiniteInteger) := by
  by_cases none : XPath.branches query = []
  · refine .inl ⟨by simp [none, Overflows], ?_⟩
    rw [xpath, none]
    exact value_unreadable query query _
  · rw [value_xpath document selection none, empty]
    rcases evaluateBranches_nil document (XPath.branches query)
      with ⟨overflows, found⟩ | ⟨finite, found | ⟨error, found⟩⟩
    · exact .inr ⟨overflows, by rw [found]⟩
    · refine .inl ⟨finite, ?_⟩
      simp [found, withoutRepeatedNodes]
    · exact .inl ⟨finite, by rw [found]⟩

/--
From an obtained selection, queries only lead to nodes that are attached and are no holder of a
fragment. If none of its nodes is attached any more, they lead to nothing; only an expression that
overflows while it is read is a fault all the same.
-/
theorem queries_stay_in_tree (obtained : Obtained document selection) (query : String)
    : (∀ found,
        (css document selection query).value = .ok found
          ∨ (xpath document selection query).value = .ok found →
        ∀ ref, .node ref ∈ found.items → document.isAttached ref = true ∧ document.IsNode ref)
      ∧ ((∀ ref, .node ref ∈ selection.items → document.isAttached ref = false) →
        (css document selection query).value = .ok ⟨[], query⟩
        ∧ (¬Overflows (XPath.branches query) →
          (xpath document selection query).value = .ok ⟨[], query⟩)
        ∧ (Overflows (XPath.branches query) →
          (xpath document selection query).value = .error (.path .infiniteInteger))) := by
  have known := obtained.known
  have sound := known.reachable.sound
  constructor
  · intro found answered ref member
    refine (Document.inTree_iff sound).mp ?_
    rcases answered with answered | answered
    · exact allInTree_of_css sound known.contexts answered ref member
    · exact allInTree_of_xpath sound known.contexts answered ref member
  · intro detached
    have empty := contexts_of_detached detached
    refine ⟨value_css_of_no_context empty query, ?_⟩
    rcases value_xpath_of_no_context empty query with ⟨finite, answer⟩ | ⟨overflows, answer⟩
    · exact ⟨fun _ => answer, fun overflows => (finite overflows).elim⟩
    · exact ⟨fun finite => (finite overflows).elim, fun _ => answer⟩

-----------------------------------------------------------------------------------------
-- A paragraph that was taken out
-----------------------------------------------------------------------------------------

/-- The paragraph, as a query selects it. -/
def paragraph : Selection where
  items := [.node (.element 1)]
  query := "//p"

theorem obtained_paragraph : Obtained withParagraph paragraph := by
  have plain : Extracting.split "//p" = ⟨"//p", .node⟩ := by decide +kernel
  refine .xpath (.start (.fragment _)) "//p" ?_
  rw [value_xpath_taken covers_paragraphs plain covers_paragraphs, contexts_start,
    select_paragraphs]
  rfl

/-- From the paragraph, a query leads to its text as long as it's there, and to nothing once it was
taken out.
-/
theorem queries_stay_in_tree_paragraph
    : Obtained withParagraph paragraph
      ∧ (xpath withParagraph paragraph "text()").value
        = .ok ⟨[.node (.text (.lead 1))], "text()"⟩
      ∧ withParagraph.isAttached (.text (.lead 1)) = true
      ∧ Obtained (paragraph.remove withParagraph) paragraph
      ∧ (∀ ref, .node ref ∈ paragraph.items →
        (paragraph.remove withParagraph).isAttached ref = false)
      ∧ ¬Overflows (XPath.branches "text()")
      ∧ (css (paragraph.remove withParagraph) paragraph "p[").value = .ok ⟨[], "p["⟩
      ∧ (xpath (paragraph.remove withParagraph) paragraph "text()").value
        = .ok ⟨[], "text()"⟩ := by
  have obtained := obtained_paragraph
  have covers : XPath.Path.Covers ⟨[⟨.child, .text, []⟩], "", []⟩ "text()" := by
    have scanned : Token.scan "text()"
        = [⟨0, .name, "text"⟩, ⟨4, .openParen, "("⟩, ⟨5, .closeParen, ")"⟩] := by
      decide +kernel
    refine Path.covers_iff.mpr ⟨by simp, [], ?_, rfl⟩
    rw [scanned, Steps.read_cons, Step.read_eq]
    decide +kernel
  have plain : Extracting.split "text()" = ⟨"text()", .node⟩ := by decide +kernel
  have text : (xpath withParagraph paragraph "text()").value
      = .ok ⟨[.node (.text (.lead 1))], "text()"⟩ :=
    (value_xpath_taken covers plain covers).trans (by cbv)
  have detached : ∀ ref, .node ref ∈ paragraph.items →
      (paragraph.remove withParagraph).isAttached ref = false := by
    rintro ref member
    cases List.mem_singleton.mp member
    cbv
  have finite : ¬Overflows (XPath.branches "text()") := by
    have alone : XPath.branches "text()" = ["text()"] := by decide +kernel
    rw [alone]
    rintro (overflows | ⟨-, ⟨⟩⟩)
    rw [pathOf, plain] at overflows
    have fails := XPath.Path.read_of_overflows overflows
    rw [covers.1] at fails
    cases fails
  obtain ⟨selector, answered, -⟩ :=
    (queries_stay_in_tree (obtained.remove paragraph) "p[").2 detached
  obtain ⟨-, expression, -⟩ :=
    (queries_stay_in_tree (obtained.remove paragraph) "text()").2 detached
  obtain ⟨attached, -⟩ :=
    (queries_stay_in_tree obtained "text()").1 _ (.inr text) _ List.mem_cons_self
  exact ⟨obtained, text, attached, obtained.remove paragraph, detached, finite, selector,
    expression finite⟩

/-- A query for the part of the text from a place of 309 digits on is a fault, even though the only
paragraph that it is put to was taken out.
-/
theorem fault_from_removed_paragraph
    : Obtained (paragraph.remove withParagraph) paragraph
      ∧ (∀ ref, .node ref ∈ paragraph.items →
        (paragraph.remove withParagraph).isAttached ref = false)
      ∧ (xpath (paragraph.remove withParagraph) paragraph
          (fromPlace (List.replicate 309 '9'))).value
        = .error (.path .infiniteInteger) := by
  have detached : ∀ ref, .node ref ∈ paragraph.items →
      (paragraph.remove withParagraph).isAttached ref = false := by
    rintro ref member
    cases List.mem_singleton.mp member
    cbv
  have branches := branches_fromPlace (isLexeme_nines 308)
  have absent : ':' ∉ List.replicate 309 '9' := fun member =>
    absurd (List.eq_of_mem_replicate member) (by decide)
  have taken := split_fromPlace absent
  have fails := Path.read_fromPlace (isLexeme_nines 308) isTooLarge_nines
  have overflows : Overflows (XPath.branches (fromPlace (List.replicate 309 '9'))) := by
    rw [branches]
    refine .inl ?_
    rw [pathOf, taken]
    exact (Path.overflows_of_read fails).2
  refine ⟨obtained_paragraph.remove paragraph, detached, ?_⟩
  rcases value_xpath_of_no_context (contexts_of_detached detached)
      (fromPlace (List.replicate 309 '9')) with ⟨finite, -⟩ | ⟨-, answer⟩
  · exact (finite overflows).elim
  · exact answer

end Selection

end HtmlQuery
