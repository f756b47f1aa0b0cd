import HtmlQuery.Proofs.Selection.SafeQuery

/-! Queries with several branches. Their results stand one behind the other, each node where it occurs
first, and a single branch that can't be read leaves nothing at all.
-/

namespace HtmlQuery

namespace XPath

/-- An expression that can't be read completely is not answered. -/
theorem outcome_of_uncovered {expression : String}
    (uncovered : ¬∃ path : Path, path.Covers expression) (document : Document) (items : List Item)
    : ∃ failure, outcome document expression items = .error failure := by
  cases found : Path.read expression with
  | error fault =>
      rw [outcome, evaluate, found]
      exact ⟨.fault fault, rfl⟩
  | ok path =>
      have unfinished : path.isComplete = false := by
        by_contra complete
        exact uncovered ⟨path, found, by simpa using complete⟩
      exact ⟨_, outcome_of_incomplete found unfinished document items⟩

end XPath

namespace Selection

open HtmlQuery.XPath

/-- Whether an item is a text. -/
def isText : Item → Bool
  | .text _ => true
  | .node _ => false

/-- Some items without the nodes that occur before among them; all texts stay. -/
def firstOccurrences (items : List Item) : List Item :=
  (items.zipIdx.filter fun (item, index) => isText item || !(items.take index).contains item).map
    Prod.fst

/-- Whether a branch can be read completely, apart from its suffix. -/
def Readable (branch : String) : Prop :=
  ∃ path : XPath.Path, path.Covers (pathOf branch)

/-- What a branch results in: what is taken from the items that its path leads to. -/
def Yields (document : Document) (contexts : List Item) (branch : String) (items : List Item)
    : Prop :=
  ∃ selected,
    outcome document (pathOf branch) contexts = .ok selected
    ∧ (Extracting.split branch).extraction.apply document selected = .ok items

/-- Whether no branch that is evaluated is a fault. Behind a branch that can't be read, none is evaluated
any more.
-/
def Undisturbed (document : Document) (contexts : List Item) : List String → Prop
  | [] => True
  | branch :: rest =>
      (∀ fault, branchOutcome document contexts branch ≠ .error (.fault fault))
      ∧ (Readable branch → Undisturbed document contexts rest)

-----------------------------------------------------------------------------------------
-- Repeated nodes
-----------------------------------------------------------------------------------------

/-- Of the items behind others, those stay that are texts or occur neither in front nor before, by
induction on the items.
-/
theorem withoutRepeatedNodes_behind {seen : List NodeRef} {before : List Item} (items : List Item)
    (known : ∀ ref, ref ∈ seen ↔ .node ref ∈ before)
    : withoutRepeatedNodes seen items
      = ((items.zipIdx before.length).filter fun (item, index) =>
          isText item || !((before ++ items).take index).contains item).map Prod.fst := by
  induction items generalizing seen before with
  | nil => rfl
  | cons item rest ih =>
      have further {later : List NodeRef} (known : ∀ ref, ref ∈ later ↔ .node ref ∈ before ++ [item])
          : withoutRepeatedNodes later rest
            = ((rest.zipIdx (before.length + 1)).filter fun (item', index) =>
                isText item' || !((before ++ item :: rest).take index).contains item').map
              Prod.fst := by
        have others := ih known
        rwa [List.length_append, List.length_singleton, List.append_assoc,
          List.singleton_append] at others
      have front : (before ++ item :: rest).take before.length = before := List.take_left
      rw [List.zipIdx_cons]
      cases item with
      | text value =>
          rw [withoutRepeatedNodes, List.filter_cons_of_pos (by simp [isText]), List.map_cons]
          congr 1
          apply further
          intro ref
          rw [known]
          simp
      | node ref =>
          rw [withoutRepeatedNodes]
          by_cases repeated : ref ∈ seen
          · have inside := (known ref).mp repeated
            rw [if_pos (by simpa using repeated),
              List.filter_cons_of_neg (by simp [isText, front, inside])]
            apply further
            intro other
            rw [known, List.mem_append, List.mem_singleton]
            constructor
            · exact .inl
            · rintro (member | same)
              · exact member
              · exact same ▸ inside
          · have outside : Item.node ref ∉ before := fun inside => repeated ((known ref).mpr inside)
            rw [if_neg (by simpa using repeated),
              List.filter_cons_of_pos (by simp [isText, front, outside]), List.map_cons]
            congr 1
            apply further
            intro other
            rw [List.mem_cons, known, List.mem_append, List.mem_singleton, Item.node.injEq]
            exact or_comm

/-- Repeated nodes are left out but where they occur first. -/
theorem withoutRepeatedNodes_eq (items : List Item)
    : withoutRepeatedNodes [] items = firstOccurrences items :=
  withoutRepeatedNodes_behind items fun _ => iff_of_false List.not_mem_nil List.not_mem_nil

-----------------------------------------------------------------------------------------
-- Branches one behind the other
-----------------------------------------------------------------------------------------

variable {document : Document} {contexts : List Item}

theorem yields_iff {branch : String} {items : List Item}
    : Yields document contexts branch items
      ↔ branchOutcome document contexts branch = .ok items := by
  rw [branchOutcome_eq, Yields]
  cases outcome document (pathOf branch) contexts with
  | ok selected => simp [mapError_eq_ok, take_eq_ok]
  | error failure => simp

/-- A branch that can't be read completely results in nothing. -/
theorem branchOutcome_of_unreadable {branch : String} (unreadable : ¬Readable branch)
    (document : Document) (contexts : List Item)
    : ∃ failure, branchOutcome document contexts branch = .error failure := by
  obtain ⟨failure, found⟩ := outcome_of_uncovered unreadable document contexts
  rw [branchOutcome_eq, found]
  exact ⟨_, rfl⟩

/-- Branches yield their results one behind the other, or one of them can't be read, by induction on
the branches.
-/
theorem yields_of_undisturbed {branches : List String}
    (undisturbed : Undisturbed document contexts branches)
    : (∀ branch ∈ branches, Readable branch)
        ∧ (∃ results,
          List.Forall₂ (Yields document contexts) branches results
          ∧ (evaluateBranches document contexts branches).run.value = .ok results.flatten)
      ∨ (∃ branch ∈ branches, ¬Readable branch)
        ∧ ∃ error,
          (evaluateBranches document contexts branches).run.value = .error (.unreadable error) := by
  induction branches with
  | nil => exact .inl ⟨by simp, [], .nil, rfl⟩
  | cons branch rest ih =>
      obtain ⟨noFault, later⟩ := undisturbed
      rw [value_evaluateBranches_cons]
      by_cases readable : Readable branch
      · rcases branchOutcome_of_covered document contexts readable
          with ⟨-, items, first⟩ | ⟨-, fault, first⟩
        · rw [first]
          rcases ih (later readable) with ⟨others, results, all, read⟩
            | ⟨⟨other, member, unreadable⟩, error, read⟩
          · left
            refine ⟨List.forall_mem_cons.mpr ⟨readable, others⟩, items :: results,
              .cons (yields_iff.mpr first) all, ?_⟩
            rw [read]
            rfl
          · right
            exact ⟨⟨other, List.mem_cons_of_mem branch member, unreadable⟩, error, by rw [read]; rfl⟩
        · exact (noFault fault first).elim
      · obtain ⟨failure, first⟩ := branchOutcome_of_unreadable readable document contexts
        cases failure with
        | fault fault => exact (noFault fault first).elim
        | unreadable error =>
            right
            exact ⟨⟨branch, List.mem_cons_self, readable⟩, error, by rw [first]; rfl⟩

-----------------------------------------------------------------------------------------
-- The whole query
-----------------------------------------------------------------------------------------

theorem value_report (items : List Item) (query : String)
    : (report items query).value = ⟨items, query⟩ := by
  rw [report]
  split <;> rfl

theorem value_unreadable (query remainder error : String)
    : (unreadable query remainder error).value = .ok ⟨[], query⟩ :=
  congrArg Except.ok (value_report [] query)

/-- What a query with branches results in, from what its branches do. -/
theorem value_xpath (document : Document) (selection : Selection) {query : String}
    (nonempty : XPath.branches query ≠ [])
    : (xpath document selection query).value
      = match (evaluateBranches document (selection.contexts document)
          (XPath.branches query)).run.value with
        | .ok items =>
            .ok ⟨if 1 < (XPath.branches query).length then withoutRepeatedNodes [] items else items,
              query⟩
        | .error (.unreadable _) => .ok ⟨[], query⟩
        | .error (.fault fault) => .error fault := by
  rw [xpath, if_neg (by simpa using nonempty)]
  simp only [bind]
  cases (evaluateBranches document (selection.contexts document) (XPath.branches query)).run.value with
  | ok items => exact congrArg Except.ok (value_report _ query)
  | error failure =>
      cases failure with
      | unreadable error => exact value_unreadable query _ _
      | fault fault => rfl

/--
A query selects nothing if it has no branches or if one of them can't be read completely. Otherwise it
selects what its branches result in for the attached nodes, one behind the other; of several
branches, only the first occurrence of each node is kept, but all texts are.
-/
theorem xpath_union (selection : Selection) {query : String}
    (undisturbed : Undisturbed document (selection.contexts document) (XPath.branches query))
    : ((XPath.branches query = [] ∨ ∃ branch ∈ XPath.branches query, ¬Readable branch) →
        (xpath document selection query).value = .ok ⟨[], query⟩)
      ∧ ((XPath.branches query ≠ [] ∧ ∀ branch ∈ XPath.branches query, Readable branch) →
        ∃ results,
          List.Forall₂ (Yields document (selection.contexts document)) (XPath.branches query) results
          ∧ (xpath document selection query).value
            = .ok ⟨if (XPath.branches query).length = 1 then results.flatten
                else firstOccurrences results.flatten, query⟩) := by
  constructor
  · intro failing
    by_cases nothing : XPath.branches query = []
    · rw [xpath, nothing]
      exact value_unreadable query query _
    · rcases yields_of_undisturbed undisturbed with ⟨readable, -⟩ | ⟨-, error, read⟩
      · obtain ⟨branch, member, unreadable⟩ := failing.resolve_left nothing
        exact (unreadable (readable branch member)).elim
      · rw [value_xpath document selection nothing, read]
  · rintro ⟨some, readable⟩
    rcases yields_of_undisturbed undisturbed with ⟨-, results, all, read⟩
      | ⟨⟨branch, member, unreadable⟩, -⟩
    · refine ⟨results, all, ?_⟩
      have count := List.length_pos_of_ne_nil some
      rw [value_xpath document selection some, read]
      by_cases single : (XPath.branches query).length = 1
      · rw [if_pos single, single]
        rfl
      · have several : 1 < (XPath.branches query).length := by omega
        simp only [if_neg single, if_pos several, withoutRepeatedNodes_eq]
    · exact (unreadable (readable branch member)).elim

-----------------------------------------------------------------------------------------
-- Two elements with equal texts
-----------------------------------------------------------------------------------------

/-- Two elements that hold the same text. -/
def twins : Document :=
  .fragment [.element "b" [] [.text "x"], .element "b" [] [.text "x"]]

/-- A branch that asks for the twins is answered. -/
theorem outcome_twins {branch : String} (path : pathOf branch = "//b")
    : Readable branch
      ∧ outcome twins (pathOf branch) [.node .document]
        = .ok [.node (.element 1), .node (.element 2)] := by
  have covers : XPath.Path.Covers ⟨[⟨.descendant, .name "b", []⟩], "", []⟩ "//b" :=
    Path.covers_descendants "b" (Token.isLexeme_of_isPlainName (by decide)) (by decide +kernel)
  have below : Axis.descendant.nodes twins .document
      = [.element 1 "b" [], .text (.lead 1) "x", .element 2 "b" [], .text (.lead 2) "x"] := by
    cbv
  have selected : Path.select twins ⟨[⟨.descendant, .name "b", []⟩], "", []⟩ [.node .document]
      = .ok [.node (.element 1), .node (.element 2)] := by
    rw [Path.select_step, Step.select_node twins (by decide), below]
    decide +kernel
  rw [Readable, path, outcome_of_covers covers, selected]
  exact ⟨⟨_, covers⟩, rfl⟩

/-- The twins are listed once and their texts twice, but nothing is listed beside a branch that can't
be read.
-/
theorem xpath_union_twins
    : Undisturbed twins [.node .document] (XPath.branches "//b|//b::text|//b|//b::text")
      ∧ Undisturbed twins [.node .document] (XPath.branches "//b|..[1]")
      ∧ (xpath twins .start "//b|//b::text|//b|//b::text").value
        = .ok ⟨[.node (.element 1), .node (.element 2), .text "x", .text "x", .text "x", .text "x"],
          "//b|//b::text|//b|//b::text"⟩
      ∧ (xpath twins .start "//b|..[1]").value = .ok ⟨[], "//b|..[1]"⟩ := by
  have several : XPath.branches "//b|//b::text|//b|//b::text"
      = ["//b", "//b::text", "//b", "//b::text"] := by
    decide +kernel
  have failing : XPath.branches "//b|..[1]" = ["//b", "..[1]"] := by decide +kernel
  have elements : Extracting.split "//b" = ⟨"//b", .node⟩ := by decide +kernel
  have texts : Extracting.split "//b::text" = ⟨"//b", .text⟩ := by decide +kernel
  have other : pathOf "..[1]" = "..[1]" := by decide +kernel
  have dots : Path.read "..[1]" = .ok ⟨[⟨.parent, .anyNode, []⟩], "[1]", []⟩ := by decide +kernel
  obtain ⟨readable, found⟩ := outcome_twins (congrArg Extracting.query elements)
  obtain ⟨readable', found'⟩ := outcome_twins (congrArg Extracting.query texts)
  have unreadable : ¬Readable "..[1]" := by
    rintro ⟨path, covers, complete⟩
    rw [other, dots] at covers
    cases covers
    cases complete
  have nodes : branchOutcome twins [.node .document] "//b"
      = .ok [.node (.element 1), .node (.element 2)] :=
    yields_iff.mp ⟨_, found, by rw [elements]; rfl⟩
  have inside : [Item.node (.element 1), .node (.element 2)].mapM (Extraction.text.ofItem twins)
      = .ok [some "x", some "x"] := by
    cbv
  have contents : branchOutcome twins [.node .document] "//b::text" = .ok [.text "x", .text "x"] :=
    yields_iff.mp ⟨_, found', by simp [texts, Extraction.apply, inside, Except.map]⟩
  have first : Undisturbed twins [.node .document]
      (XPath.branches "//b|//b::text|//b|//b::text") := by
    rw [several]
    simp [Undisturbed, nodes, contents]
  have second : Undisturbed twins [.node .document] (XPath.branches "//b|..[1]") := by
    rw [failing]
    have rejected := outcome_of_incomplete dots rfl twins [.node .document]
    refine ⟨by simp [nodes], fun _ => ⟨?_, fun readable => (unreadable readable).elim⟩⟩
    simp [branchOutcome_eq, other, rejected, Failure.ofEvaluation]
  refine ⟨first, second, ?_, ?_⟩
  · obtain ⟨results, yields, answer⟩ := (xpath_union .start first).2 (by
      rw [several]
      simp [readable, readable'])
    have contexts : start.contexts twins = [.node .document] := rfl
    rw [several] at yields answer
    simp only [List.forall₂_cons_left_iff, List.forall₂_nil_left_iff, yields_iff, contexts, nodes,
      contents, Except.ok.injEq, exists_eq_left', exists_and_left, exists_eq_left] at yields
    rw [answer, yields]
    cbv
  · refine (xpath_union .start second).1 (.inr ⟨"..[1]", ?_, unreadable⟩)
    rw [failing]
    simp

end Selection

end HtmlQuery
