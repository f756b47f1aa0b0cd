import HtmlQuery.Proofs.XPath.AttributeNames
import HtmlQuery.Proofs.XPath.Concatenation
import HtmlQuery.Selection.Query

/-! What the branches of a query result in: what is taken from the items that their paths select. Only
taking an attribute from an element can fail, if its name is refused.
-/

namespace HtmlQuery

/-- Whether a text is refused as the name of an attribute. -/
def Attribute.IsRefused (text : String) : Prop :=
  ∃ refusal, readName text.toList = .error refusal

namespace Selection

open HtmlQuery.XPath

-----------------------------------------------------------------------------------------
-- What is taken from items
-----------------------------------------------------------------------------------------

namespace Extraction

variable {document : Document} {extraction : Extraction} {refusal : Attribute.Refusal}

theorem ofItem_eq_error {item : Item}
    : extraction.ofItem document item = .error refusal
      ↔ ∃ name id,
        extraction = .attr name
        ∧ item = .node (.element id)
        ∧ Attribute.readName name.toList = .error refusal := by
  cases item with
  | text value => simp [ofItem]
  | node ref =>
      cases extraction with
      | node | text => simp [ofItem, ofNode]
      | attr name =>
          cases ref with
          | document | text => simp [ofItem, ofNode]
          | element id => simp [ofItem, ofNode, Attribute.lookup_eq_error]

/-- Taking something from items is refused just if it is an attribute of one of them that is asked for
by a name that is refused.
-/
theorem apply_eq_error {items : List Item}
    : extraction.apply document items = .error refusal
      ↔ ∃ name id,
        extraction = .attr name
        ∧ .node (.element id) ∈ items
        ∧ Attribute.readName name.toList = .error refusal := by
  constructor
  · intro fails
    cases extraction with
    | node => cases fails
    | text | attr =>
        obtain ⟨before, item, after, rfl, -, fails⟩ := mapM_eq_error.mp (map_eq_error.mp fails)
        obtain ⟨name, id, same, rfl, refused⟩ := ofItem_eq_error.mp fails
        exact ⟨name, id, same, by simp, refused⟩
  · rintro ⟨name, id, rfl, member, refused⟩
    refine map_eq_error.mpr ?_
    induction items with
    | nil => cases member
    | cons item rest ih =>
        rw [List.mapM_cons, bind_eq_error]
        cases first : (Extraction.attr name).ofItem document item with
        | error other =>
            obtain ⟨name', id', ⟨⟩, -, refused'⟩ := ofItem_eq_error.mp first
            obtain rfl := Except.error.inj (refused'.symm.trans refused)
            exact .inl rfl
        | ok value =>
            rcases List.mem_cons.mp member with rfl | member
            · cases first.symm.trans (ofItem_eq_error.mpr ⟨name, id, rfl, rfl, refused⟩)
            · exact .inr ⟨value, rfl, bind_eq_error.mpr (.inl (ih member))⟩

/-- Nothing is taken from no items. -/
theorem apply_nil (document : Document) (extraction : Extraction)
    : extraction.apply document [] = .ok [] := by
  cases extraction <;> rfl

/-- Taking texts from nodes leaves no nodes that weren't there. -/
theorem mem_of_mem_apply {items taken : List Item} (found : extraction.apply document items = .ok taken)
    {ref : NodeRef} (member : .node ref ∈ taken)
    : .node ref ∈ items := by
  cases extraction with
  | node =>
      cases found
      exact member
  | text | attr =>
      obtain ⟨values, -, rfl⟩ := ok_of_map found
      obtain ⟨value, -, ⟨⟩⟩ := List.mem_map.mp member

end Extraction

/-- A fault of taking something is the refusal of an attribute's name. -/
theorem take_eq_error {document : Document} {extraction : Extraction} {items : List Item}
    {fault : Fault}
    : take document extraction items = .error fault
      ↔ ∃ refusal,
        fault = .attributeName refusal ∧ extraction.apply document items = .error refusal := by
  rw [take]
  cases extraction.apply document items <;> simp [Except.mapError, eq_comm]

theorem take_eq_ok {document : Document} {extraction : Extraction} {items taken : List Item}
    : take document extraction items = .ok taken
      ↔ extraction.apply document items = .ok taken :=
  mapError_eq_ok

-----------------------------------------------------------------------------------------
-- Branches
-----------------------------------------------------------------------------------------

/-- What is evaluated of a branch. -/
def pathOf (branch : String) : String :=
  (Extracting.split branch).query

/-- What a branch results in, whatever is reported on the way. -/
def branchOutcome (document : Document) (contexts : List Item) (branch : String)
    : Except Failure (List Item) :=
  (evaluateBranch document contexts branch).run.value

/-- A branch results in what is taken from what its path results in. -/
theorem branchOutcome_eq (document : Document) (contexts : List Item) (branch : String)
    : branchOutcome document contexts branch
      = match outcome document (pathOf branch) contexts with
        | .ok items =>
            (take document (Extracting.split branch).extraction items).mapError .fault
        | .error failure => .error (.ofEvaluation failure) := by
  have evaluated
      : ((evaluate document (pathOf branch) contexts).adapt Failure.ofEvaluation).run.value
        = (outcome document (pathOf branch) contexts).mapError .ofEvaluation :=
    rfl
  rw [branchOutcome, evaluateBranch, value_bind]
  simp only [pathOf] at evaluated ⊢
  rw [evaluated]
  cases outcome document (Extracting.split branch).query contexts <;> rfl

/-- Branches are evaluated in turn, as long as they are answered. -/
theorem value_evaluateBranches_cons (document : Document) (contexts : List Item) (branch : String)
    (rest : List String)
    : (evaluateBranches document contexts (branch :: rest)).run.value
      = (branchOutcome document contexts branch).bind fun items =>
        (evaluateBranches document contexts rest).run.value.map fun others => items ++ others := by
  rw [evaluateBranches, value_bind, branchOutcome]
  cases (evaluateBranch document contexts branch).run.value with
  | error failure => rfl
  | ok items =>
      simp only [value_bind]
      cases (evaluateBranches document contexts rest).run.value <;> rfl

end Selection

end HtmlQuery
