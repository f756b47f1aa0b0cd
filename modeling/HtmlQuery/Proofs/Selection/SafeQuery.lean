import HtmlQuery.Proofs.Selection.Branches
import HtmlQuery.Proofs.XPath.EmptyDelimiter

/-! Queries that can be read completely. Such a query is answered unless it cuts a text at an empty
delimiter or takes an attribute from an element by a name that is refused.
-/

namespace HtmlQuery.Selection

open HtmlQuery.XPath

/-- Whether evaluating a branch cuts a text at nothing. -/
def BranchCuts (document : Document) (contexts : List Item) (branch : String) : Prop :=
  ∃ path : XPath.Path, path.Covers (pathOf branch) ∧ path.Cuts document contexts

/-- Whether an attribute is to be taken from an element that a branch leads to, but its name is refused.
-/
def BranchRefuses (document : Document) (contexts : List Item) (branch : String) : Prop :=
  ∃ (path : XPath.Path) (selected : List Item) (name : String) (id : Nat),
    path.Covers (pathOf branch)
    ∧ path.select document contexts = .ok selected
    ∧ .node (.element id) ∈ selected
    ∧ (Extracting.split branch).extraction = .attr name
    ∧ Attribute.IsRefused name

/-- Whether a branch that can be read is no use. -/
def BranchFails (document : Document) (contexts : List Item) (branch : String) : Prop :=
  BranchCuts document contexts branch ∨ BranchRefuses document contexts branch

variable (document : Document) (contexts : List Item)

/-- A branch that can be read completely is answered or is a fault. -/
theorem branchOutcome_of_covered {branch : String}
    (covered : ∃ path : XPath.Path, path.Covers (pathOf branch))
    : ¬BranchFails document contexts branch
        ∧ (∃ items, branchOutcome document contexts branch = .ok items)
      ∨ BranchFails document contexts branch
        ∧ ∃ fault, branchOutcome document contexts branch = .error (.fault fault) := by
  obtain ⟨path, covers⟩ := covered
  have answered := Path.select_eq_ok covers document contexts
  have unique {other : XPath.Path} (covers' : other.Covers (pathOf branch)) : other = path :=
    Except.ok.inj (covers'.1.symm.trans covers.1)
  rw [branchOutcome_eq, outcome_of_covers covers]
  cases result : path.select document contexts with
  | error fault =>
      refine .inr ⟨.inl ⟨path, covers, ?_⟩, _, rfl⟩
      by_contra safe
      obtain ⟨items, found⟩ := answered.mpr safe
      rw [result] at found
      cases found
  | ok selected =>
      have uncut : ¬BranchCuts document contexts branch := by
        rintro ⟨other, covers', cuts⟩
        exact answered.mp ⟨selected, result⟩ (unique covers' ▸ cuts)
      simp only [Except.mapError]
      cases taken : take document (Extracting.split branch).extraction selected with
      | error fault =>
          obtain ⟨refusal, rfl, fails⟩ := take_eq_error.mp taken
          obtain ⟨name, id, same, member, refused⟩ := Extraction.apply_eq_error.mp fails
          exact .inr ⟨.inr ⟨path, selected, name, id, covers, result, member, same, refusal, refused⟩,
            _, rfl⟩
      | ok items =>
          refine .inl ⟨?_, items, rfl⟩
          rintro (cuts | ⟨other, found, name, id, covers', selects, member, same, refusal, refused⟩)
          · exact uncut cuts
          · obtain rfl := unique covers'
            obtain rfl := Except.ok.inj (selects.symm.trans result)
            cases (take_eq_ok.mp taken).symm.trans
              (Extraction.apply_eq_error.mpr ⟨name, id, same, member, refused⟩)

theorem contexts_start : Selection.start.contexts document = [.node .document] :=
  rfl

/-- A fragment with a paragraph. -/
def withParagraph : Document :=
  .fragment [.element "p" [] [.text "a"]]

theorem descendants_withParagraph
    : Axis.descendant.nodes withParagraph .document = [.element 1 "p" [], .text (.lead 1) "a"] := by
  cbv

theorem covers_paragraphs : XPath.Path.Covers ⟨[⟨.descendant, .name "p", []⟩], "", []⟩ "//p" :=
  Path.covers_descendants "p" (Token.isLexeme_of_isPlainName (by decide)) (by decide +kernel)

theorem select_paragraphs
    : Path.select withParagraph ⟨[⟨.descendant, .name "p", []⟩], "", []⟩ [.node .document]
      = .ok [.node (.element 1)] := by
  rw [Path.select_step, Step.select_node withParagraph (by decide), descendants_withParagraph]
  decide +kernel

end HtmlQuery.Selection
