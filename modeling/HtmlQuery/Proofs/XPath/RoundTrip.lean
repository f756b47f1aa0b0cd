import HtmlQuery.Proofs.XPath.LexicalRow
import HtmlQuery.Proofs.XPath.PathSpelling

/-! All steps of the language can be written, and reading what was written gives them back. -/

namespace HtmlQuery.XPath

open Token

-----------------------------------------------------------------------------------------
-- All steps of the language have a spelling
-----------------------------------------------------------------------------------------

/-- A comparison is spelled with any literal that stands for its other side. -/
theorem Predicate.exists_comparison {subject : List Token} {relation : Relation}
    {literal : Literal} {predicate : Predicate}
    (compares : Compares subject relation literal predicate)
    (literals : ∃ token, literal.Spelled token)
    : ∃ row, Predicate.Spelled .operand predicate row := by
  obtain ⟨token, spelled⟩ := literals
  exact ⟨_, .comparison compares spelled⟩

/-- Each predicate of the language can be spelled as an operand, by induction on the predicate. -/
theorem Predicate.exists_spelled {predicate : Predicate} (supported : predicate.Supported)
    : ∃ row, Predicate.Spelled .operand predicate row := by
  have texts := Literal.exists_spelled_text
  induction predicate with
  | position relation value =>
      exact exists_comparison .position (Literal.exists_spelled_number supported)
  | last => exact ⟨_, .last⟩
  | hasAttribute name => exact ⟨_, .hasAttribute supported⟩
  | hasDescendant name => exact ⟨_, .hasDescendant supported⟩
  | attributeIs name equality value =>
      exact exists_comparison (.attributeIs supported equality) (texts value)
  | attributeTest test name value =>
      obtain ⟨token, spelled⟩ := texts value
      exact ⟨_, .attributeTest test supported spelled⟩
  | textIs normalized equality value =>
      cases normalized with
      | false => exact exists_comparison (.textIs .dot equality) (texts value)
      | true => exact exists_comparison (.normalized .none equality) (texts value)
  | textTest test value =>
      obtain ⟨token, spelled⟩ := texts value
      exact ⟨_, .textTest test .dot spelled⟩
  | substring start length equality value =>
      obtain ⟨begins, ends⟩ := supported
      obtain ⟨first, begins⟩ :=
        Literal.exists_spelled_number (Literal.denotable_of_representable begins)
      cases length with
      | none => exact exists_comparison (.substring .dot begins equality) (texts value)
      | some length =>
          obtain ⟨extent, ends⟩ :=
            Literal.exists_spelled_number (Literal.denotable_of_representable (ends length rfl))
          exact exists_comparison (.substringOf .dot begins ends equality) (texts value)
  | substringAfter delimiter equality value =>
      obtain ⟨token, cut⟩ := texts delimiter
      exact exists_comparison (.substringAfter .dot cut equality) (texts value)
  | substringBefore delimiter equality value =>
      obtain ⟨token, cut⟩ := texts delimiter
      exact exists_comparison (.substringBefore .dot cut equality) (texts value)
  | translated map equality value =>
      obtain ⟨sources, targets, rfl⟩ := supported
      obtain ⟨token, first⟩ := texts sources
      obtain ⟨token', second⟩ := texts targets
      exact exists_comparison (.translated .dot first second equality) (texts value)
  | count name relation value =>
      exact exists_comparison (.count supported.1) (Literal.exists_spelled_number supported.2)
  | textLength relation value =>
      exact exists_comparison (.textLength .none) (Literal.exists_spelled_number supported)
  | not predicate ih =>
      obtain ⟨row, inner⟩ := ih supported
      exact ⟨_, .not (.conjunction (.operand inner))⟩
  | join connective left right first second =>
      obtain ⟨row, first⟩ := first supported.1
      obtain ⟨more, second⟩ := second supported.2
      cases connective with
      | and => exact ⟨_, .group (.conjunction (.conjoined (.operand first) second))⟩
      | or =>
          exact ⟨_, .group (.disjoined (.conjunction (.operand first)) (.operand second))⟩

theorem Predicates.exists_spelled {predicates : List Predicate}
    (supported : ∀ predicate ∈ predicates, predicate.Supported)
    : ∃ row, Predicates.Spelled predicates row := by
  induction predicates with
  | nil => exact ⟨_, .nil⟩
  | cons predicate predicates ih =>
      rw [List.forall_mem_cons] at supported
      obtain ⟨row, first⟩ := Predicate.exists_spelled supported.1
      obtain ⟨more, others⟩ := ih supported.2
      exact ⟨_, .cons (.conjunction (.operand first)) others⟩

theorem NodeTest.exists_spelled {test : NodeTest} (supported : test.Supported)
    : ∃ row, NodeTest.Spelled test row := by
  cases test with
  | anyName => exact ⟨_, .anyName⟩
  | name localName => exact ⟨_, .name supported.1 supported.2⟩
  | anyNode => exact ⟨_, .anyNode⟩
  | text => exact ⟨_, .text⟩

theorem Step.exists_spelled {step : Step} (supported : step.Supported)
    : ∃ row, step.Spelled row := by
  obtain ⟨row, tested⟩ := NodeTest.exists_spelled supported.test
  obtain ⟨groups, filtered⟩ := Predicates.exists_spelled supported.predicates
  exact ⟨_, .step tested filtered supported.unfiltered⟩

theorem Steps.exists_spelled {steps : List Step} (some : steps ≠ [])
    (supported : ∀ step ∈ steps, step.Supported)
    : ∃ row, Steps.Spelled steps row := by
  induction steps with
  | nil => exact (some rfl).elim
  | cons step steps ih =>
      rw [List.forall_mem_cons] at supported
      obtain ⟨row, first⟩ := Step.exists_spelled supported.1
      cases steps with
      | nil => exact ⟨row, .single first⟩
      | cons next steps =>
          obtain ⟨more, others⟩ := ih (by simp) supported.2
          exact ⟨_, .cons first others⟩

-----------------------------------------------------------------------------------------
-- Reading undoes writing
-----------------------------------------------------------------------------------------

/--
All steps of the language can be written, and from each text that spells them exactly these steps are
read: nothing of the text remains, and no predicate is skipped.
-/
theorem Path.read_written {steps : List Step} (some : steps ≠ [])
    (supported : ∀ step ∈ steps, step.Supported)
    : (∃ text, Steps.Written steps text)
      ∧ ∀ text, Steps.Written steps text → Path.read text = .ok ⟨steps, "", []⟩ := by
  constructor
  · obtain ⟨row, spelled⟩ := Steps.exists_spelled some supported
    obtain ⟨tokens, text, laid, placed⟩ := exists_laid spelled.lexical 0
    refine ⟨String.ofList (' ' :: text), tokens, ?_, ?_⟩
    · rw [String.toList_ofList]
      exact laid
    · rw [placed]
      exact spelled
  · exact fun text written => written.read

/-- A step with a disjunction within a conjunction, and a step to attributes behind it. -/
def nestedSteps : List Step :=
  [
    ⟨.child, .name "a",
      [.join .and (.join .or (.attributeIs "b" .equal "it's") (.hasDescendant "c")) (.not .last)]⟩,
    ⟨.attributes, .anyName, []⟩
  ]

/-- How these steps are written with as few parentheses and blanks as possible. -/
def nestedText : String :=
  "child::a[(@b='it\\'s'or c)and not(last())]/attribute::*"

/-- The parentheses keep `or` within `and`, and the backslash keeps the quote within the literal. -/
theorem Path.read_written_nested
    : nestedSteps ≠ []
      ∧ (∀ step ∈ nestedSteps, step.Supported)
      ∧ Steps.Written nestedSteps nestedText
      ∧ Path.read nestedText = .ok ⟨nestedSteps, "", []⟩ := by
  have some : nestedSteps ≠ [] := by simp [nestedSteps]
  have a : IsLexeme .name "a".toList := isLexeme_of_isPlainName (by decide)
  have b : IsOperandName "b" := ⟨isLexeme_of_isPlainName (by decide), by rintro ⟨⟩ <;> decide⟩
  have c : IsOperandName "c" := ⟨isLexeme_of_isPlainName (by decide), by rintro ⟨⟩ <;> decide⟩
  have lowered : "a".lowered = "a" := by decide +kernel
  have supported : ∀ step ∈ nestedSteps, step.Supported := by
    simp only [nestedSteps, List.forall_mem_cons, List.not_mem_nil, false_implies, implies_true,
      and_true]
    exact ⟨⟨⟨a, lowered⟩, by simpa [Predicate.Supported] using ⟨b, c⟩, by simp⟩,
      ⟨trivial, by simp, by simp⟩⟩
  have comparison : Predicate.Spelled .operand _
      (attributeOf "b" ++ [sign .equal, ⟨0, .string, quote '\'' "it's"⟩]) :=
    .comparison (.attributeIs b .equal) (.text (.inr rfl))
  have disjunction : Predicate.Spelled .disjunction _ _ :=
    .disjoined (.conjunction (.operand comparison)) (.operand (.hasDescendant c))
  have condition : Predicate.Spelled .disjunction _ _ :=
    .conjunction (.conjoined (.operand (.group disjunction)) (.not (.conjunction (.operand .last))))
  have child : Step.Spelled ⟨.child, .name "a", _⟩ _ :=
    .step (.name a lowered) (.cons condition .nil) (by simp)
  have attributes : Step.Spelled ⟨.attributes, .anyName, []⟩ _ := .step .anyName .nil (by simp)
  have spelled : Steps.Spelled nestedSteps _ := .cons child (.single attributes)
  have readable : ((scan nestedText).all fun token => token.kind != .error) = true := by decide +kernel
  have written : Steps.Written nestedSteps nestedText := by
    refine ⟨_, laid_of_scanFrom fun token member => ?_, ?_⟩
    · simpa using List.all_eq_true.mp readable token member
    · refine Eq.subst (motive := Steps.Spelled nestedSteps) ?_ spelled
      decide +kernel
  exact ⟨some, supported, written, (Path.read_written some supported).2 nestedText written⟩

end HtmlQuery.XPath
