import Mathlib.Algebra.Order.Field.Rat
import Mathlib.Algebra.Order.Monoid.WithTop
import Mathlib.Tactic.Positivity
import HtmlQuery.Proofs.XPath.Decisions

/-! Comparisons with the literal on the left. They are read as the comparison with the literal on the
right whose relation is swapped, and they say of numbers what is written.
-/

namespace HtmlQuery.XPath

open Token

-----------------------------------------------------------------------------------------
-- Relations between numbers
-----------------------------------------------------------------------------------------

namespace Number

/-- The value of a number, which is greater than all others if the number is infinite. -/
def value : Number → WithTop ℚ
  | .finite numerator halvings => ((numerator / 2 ^ halvings : ℚ) : WithTop ℚ)
  | .infinite => ⊤

/-- Numbers are compared with natural numbers by their values. -/
theorem compareNat_iff (n : Nat) (number : Number)
    : (number.compareNat n = .lt ↔ ((n : ℚ) : WithTop ℚ) < number.value)
      ∧ (number.compareNat n = .eq ↔ ((n : ℚ) : WithTop ℚ) = number.value)
      ∧ (number.compareNat n = .gt ↔ number.value < ((n : ℚ) : WithTop ℚ)) := by
  cases number with
  | infinite => simp [Decimal.Magnitude.compareNat, value]
  | finite numerator halvings =>
      have positive : (0 : ℚ) < 2 ^ halvings := by positivity
      have power : Decimal.twoToThe halvings = 2 ^ halvings := rfl
      simp only [Decimal.Magnitude.compareNat, value, WithTop.coe_lt_coe, WithTop.coe_inj,
        Nat.compare_eq_lt, Nat.compare_eq_eq, Nat.compare_eq_gt, lt_div_iff₀ positive,
        div_lt_iff₀ positive, eq_div_iff positive.ne', power]
      norm_cast

end Number

namespace Relation

/-- Whether a relation holds between two values. -/
def Between (left : WithTop ℚ) (relation : Relation) (right : WithTop ℚ) : Prop :=
  match relation with
  | less => left < right
  | lessOrEqual => left ≤ right
  | greater => right < left
  | greaterOrEqual => right ≤ left
  | equal => left = right
  | unequal => left ≠ right

/-- A relation holds between two values just if the swapped one holds when they change places. -/
theorem between_swapped {left right : WithTop ℚ} (relation : Relation)
    : relation.swapped.Between left right ↔ relation.Between right left := by
  cases relation with
  | equal => exact eq_comm
  | unequal => exact ne_comm
  | _ => rfl

/-- Relations are decided by the values of numbers. -/
theorem holds_iff (relation : Relation) (n : Nat) (number : Number)
    : relation.holds n number = true ↔ relation.Between ((n : ℚ) : WithTop ℚ) number.value := by
  obtain ⟨less, same, greater⟩ := number.compareNat_iff n
  cases relation with
  | less => simpa [holds, admits, Between] using less
  | lessOrEqual => simpa [holds, admits, Between] using not_congr greater
  | greater => simpa [holds, admits, Between] using greater
  | greaterOrEqual => simpa [holds, admits, Between] using not_congr less
  | equal => simpa [holds, admits, Between] using same
  | unequal => simpa [holds, admits, Between] using not_congr same

end Relation

-----------------------------------------------------------------------------------------
-- Sides of comparisons
-----------------------------------------------------------------------------------------

namespace Predicate

/-- A comparison is read alike from both sides, with the relation swapped. -/
theorem read_swapped {subject : List Token} {literal : Token} (nested : Nested endsSide subject)
    (other : Literal.ofTokens? subject = none)
    (known : literal.kind = .string ∨ literal.kind = .number) (relation : Relation)
    (position position' : Nat)
    : read (literal :: ⟨position, .relation, relation.text⟩ :: subject)
      = read (subject ++ [⟨position', .relation, relation.swapped.text⟩, literal]) := by
  obtain ⟨value, found⟩ := ofTokens?_literal known
  by_cases empty : subject = []
  · have alone := nested_literal known
    have left : read ([literal] ++ ⟨position, .relation, relation.text⟩ :: [])
        = .error .unsupported := by
      rw [read_cut alone .nil rfl]
      simp [readComparison]
    have right : read ([] ++ ⟨position', .relation, relation.swapped.text⟩ :: [literal])
        = .error .unsupported := by
      rw [read_cut .nil alone rfl]
      simp [readComparison]
    rw [empty]
    exact left.trans right.symm
  · rw [read_literal_left nested empty other found, read_literal_right nested empty found]

end Predicate

-----------------------------------------------------------------------------------------
-- Rows that stand for numbers
-----------------------------------------------------------------------------------------

/-- The rows that stand for a number at a candidate, with that number. Elements below a text are not
counted.
-/
inductive Measures (document : Document) (candidate : Candidate) : List Token → Nat → Prop
  | position : Measures document candidate (call "position" []) candidate.position
  | count {name : String} (inner : ∀ slot content, candidate.node ≠ .text slot content)
    : Measures document candidate (call "count" [[word name]])
      (countBelow document candidate.node name)
  | textLength {arguments : List (List Token)} (own : OwnArguments arguments)
    : Measures document candidate (call "string-length" arguments)
      (trimmedText document candidate.node).length

variable {document : Document} {candidate : Candidate} {subject : List Token} {number : Nat}

/-- A call that is compared with a number in front of it has the value of that comparison. -/
theorem decides_number_call {function : String} {arguments : List (List Token)} {text : String}
    {relation : Relation} {predicate : Predicate} {value : Bool}
    (plain : divides (word function) = false) (other : function ≠ "text")
    (all : ∀ row ∈ arguments, IsArgument row)
    (compared
      : Predicate.readCallComparison function arguments relation.swapped (.number (.read text))
        = .ok predicate)
    (holds : predicate.holds document candidate = .ok value)
    : Decides document candidate (⟨0, .number, text⟩ :: sign relation :: call function arguments)
      value := by
  have nested : Nested Predicate.endsSide (call function arguments) :=
    (nested_call plain all).mono Predicate.divides_of_endsSide
  have found : Literal.ofTokens? [⟨0, .number, text⟩] = some (.number (.read text)) := rfl
  have whole := Predicate.read_literal_left nested (by simp [call]) rfl found relation 0
  rw [Predicate.readSubject_call other all, compared] at whole
  exact decides_of_read whole holds

/-- A number in front of a row that stands for a number is compared with it. -/
theorem Measures.decides (measures : Measures document candidate subject number) (text : String)
    (relation : Relation)
    : Decides document candidate (⟨0, .number, text⟩ :: sign relation :: subject)
      (relation.swapped.holds number (.read text)) := by
  cases measures with
  | position => exact decides_number_call rfl (by decide) (by simp) rfl rfl
  | @count name inner =>
      have single : IsArgument [word name] := isArgument_single rfl rfl rfl
      refine decides_number_call rfl (by decide) (by simpa using single) rfl ?_
      rw [Predicate.holds]
      cases node : candidate.node with
      | text slot content => exact (inner slot content node).elim
      | document => rfl
      | element id tag attributes => rfl
  | @textLength arguments own =>
      have compared
          : Predicate.readCallComparison "string-length" arguments relation.swapped
              (.number (.read text))
            = .ok (.textLength relation.swapped (.read text)) := by
        simp [Predicate.readCallComparison, own.takesOwnText]
        rfl
      exact decides_number_call rfl (by decide) own.isArgument compared rfl

/-- Below a text nothing is counted, whatever number it is compared with. -/
theorem decides_count_text {slot : Slot} {content : String}
    (node : candidate.node = .text slot content) (text name : String) (relation : Relation)
    : Decides document candidate
      (⟨0, .number, text⟩ :: sign relation :: call "count" [[word name]]) false := by
  have single : IsArgument [word name] := isArgument_single rfl rfl rfl
  refine decides_number_call rfl (by decide) (by simpa using single) rfl ?_
  rw [Predicate.holds, node]

-----------------------------------------------------------------------------------------
-- Literals on the left
-----------------------------------------------------------------------------------------

/--
A comparison with its literal on the left is read as the one with the literal on the right and the
relation swapped; its other side may be any row that is cut nowhere and is no literal. In front of a
row that stands for a number, a number is compared with it as written. The exception are counts: of a
text, none holds.
-/
theorem comparisons_mirrored (document : Document) (candidate : Candidate)
    : (∀ (subject : List Token) (literal : Token) (relation : Relation) (position position' : Nat),
        Token.Nested Predicate.endsSide subject → Literal.ofTokens? subject = none →
        literal.kind = .string ∨ literal.kind = .number →
        Predicate.read (literal :: ⟨position, .relation, relation.text⟩ :: subject)
          = Predicate.read (subject ++ [⟨position', .relation, relation.swapped.text⟩, literal]))
      ∧ (∀ (subject : List Token) (number : Nat) (text : String) (relation : Relation),
        Measures document candidate subject number →
        ∃ value,
          Decides document candidate (⟨0, .number, text⟩ :: sign relation :: subject) value
          ∧ (value = true
            ↔ relation.Between (Number.read text).value ((number : ℚ) : WithTop ℚ)))
      ∧ (∀ (slot : Slot) (content text name : String) (relation : Relation),
        candidate.node = .text slot content →
        Decides document candidate
          (⟨0, .number, text⟩ :: sign relation :: call "count" [[word name]]) false) := by
  refine ⟨?_, ?_, ?_⟩
  · intro subject literal relation position position' nested other known
    exact Predicate.read_swapped nested other known relation position position'
  · intro subject number text relation measures
    refine ⟨_, measures.decides text relation, ?_⟩
    rw [Relation.holds_iff, Relation.between_swapped]
  · intro slot content text name relation node
    exact decides_count_text node text name relation

/-- A paragraph with two line breaks below it, and a text behind it. -/
def breaks : Document :=
  .fragment [.element "p" [] [.element "br" [] [], .element "br" [] []], .text "x"]

/-- Below the paragraph there is more than one line break. -/
theorem comparisons_mirrored_breaks
    : Token.Nested Predicate.endsSide (call "count" [[word "br"]])
      ∧ Literal.ofTokens? (call "count" [[word "br"]]) = none
      ∧ Predicate.read (⟨0, .number, "1"⟩ :: sign .less :: call "count" [[word "br"]])
        = Predicate.read (call "count" [[word "br"]] ++ [sign .greater, ⟨0, .number, "1"⟩])
      ∧ breaks.node? (.element 1) = some (.element 1 "p" [])
      ∧ Measures breaks ⟨.element 1 "p" [], 1, 2⟩ (call "count" [[word "br"]]) 2
      ∧ Decides breaks ⟨.element 1 "p" [], 1, 2⟩
        (⟨0, .number, "1"⟩ :: sign .less :: call "count" [[word "br"]]) true
      ∧ breaks.node? (.text (.tail 1)) = some (.text (.tail 1) "x")
      ∧ Decides breaks ⟨.text (.tail 1) "x", 2, 2⟩
        (⟨0, .number, "1"⟩ :: sign .greater :: call "count" [[word "br"]]) false := by
  have single : IsArgument [word "br"] := isArgument_single rfl rfl rfl
  have nested : Token.Nested Predicate.endsSide (call "count" [[word "br"]]) :=
    nested_call rfl (by simpa using single)
  have known : breaks.node? (.element 1) = some (.element 1 "p" []) := by cbv
  have known' : breaks.node? (.text (.tail 1)) = some (.text (.tail 1) "x") := by cbv
  have two : countBelow breaks (.element 1 "p" []) "br" = 2 := by
    have low : "br".lowered = "br" := by decide +kernel
    rw [countBelow, low]
    cbv
  have measures : Measures breaks ⟨.element 1 "p" [], 1, 2⟩ (call "count" [[word "br"]]) 2 :=
    two ▸ .count (by simp)
  have one : Number.read "1" = .finite 1 0 := by decide
  obtain ⟨mirrored, numbers, -⟩ := comparisons_mirrored breaks ⟨.element 1 "p" [], 1, 2⟩
  obtain ⟨-, -, texts⟩ := comparisons_mirrored breaks ⟨.text (.tail 1) "x", 2, 2⟩
  obtain ⟨value, decides, more⟩ := numbers _ 2 "1" .less measures
  obtain rfl : value = true := by
    rw [more, one]
    simp [Relation.Between, Number.value]
  exact ⟨nested, rfl, mirrored _ ⟨0, .number, "1"⟩ .less 0 0 nested rfl (.inr rfl), known, measures,
    decides, known', texts _ _ "1" "br" .greater rfl⟩

/-- Below a text there are no paragraphs, and yet their number does not compare equal to zero. -/
theorem comparisons_not_mirrored_text
    : (Document.fragment [.text "a"]).node? (.text (.lead 0)) = some (.text (.lead 0) "a")
      ∧ countBelow (.fragment [.text "a"]) (.text (.lead 0) "a") "p" = 0
      ∧ Relation.equal.Between (Number.read "0").value ((0 : ℚ) : WithTop ℚ)
      ∧ ¬Decides (.fragment [.text "a"]) ⟨.text (.lead 0) "a", 1, 1⟩
        (⟨0, .number, "0"⟩ :: sign .equal :: call "count" [[word "p"]]) true := by
  have known : (Document.fragment [.text "a"]).node? (.text (.lead 0))
      = some (.text (.lead 0) "a") := by
    cbv
  have none : countBelow (.fragment [.text "a"]) (.text (.lead 0) "a") "p" = 0 := by
    rw [countBelow]
    cbv
  have zero : Number.read "0" = .finite 0 0 := by decide
  refine ⟨known, none, ?_, fun decides => ?_⟩
  · simp [zero, Relation.Between, Number.value]
  · cases decides.unique (decides_count_text rfl "0" "p" .equal) rfl

end HtmlQuery.XPath
