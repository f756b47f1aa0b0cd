import HtmlQuery.Proofs.Text.Trimming
import HtmlQuery.Selection.Extraction

/-! Cutting suffixes off queries. The first suffix that asks for an attribute is the one at the end
if what stands before it holds no opening of one.
-/

namespace HtmlQuery.Selection.Extracting

open HtmlQuery.Text

/-- How a suffix begins that asks for an attribute. -/
abbrev opening : List Char :=
  "::attr(".toList

-----------------------------------------------------------------------------------------
-- Queries without suffix
-----------------------------------------------------------------------------------------

theorem beforeText?_eq_none {text : List Char} (other : ¬"::text".toList <:+ text)
    : beforeText? text = none := by
  rw [← List.isSuffixOf_iff_suffix, Bool.not_eq_true] at other
  simp only [beforeText?, other]
  rfl

theorem attrName?_eq_none {text : List Char} (other : ¬opening <+: text)
    : attrName? text = none := by
  rw [← List.isPrefixOf_iff_prefix, Bool.not_eq_true] at other
  simp only [attrName?, other]
  rfl

/-- Without an opening, no attribute is asked for, by induction on the text. -/
theorem beforeAttr?_eq_none {text : List Char} (absent : ¬opening <:+: text)
    : beforeAttr? text = none := by
  induction text with
  | nil => rfl
  | cons c rest ih =>
      have later : ¬opening <:+: rest := fun inside => absent (List.infix_cons inside)
      rw [beforeAttr?, attrName?_eq_none fun front => later front.isInfix, ih later]
      rfl

/-- A text behind a character that isn't in the suffix for texts ends with it if the whole does. -/
theorem not_suffix_append {before after : List Char} {c : Char} (apart : c ∉ "::text".toList)
    (other : ¬"::text".toList <:+ after)
    : ¬"::text".toList <:+ before ++ c :: after := by
  intro suffix
  rcases List.suffix_or_suffix_of_suffix suffix (List.suffix_append before (c :: after))
    with inner | outer
  · rcases List.suffix_cons_iff.mp inner with same | inner
    · exact apart (same ▸ List.mem_cons_self)
    · exact other inner
  · exact apart (outer.subset List.mem_cons_self)

/-- Without any suffix, nothing is taken off a text that isn't trimmed. -/
theorem split_of_no_suffix {text : List Char} (unpadded : Unpadded text)
    (noText : ¬"::text".toList <:+ text) (noAttr : ¬opening <:+: text)
    : split (String.ofList text) = ⟨String.ofList text, .node⟩ := by
  rw [split, String.toList_ofList, unpadded.trim_eq]
  simp only [beforeText?_eq_none noText, beforeAttr?_eq_none noAttr]

/-- There is no suffix without colons. -/
theorem split_of_absent {text : String} (unpadded : Unpadded text.toList)
    (absent : ':' ∉ text.toList)
    : split text = ⟨text, .node⟩ := by
  have noText : ¬"::text".toList <:+ text.toList := fun suffix =>
    absent (suffix.subset (by decide))
  have noAttr : ¬opening <:+: text.toList := fun inside => absent (inside.subset (by decide))
  have same := split_of_no_suffix unpadded noText noAttr
  rwa [String.ofList_toList] at same

-----------------------------------------------------------------------------------------
-- Queries for an attribute
-----------------------------------------------------------------------------------------

/-- No end of an opening but the whole is how one begins. -/
theorem eq_zero_of_prefix_drop
    : ∀ count < 7, opening.drop count <+: opening → count = 0 := by
  decide

/-- An opening doesn't overlap with another one in front of it. -/
theorem prefix_of_overlap {before after : List Char} (begun : before ≠ [])
    (found : opening <+: before ++ (opening ++ after))
    : opening <+: before := by
  rcases List.prefix_or_prefix_of_prefix found (List.prefix_append before _)
    with whole | ⟨rest, shape⟩
  · exact whole
  · have length : before.length + rest.length = 7 := by
      rw [← List.length_append, shape]
      rfl
    have left : opening.drop before.length = rest := by rw [← shape, List.drop_left]
    by_cases short : before.length < 7
    · have behind : rest <+: opening ++ after := by
        refine (List.prefix_append_right_inj before).mp ?_
        rw [shape]
        exact found
      have shorter : rest.length ≤ opening.length := by
        rw [show opening.length = 7 from rfl]
        omega
      have front : rest <+: opening :=
        List.prefix_of_prefix_length_le behind (List.prefix_append opening after) shorter
      have none := eq_zero_of_prefix_drop before.length short (left ▸ front)
      exact (begun (List.length_eq_zero_iff.mp none)).elim
    · obtain rfl : rest = [] := List.length_eq_zero_iff.mp (by omega)
      have whole : before = opening := by rw [← shape, List.append_nil]
      exact whole ▸ List.prefix_rfl

/-- The suffix that consists of an opening, a name without closing parenthesis, and one such. -/
theorem attrName?_eq_some_iff {text name : List Char}
    : attrName? text = some name
      ↔ name ≠ [] ∧ ')' ∉ name ∧ text = opening ++ (name ++ [')']) := by
  constructor
  · intro found
    simp only [attrName?] at found
    split at found
    · rename_i front
      obtain ⟨rest, rfl⟩ := List.isPrefixOf_iff_prefix.mp front
      simp only [List.drop_left] at found
      split at found
      · rename_i named
        obtain ⟨last, some, inner⟩ := named
        cases found
        rcases List.eq_nil_or_concat rest with rfl | ⟨name, c, rfl⟩
        · exact (some rfl).elim
        · rw [List.concat_eq_append, ← List.append_assoc, List.getLast?_concat] at last
          rw [List.concat_eq_append, List.dropLast_concat] at some inner ⊢
          cases last
          exact ⟨some, inner, rfl⟩
      · cases found
    · cases found
  · rintro ⟨some, inner, rfl⟩
    have front : opening.isPrefixOf (opening ++ (name ++ [')'])) = true :=
      List.isPrefixOf_iff_prefix.mpr (List.prefix_append opening _)
    have last : (opening ++ (name ++ [')'])).getLast? = .some ')' := by
      rw [← List.append_assoc, List.getLast?_concat]
    simp only [attrName?, front, if_true, List.drop_left, List.dropLast_concat, last]
    rw [if_pos ⟨trivial, some, inner⟩]

/-- Whether a closing parenthesis stands somewhere behind each opening. -/
def Closed (text : List Char) : Prop :=
  ∀ front back, text = front ++ (opening ++ back) → ')' ∈ back

theorem Closed.of_absent {text : List Char} (absent : ¬opening <:+: text) : Closed text :=
  fun front back shape => (absent ⟨front, back, by simp [shape]⟩).elim

theorem Closed.of_append (front : List Char) {text : List Char} (closed : Closed (front ++ text))
    : Closed text :=
  fun before back shape => closed (front ++ before) back (by simp [shape])

/-- An opening that is closed before another one isn't the front of a suffix. -/
theorem attrName?_of_closed {text name : List Char} (closed : Closed text) (begun : text ≠ [])
    : attrName? (text ++ (opening ++ (name ++ [')']))) = none := by
  by_cases front : opening <+: text ++ (opening ++ (name ++ [')']))
  · obtain ⟨back, rfl⟩ := prefix_of_overlap begun front
    rw [← Option.not_isSome_iff_eq_none, Option.isSome_iff_exists]
    rintro ⟨other, found⟩
    obtain ⟨-, inner, shape⟩ := attrName?_eq_some_iff.mp found
    rw [List.append_assoc, List.append_cancel_left_eq, ← List.append_assoc, ← List.append_assoc,
      List.append_cancel_right_eq] at shape
    refine inner (shape ▸ ?_)
    simp [closed [] back rfl]
  · exact attrName?_eq_none front

/-- What stands before the first opening that isn't closed is in front of the suffix, by induction on
it.
-/
theorem beforeAttr?_eq_some {before name : List Char} (begun : before ≠ [])
    (closed : Closed before) (some : name ≠ []) (inner : ')' ∉ name)
    : beforeAttr? (before ++ (opening ++ (name ++ [')']))) = .some (before, name) := by
  induction before with
  | nil => exact (begun rfl).elim
  | cons c rest ih =>
      have later : Closed rest := .of_append [c] closed
      rw [List.cons_append, beforeAttr?]
      by_cases last : rest = []
      · rw [last, List.nil_append, attrName?_eq_some_iff.mpr ⟨some, inner, rfl⟩]
      · rw [attrName?_of_closed later last, ih last later]
        rfl

/-- A query with such a suffix ends with a visible character. -/
theorem unpadded_attr {text : List Char} (unpadded : Unpadded text)
    (begun : text ≠ []) (back name : List Char)
    : Unpadded (text ++ (back ++ (opening ++ (name ++ [')'])))) := by
  refine unpadded.append begun (by simp) ?_
  intro c last
  simp only [← List.append_assoc, List.getLast?_concat, Option.mem_def, Option.some.injEq] at last
  rw [← last]
  decide

/-- The suffix for an attribute is cut off, and the white space in front of it and around the name. -/
theorem split_attr {text back name : List Char} (unpadded : Unpadded text) (begun : text ≠ [])
    (blank : ∀ c ∈ back, isBlank c = true) (closed : Closed (text ++ back)) (some : name ≠ [])
    (inner : ')' ∉ name)
    : split (String.ofList (text ++ (back ++ (opening ++ (name ++ [')'])))))
      = ⟨String.ofList text, .attr (String.ofList (trim name))⟩ := by
  have whole := unpadded_attr unpadded begun back name
  have noText : ¬"::text".toList <:+ text ++ (back ++ (opening ++ (name ++ [')']))) := by
    rintro ⟨front, shape⟩
    have last := congrArg List.getLast? shape
    simp [← List.append_assoc] at last
  have inFront : text ++ back ≠ [] := by simp [begun]
  have taken := beforeAttr?_eq_some inFront closed some inner
  have nothing : ∀ c ∈ ([] : List Char), isBlank c = true := by simp
  have trimmed : trim ([] ++ (text ++ back)) = text := unpadded.trim_padded begun nothing blank
  rw [List.append_assoc] at taken
  rw [List.nil_append] at trimmed
  rw [split, String.toList_ofList, whole.trim_eq]
  simp only [beforeText?_eq_none noText, taken, trimmed]

end HtmlQuery.Selection.Extracting
