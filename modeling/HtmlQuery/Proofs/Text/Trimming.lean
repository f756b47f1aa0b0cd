import Mathlib.Data.List.TakeWhile
import HtmlQuery.Text.Blank

/-! Texts with white space around them. Trimming gives back what stands between it. -/

namespace HtmlQuery.Text

/-- Only what stands behind a visible character is trimmed at the end. -/
theorem trimEnd_append_visible (before after : List Char) {c : Char} (visible : isBlank c = false)
    : trimEnd (before ++ c :: after) = before ++ c :: trimEnd after := by
  have kept : (c :: before.reverse).dropWhile isBlank = c :: before.reverse :=
    List.dropWhile_cons_of_neg (by simp [visible])
  have reversed : (before ++ c :: after).reverse = after.reverse ++ c :: before.reverse := by simp
  rw [trimEnd, reversed, List.dropWhile_append, kept]
  split
  · rename_i blank
    simp [trimEnd, List.isEmpty_iff.mp blank]
  · simp [trimEnd]

/-- A text that begins with a visible character is only trimmed at its end. -/
theorem trimmed_visible (after : List Char) {c : Char} (visible : isBlank c = false)
    : (String.ofList (c :: after)).trimmed = String.ofList (c :: trimEnd after) := by
  have kept : trimStart (c :: after) = c :: after :=
    List.dropWhile_cons_of_neg (by simp [visible])
  have trimmed := trimEnd_append_visible [] after visible
  rw [String.trimmed, String.toList_ofList, trim, kept]
  exact congrArg String.ofList trimmed

/-- A text that begins and ends with visible characters. -/
structure Unpadded (text : List Char) : Prop where
  first : ∀ c ∈ text.head?, isBlank c = false
  last : ∀ c ∈ text.getLast?, isBlank c = false

/-- A text stays unpadded if something is put behind it that ends with a visible character. -/
theorem Unpadded.append {text more : List Char} (unpadded : Unpadded text) (some : text ≠ [])
    (some' : more ≠ []) (last : ∀ c ∈ more.getLast?, isBlank c = false)
    : Unpadded (text ++ more) := by
  constructor
  · obtain ⟨c, rest, rfl⟩ := List.exists_cons_of_ne_nil some
    exact unpadded.first
  · intro c member
    rw [List.getLast?_append, List.getLast?_eq_some_getLast some', Option.some_or] at member
    refine last c ?_
    rwa [List.getLast?_eq_some_getLast some']

theorem trimEnd_of_blank {text : List Char} (blank : ∀ c ∈ text, isBlank c = true)
    : trimEnd text = [] := by
  have all : text.reverse.dropWhile isBlank = [] :=
    List.dropWhile_eq_nil_iff.mpr fun c member => blank c (List.mem_reverse.mp member)
  rw [trimEnd, all, List.reverse_nil]

theorem trim_of_blank {text : List Char} (blank : ∀ c ∈ text, isBlank c = true)
    : trim text = [] := by
  rw [trim, trimStart, List.dropWhile_eq_nil_iff.mpr blank]
  rfl

/-- White space at the ends is trimmed and nothing else. -/
theorem Unpadded.trim_padded {text front back : List Char} (unpadded : Unpadded text)
    (some : text ≠ []) (blank : ∀ c ∈ front, isBlank c = true)
    (blank' : ∀ c ∈ back, isBlank c = true)
    : trim (front ++ (text ++ back)) = text := by
  have start : trimStart (front ++ (text ++ back)) = text ++ back := by
    obtain ⟨c, rest, rfl⟩ := List.exists_cons_of_ne_nil some
    rw [trimStart, List.dropWhile_append_of_pos blank]
    exact List.dropWhile_cons_of_neg (by simp [unpadded.first c rfl])
  obtain ⟨before, c, rfl⟩ := (List.eq_nil_or_concat text).resolve_left some
  have visible := unpadded.last c (by simp)
  rw [trim, start, List.concat_eq_append, List.append_assoc, List.singleton_append,
    trimEnd_append_visible before back visible, trimEnd_of_blank blank']

/-- A text that begins and ends with visible characters isn't trimmed. -/
theorem Unpadded.trim_eq {text : List Char} (unpadded : Unpadded text) : trim text = text := by
  by_cases empty : text = []
  · rw [empty]
    rfl
  · have whole : trim ([] ++ (text ++ [])) = text :=
      unpadded.trim_padded empty (by simp) (by simp)
    simpa using whole

/-- A text with a visible character has white space at most at its ends, and something between. -/
theorem exists_unpadded {text : List Char} {c : Char} (member : c ∈ text)
    (visible : isBlank c = false)
    : ∃ front middle back,
      text = front ++ (middle ++ back)
      ∧ (∀ c ∈ front, isBlank c = true)
      ∧ (∀ c ∈ back, isBlank c = true)
      ∧ middle ≠ []
      ∧ Unpadded middle := by
  have split : text.takeWhile isBlank ++ text.dropWhile isBlank = text :=
    List.takeWhile_append_dropWhile
  obtain ⟨d, rest, behind, first⟩
      : ∃ d rest, text.dropWhile isBlank = d :: rest ∧ isBlank d = false := by
    cases behind : text.dropWhile isBlank with
    | nil => simp [List.dropWhile_eq_nil_iff.mp behind c member] at visible
    | cons d rest =>
        have head := List.head?_dropWhile_not isBlank text
        rw [behind] at head
        exact ⟨d, rest, rfl, by simpa using head⟩
  have split' : (d :: rest).reverse.takeWhile isBlank ++ (d :: rest).reverse.dropWhile isBlank
      = (d :: rest).reverse :=
    List.takeWhile_append_dropWhile
  have begins : trimEnd (d :: rest) = d :: trimEnd rest := trimEnd_append_visible [] rest first
  refine ⟨text.takeWhile isBlank, trimEnd (d :: rest),
    ((d :: rest).reverse.takeWhile isBlank).reverse, ?_, fun c => List.mem_takeWhile_imp, ?_, ?_,
    ?_, ?_⟩
  · rw [trimEnd, ← List.reverse_append, split', List.reverse_reverse, ← behind, split]
  · exact fun c member => List.mem_takeWhile_imp (List.mem_reverse.mp member)
  · simp [begins]
  · rw [begins]
    rintro c ⟨⟩
    exact first
  · intro c last
    have head := List.head?_dropWhile_not isBlank (d :: rest).reverse
    rw [trimEnd, List.getLast?_reverse] at last
    rw [last] at head
    simpa using head

end HtmlQuery.Text
