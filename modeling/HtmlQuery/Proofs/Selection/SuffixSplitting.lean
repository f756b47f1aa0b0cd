import HtmlQuery.Proofs.Selection.Suffixes

/-! Where a query ends and its suffix begins. The suffix is found behind every query, and whatever is
cut off an expression is the suffix at its end.
-/

namespace HtmlQuery.Selection.Extracting

open HtmlQuery.Text

-----------------------------------------------------------------------------------------
-- Suffixes that are found
-----------------------------------------------------------------------------------------

theorem beforeText?_eq_some_iff {text query : List Char}
    : beforeText? text = some query ↔ query ≠ [] ∧ text = query ++ "::text".toList := by
  have taken (query : List Char)
      : (query ++ "::text".toList).take
          ((query ++ "::text".toList).length - "::text".toList.length) = query := by
    rw [List.length_append, Nat.add_sub_cancel, List.take_left]
  constructor
  · intro found
    simp only [beforeText?] at found
    split at found
    · rename_i suffix
      obtain ⟨before, rfl⟩ := List.isSuffixOf_iff_suffix.mp suffix
      rw [taken] at found
      split at found
      · cases found
      · rename_i begun
        cases found
        exact ⟨begun, rfl⟩
    · cases found
  · rintro ⟨begun, rfl⟩
    have suffix : "::text".toList.isSuffixOf (query ++ "::text".toList) = true :=
      List.isSuffixOf_iff_suffix.mpr (List.suffix_append query _)
    simp only [beforeText?, suffix, if_true, taken, if_neg begun]

/-- What is found at the end is a suffix with something in front of it, by induction on the text. -/
theorem shape_of_beforeAttr? {text before name : List Char}
    (found : beforeAttr? text = some (before, name))
    : before ≠ [] ∧ name ≠ [] ∧ ')' ∉ name ∧ text = before ++ (opening ++ (name ++ [')'])) := by
  induction text generalizing before with
  | nil => cases found
  | cons c rest ih =>
      rw [beforeAttr?] at found
      split at found
      · rename_i other taken
        cases found
        obtain ⟨some, inner, shape⟩ := attrName?_eq_some_iff.mp taken
        exact ⟨by simp, some, inner, congrArg (c :: ·) shape⟩
      · obtain ⟨⟨later, other⟩, within, same⟩ := Option.map_eq_some_iff.mp found
        cases same
        obtain ⟨-, some, inner, shape⟩ := ih within
        exact ⟨by simp, some, inner, congrArg (c :: ·) shape⟩

/-- A suffix with something in front of it isn't overlooked, by induction on what is there. -/
theorem beforeAttr?_ne_none {before name : List Char} (begun : before ≠ []) (some : name ≠ [])
    (inner : ')' ∉ name)
    : beforeAttr? (before ++ (opening ++ (name ++ [')']))) ≠ none := by
  induction before with
  | nil => exact (begun rfl).elim
  | cons c rest ih =>
      rw [List.cons_append, beforeAttr?]
      by_cases last : rest = []
      · rw [last, List.nil_append, attrName?_eq_some_iff.mpr ⟨some, inner, rfl⟩]
        simp
      · split
        · simp
        · simpa using ih last

-----------------------------------------------------------------------------------------
-- White space
-----------------------------------------------------------------------------------------

/-- Trimming leaves visible characters at both ends. -/
theorem unpadded_trim (text : List Char) : Unpadded (trim text) := by
  by_cases visible : ∃ c ∈ text, isBlank c = false
  · obtain ⟨c, member, visible⟩ := visible
    obtain ⟨front, middle, back, rfl, blank, blank', some, unpadded⟩ :=
      exists_unpadded member visible
    rwa [unpadded.trim_padded some blank blank']
  · have blank : ∀ c ∈ text, isBlank c = true := by simpa using visible
    rw [trim_of_blank blank]
    exact ⟨by simp, by simp⟩

/-- What stands at the front of a text without white space there is only trimmed at its end. -/
theorem exists_gap {text after : List Char} (unpadded : Unpadded (text ++ after))
    (begun : text ≠ [])
    : ∃ gap, text = trim text ++ gap ∧ (∀ c ∈ gap, isBlank c = true) ∧ trim text ≠ [] := by
  obtain ⟨c, rest, rfl⟩ := List.exists_cons_of_ne_nil begun
  have visible : isBlank c = false := unpadded.first c rfl
  obtain ⟨front, middle, back, shape, blank, blank', some, unpadded'⟩ :=
    exists_unpadded List.mem_cons_self visible
  have nothing : front = [] := by
    cases front with
    | nil => rfl
    | cons d front =>
        obtain ⟨rfl, -⟩ := List.cons.inj shape
        simp [blank c List.mem_cons_self] at visible
  have trimmed : trim (c :: rest) = middle := by
    rw [shape]
    exact unpadded'.trim_padded some blank blank'
  rw [trimmed]
  exact ⟨back, by simpa [nothing] using shape, blank', some⟩

/-- White space around an expression makes no difference. -/
theorem split_padded {front body back : List Char} (unpadded : Unpadded body) (some : body ≠ [])
    (blank : ∀ c ∈ front, isBlank c = true) (blank' : ∀ c ∈ back, isBlank c = true)
    : split (String.ofList (front ++ (body ++ back))) = split (String.ofList body) := by
  have same : trim (front ++ (body ++ back)) = trim body :=
    (unpadded.trim_padded some blank blank').trans unpadded.trim_eq.symm
  rw [split, split, String.toList_ofList, String.toList_ofList, same]

theorem split_trimmed (query : String) : split query.trimmed = split query := by
  rw [split, split, String.trimmed, String.toList_ofList, (unpadded_trim query.toList).trim_eq]

/-- A text that ends with a visible character is only trimmed at its front. -/
theorem trim_suffix {text : List Char} (last : ∀ c ∈ text.getLast?, isBlank c = false)
    : trim text <:+ text := by
  have within : trimStart text <:+ text := List.dropWhile_suffix isBlank
  rw [trim]
  rcases List.eq_nil_or_concat (trimStart text) with nothing | ⟨before, c, shape⟩
  · rw [nothing]
    exact List.nil_suffix
  · have visible : isBlank c = false := by
      obtain ⟨front, whole⟩ := within
      refine last c ?_
      rw [← whole, shape]
      simp [← List.append_assoc]
    rw [shape, List.concat_eq_append] at within ⊢
    rwa [trimEnd_append_visible before [] visible]

/-- There is no suffix behind what ends otherwise. -/
theorem split_of_other_end {query : String} (noText : ¬"::text".toList <:+ query.toList)
    (last : ∀ c ∈ query.toList.getLast?, isBlank c = false ∧ c ≠ ')')
    : split query = ⟨query.trimmed, .node⟩ := by
  have within := trim_suffix fun c member => (last c member).1
  have noText' : ¬"::text".toList <:+ trim query.toList := fun suffix =>
    noText (suffix.trans within)
  have noAttr : beforeAttr? (trim query.toList) = none := by
    rw [← Option.not_isSome_iff_eq_none, Option.isSome_iff_exists]
    rintro ⟨⟨before, name⟩, found⟩
    obtain ⟨-, -, -, shape⟩ := shape_of_beforeAttr? found
    obtain ⟨front, whole⟩ := within
    refine (last ')' ?_).2 rfl
    rw [← whole, shape]
    simp [← List.append_assoc]
  rw [split]
  simp only [beforeText?_eq_none noText', noAttr]
  rfl

-----------------------------------------------------------------------------------------
-- Queries and their suffixes
-----------------------------------------------------------------------------------------

/-- A query with the suffix for texts ends with a visible character. -/
theorem unpadded_text {text : List Char} (unpadded : Unpadded text) (begun : text ≠ [])
    (back : List Char)
    : Unpadded (text ++ (back ++ "::text".toList)) := by
  refine unpadded.append begun (by simp) ?_
  intro c last
  rw [List.getLast?_append] at last
  cases last
  decide

/-- The suffix for texts is cut off, and the white space in front of it. -/
theorem split_text {text back : List Char} (unpadded : Unpadded text) (begun : text ≠ [])
    (blank : ∀ c ∈ back, isBlank c = true)
    : split (String.ofList (text ++ (back ++ "::text".toList))) = ⟨String.ofList text, .text⟩ := by
  have whole := unpadded_text unpadded begun back
  have taken : beforeText? (text ++ (back ++ "::text".toList)) = some (text ++ back) :=
    beforeText?_eq_some_iff.mpr ⟨by simp [begun], (List.append_assoc _ _ _).symm⟩
  have nothing : ∀ c ∈ ([] : List Char), isBlank c = true := by simp
  have trimmed : trim ([] ++ (text ++ back)) = text := unpadded.trim_padded begun nothing blank
  rw [List.nil_append] at trimmed
  rw [split, String.toList_ofList, whole.trim_eq]
  simp only [taken, trimmed]

/-- How an expression that isn't padded is put together, given what is read from it: a query and the
white space behind it are followed by a suffix, or else there is no suffix with something in front.
-/
inductive ComposedOf (body : String) : Extracting → Prop
  | text {query gap : String} (begun : query ≠ "") (trimmed : query.trimmed = query)
    (blank : ∀ c ∈ gap.toList, isBlank c = true) (shape : body = query ++ gap ++ "::text")
    : ComposedOf body ⟨query, .text⟩
  | attr {query gap inner : String} (begun : query ≠ "") (trimmed : query.trimmed = query)
    (blank : ∀ c ∈ gap.toList, isBlank c = true) (some : inner ≠ "") (bare : ')' ∉ inner.toList)
    (shape : body = query ++ gap ++ "::attr(" ++ inner ++ ")")
    : ComposedOf body ⟨query, .attr inner.trimmed⟩
  | node (noText : ∀ rest : String, rest ≠ "" → body ≠ rest ++ "::text")
    (noAttr
      : ∀ rest inner : String, rest ≠ "" → inner ≠ "" → ')' ∉ inner.toList →
          body ≠ rest ++ "::attr(" ++ inner ++ ")")
    : ComposedOf body ⟨body, .node⟩

theorem trimmed_ofList (text : List Char)
    : (String.ofList text).trimmed = String.ofList (trim text) := by
  rw [String.trimmed, String.toList_ofList]

theorem ofList_ne_empty {text : List Char} (some : text ≠ []) : String.ofList text ≠ "" :=
  fun same => some (by simpa using congrArg String.toList same)

/-- What is cut off any expression is the suffix at its end. -/
theorem composedOf_split (expression : String)
    : ComposedOf expression.trimmed (split expression) := by
  have unpadded := unpadded_trim expression.toList
  rw [split, String.trimmed]
  generalize trim expression.toList = body at unpadded
  -- The query in front of a suffix, as it is cut off, still has white space at its end.
  have front {query after : List Char} (unpadded : Unpadded (query ++ after)) (begun : query ≠ [])
      : ∃ gap : String, String.ofList query = String.ofList (trim query) ++ gap
        ∧ (∀ c ∈ gap.toList, isBlank c = true) ∧ String.ofList (trim query) ≠ ""
        ∧ (String.ofList (trim query)).trimmed = String.ofList (trim query) := by
    obtain ⟨gap, shape, blank, some⟩ := exists_gap unpadded begun
    refine ⟨String.ofList gap, ?_, by simpa using blank, ofList_ne_empty some, ?_⟩
    · rw [← String.ofList_append, ← shape]
    · rw [trimmed_ofList, (unpadded_trim query).trim_eq]
  cases suffix : beforeText? body with
  | some query =>
      obtain ⟨begun, rfl⟩ := beforeText?_eq_some_iff.mp suffix
      obtain ⟨gap, shape, blank, some, trimmed⟩ := front unpadded begun
      refine .text some trimmed blank ?_
      rw [String.ofList_append, String.ofList_toList, shape]
  | none =>
      cases suffix' : beforeAttr? body with
      | some found =>
          obtain ⟨query, name⟩ := found
          obtain ⟨begun, named, bare, rfl⟩ := shape_of_beforeAttr? suffix'
          obtain ⟨gap, shape, blank, some, trimmed⟩ := front unpadded begun
          simp only
          rw [← trimmed_ofList name]
          refine .attr some trimmed blank (ofList_ne_empty named) (by simpa using bare) ?_
          rw [String.ofList_append, String.ofList_append, String.ofList_append,
            String.ofList_toList, shape]
          simp only [String.append_assoc]
      | none =>
          refine .node ?_ ?_
          · intro rest begun shape
            have whole : body = rest.toList ++ "::text".toList := by
              simpa using congrArg String.toList shape
            have found := beforeText?_eq_some_iff.mpr ⟨by simpa using begun, whole⟩
            rw [suffix] at found
            cases found
          · intro rest inner begun some bare shape
            have whole : body = rest.toList ++ (opening ++ (inner.toList ++ [')'])) := by
              simpa [opening] using congrArg String.toList shape
            have visible : rest.toList ≠ [] := by simpa using begun
            exact beforeAttr?_ne_none visible (by simpa using some) bare (whole ▸ suffix')

/--
A suffix behind a query that isn't blank is cut off together with the white space around both: the
suffix for texts in any case, and the suffix for an attribute if the query closes whatever it opens
like one. And from every expression, a suffix is cut off just if it ends with one that has something
in front of it.
-/
theorem split_exact
    : (∀ query gap : String, (∃ c ∈ query.toList, isBlank c = false) →
        (∀ c ∈ gap.toList, isBlank c = true) →
        split (query ++ "::text" ++ gap) = ⟨query.trimmed, .text⟩
        ∧ ((∀ front back : String, query = front ++ "::attr(" ++ back → ')' ∈ back.toList) →
          ∀ name : String, name ≠ "" → ')' ∉ name.toList →
            split (query ++ "::attr(" ++ name ++ ")" ++ gap)
              = ⟨query.trimmed, .attr name.trimmed⟩))
      ∧ ∀ expression, ComposedOf expression.trimmed (split expression) := by
  refine ⟨?_, composedOf_split⟩
  intro query gap visible blank'
  obtain ⟨c, member, visible⟩ := visible
  obtain ⟨front, text, back, shape, blank, between, begun, unpadded⟩ :=
    exists_unpadded member visible
  have trimmed : query.trimmed = String.ofList text := by
    rw [String.trimmed, shape, unpadded.trim_padded begun blank between]
  rw [trimmed]
  constructor
  · have whole : query ++ "::text" ++ gap
        = String.ofList (front ++ ((text ++ (back ++ "::text".toList)) ++ gap.toList)) := by
      rw [← String.toList_inj, String.toList_ofList]
      simp [shape]
    have inner := unpadded_text unpadded begun back
    rw [whole, split_padded inner (by simp [begun]) blank blank',
      split_text unpadded begun between]
  · intro closed name some bare
    have whole : query ++ "::attr(" ++ name ++ ")" ++ gap
        = String.ofList
            (front ++ ((text ++ (back ++ (opening ++ (name.toList ++ [')'])))) ++ gap.toList)) := by
      rw [← String.toList_inj, String.toList_ofList]
      simp [shape, opening]
    have inner := unpadded_attr unpadded begun back name.toList
    have closed' : Closed (text ++ back) := by
      intro before behind within
      have around : query = String.ofList (front ++ before) ++ "::attr(" ++ String.ofList behind := by
        rw [← String.toList_inj, shape, within]
        simp [opening]
      simpa using closed _ _ around
    rw [whole, split_padded inner (by simp [begun]) blank blank',
      split_attr unpadded begun between closed' (by simpa using some) bare, String.trimmed]

/-- A query that holds a closed suffix itself, and a name that holds an opening. -/
theorem split_exact_repeated
    : split (" a::attr(x) ::text\n" ) = ⟨"a::attr(x)", .text⟩
      ∧ split (" a::attr(x) ::attr( ::attr(b )\n") = ⟨"a::attr(x)", .attr "::attr(b"⟩ := by
  have visible : ∃ c ∈ " a::attr(x) ".toList, isBlank c = false := ⟨'a', by simp, by decide⟩
  have closed (front back : String) (shape : " a::attr(x) " = front ++ "::attr(" ++ back)
      : ')' ∈ back.toList := by
    have whole : " a::attr(x) ".toList = front.toList ++ (opening ++ back.toList) := by
      rw [shape]
      simp [opening]
    have places : ∀ place ≤ 12, opening <+: " a::attr(x) ".toList.drop place →
        ')' ∈ (" a::attr(x) ".toList.drop place).drop 7 := by
      decide
    have length : front.toList.length ≤ 12 := by
      have length := congrArg List.length whole
      rw [List.length_append, show " a::attr(x) ".toList.length = 12 from rfl] at length
      omega
    have found := places front.toList.length length
    rw [whole, List.drop_left] at found
    exact found (List.prefix_append opening _)
  obtain ⟨text, attr⟩ := split_exact.1 " a::attr(x) " "\n" visible (List.all_eq_true.mp rfl)
  have trimmed : " a::attr(x) ".trimmed = "a::attr(x)" := by decide +kernel
  have name : " ::attr(b ".trimmed = "::attr(b" := by decide +kernel
  have taken := attr closed " ::attr(b " (by simp) (by decide)
  rw [trimmed] at text taken
  rw [name] at taken
  exact ⟨text, taken⟩

end HtmlQuery.Selection.Extracting
