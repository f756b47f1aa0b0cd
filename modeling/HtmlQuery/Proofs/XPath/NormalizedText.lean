import HtmlQuery.Proofs.Text.Trimming
import HtmlQuery.XPath.Evaluate

/-! Texts with normalized white space. Whatever white space stands between the words of a text and around
them, normalizing leaves the words with single blanks between them.
-/

namespace HtmlQuery

namespace Text

/-- The words of a text: what stands between white space. -/
def words (text : List Char) : List (List Char) :=
  (text.splitOnP isBlank).filter fun piece => !piece.isEmpty

/-- Texts without white space that are not empty. -/
structure IsWord (word : List Char) : Prop where
  nonempty : word ≠ []
  visible : ∀ c ∈ word, isBlank c = false

/-- Texts that consist of white space and the given words. Each word is a longest run of visible
characters: white space or the start of the text is in front of it, and white space or the end behind it.
-/
inductive HasWords : List Char → List (List Char) → Prop
  | blank {gap} (blank : ∀ c ∈ gap, isBlank c = true) : HasWords gap []
  | word {gap word rest words} (blank : ∀ c ∈ gap, isBlank c = true) (isWord : IsWord word)
    (ends : ∀ c ∈ rest.head?, isBlank c = true) (more : HasWords rest words)
    : HasWords (gap ++ (word ++ rest)) (word :: words)

-----------------------------------------------------------------------------------------
-- Words and the white space between them
-----------------------------------------------------------------------------------------

theorem words_append_blank {c : Char} (blank : isBlank c = true) (before behind : List Char)
    : words (before ++ c :: behind) = words before ++ words behind := by
  rw [words, List.splitOnP_append_cons before behind blank, List.filter_append]
  rfl

theorem words_blank_cons {c : Char} (blank : isBlank c = true) (behind : List Char)
    : words (c :: behind) = words behind :=
  words_append_blank blank [] behind

/-- White space in front of a text has no words, by induction on it. -/
theorem words_gap_append {gap : List Char} (blank : ∀ c ∈ gap, isBlank c = true)
    (text : List Char)
    : words (gap ++ text) = words text := by
  induction gap with
  | nil => rfl
  | cons c gap ih =>
      obtain ⟨first, others⟩ := List.forall_mem_cons.mp blank
      rw [List.cons_append, words_blank_cons first, ih others]

theorem words_gap {gap : List Char} (blank : ∀ c ∈ gap, isBlank c = true) : words gap = [] := by
  have alone := words_gap_append blank []
  rwa [List.append_nil] at alone

/-- A visible text is a word, and those behind the white space that ends it follow. -/
theorem words_word_append {word rest : List Char} (isWord : IsWord word)
    (ends : ∀ c ∈ rest.head?, isBlank c = true)
    : words (word ++ rest) = word :: words rest := by
  have single : words word = [word] := by
    rw [words, List.splitOnP_eq_singleton isWord.visible]
    simp [isWord.nonempty]
  cases rest with
  | nil => rw [List.append_nil, single, words_gap (by simp)]
  | cons c rest =>
      have blank : isBlank c = true := ends c rfl
      rw [words_append_blank blank, single, words_blank_cons blank]
      rfl

/-- White space around a text doesn't change its words. -/
theorem words_padded {front back : List Char} (blank : ∀ c ∈ front, isBlank c = true)
    (blank' : ∀ c ∈ back, isBlank c = true) (text : List Char)
    : words (front ++ (text ++ back)) = words text := by
  rw [words_gap_append blank]
  cases back with
  | nil => rw [List.append_nil]
  | cons c back =>
      obtain ⟨first, others⟩ := List.forall_mem_cons.mp blank'
      rw [words_append_blank first, words_gap others, List.append_nil]

theorem HasWords.eq_words {text : List Char} {found : List (List Char)}
    (has : HasWords text found)
    : found = words text := by
  induction has with
  | blank blank => exact (words_gap blank).symm
  | word blank isWord ends _ ih =>
      rw [words_gap_append blank, words_word_append isWord ends, ← ih]

theorem HasWords.cons_blank {c : Char} (blank : isBlank c = true) {text : List Char}
    {found : List (List Char)} (has : HasWords text found)
    : HasWords (c :: text) found := by
  cases has with
  | blank others => exact .blank (List.forall_mem_cons.mpr ⟨blank, others⟩)
  | word others isWord ends more =>
      rw [← List.cons_append]
      exact .word (List.forall_mem_cons.mpr ⟨blank, others⟩) isWord ends more

/-- A visible character prolongs the word behind it, or it is a word before white space. -/
theorem HasWords.cons_visible {c : Char} (visible : isBlank c = false) {text : List Char}
    {found : List (List Char)} (has : HasWords text found)
    : ∃ found', HasWords (c :: text) found' := by
  have alone (ends : ∀ d ∈ text.head?, isBlank d = true)
      : HasWords ([] ++ ([c] ++ text)) ([c] :: found) :=
    .word (by simp) ⟨by simp, by simpa using visible⟩ ends has
  cases has with
  | blank blank => exact ⟨_, alone fun d first => blank d (List.mem_of_mem_head? first)⟩
  | @word gap word rest words blank isWord ends more =>
      cases gap with
      | nil =>
          have longer : IsWord (c :: word) :=
            ⟨by simp, List.forall_mem_cons.mpr ⟨visible, isWord.visible⟩⟩
          have whole : HasWords ([] ++ (c :: word ++ rest)) ((c :: word) :: words) :=
            .word (by simp) longer ends more
          exact ⟨_, whole⟩
      | cons d gap =>
          refine ⟨_, alone fun e first => ?_⟩
          obtain rfl : d = e := Option.some.inj first
          exact blank d List.mem_cons_self

/-- Every text has words, by induction on it. -/
theorem exists_hasWords (text : List Char) : ∃ found, HasWords text found := by
  induction text with
  | nil => exact ⟨[], .blank (by simp)⟩
  | cons c text ih =>
      obtain ⟨found, has⟩ := ih
      cases visible : isBlank c with
      | true => exact ⟨found, has.cons_blank visible⟩
      | false => exact has.cons_visible visible

theorem hasWords_words (text : List Char) : HasWords text (words text) := by
  obtain ⟨found, has⟩ := exists_hasWords text
  rw [← has.eq_words]
  exact has

theorem HasWords.isWord {text : List Char} {found : List (List Char)} (has : HasWords text found)
    : ∀ word ∈ found, IsWord word := by
  induction has with
  | blank => simp
  | word _ isWord _ _ ih => exact List.forall_mem_cons.mpr ⟨isWord, ih⟩

-----------------------------------------------------------------------------------------
-- Words with single blanks between them
-----------------------------------------------------------------------------------------

variable {found : List (List Char)}

/-- The words of a text with single blanks between them. -/
abbrev joinWords (words : List (List Char)) : List Char :=
  [' '].intercalate words

theorem joinWords_cons_cons (word next : List Char) (others : List (List Char))
    : joinWords (word :: next :: others) = word ++ ' ' :: joinWords (next :: others) := by
  rw [joinWords, List.intercalate_cons_cons, List.append_assoc, List.singleton_append]

theorem joinWords_ne_nil {word : List Char} (isWord : IsWord word) (others : List (List Char))
    : joinWords (word :: others) ≠ [] := by
  cases others with
  | nil => simpa using isWord.nonempty
  | cons next others => simp

/-- Words that are joined are the words of what results, by induction on them. -/
theorem hasWords_joinWords (all : ∀ word ∈ found, IsWord word)
    : HasWords (joinWords found) found := by
  induction found with
  | nil => exact .blank (by simp)
  | cons word others ih =>
      obtain ⟨isWord, later⟩ := List.forall_mem_cons.mp all
      have more := ih later
      cases others with
      | nil =>
          have alone : HasWords ([] ++ (word ++ [])) [word] :=
            .word (by simp) isWord (by simp) more
          simpa using alone
      | cons next others =>
          have joined
              : HasWords ([] ++ (word ++ ' ' :: joinWords (next :: others)))
                (word :: next :: others) :=
            .word (by simp) isWord (by simp; rfl) (more.cons_blank rfl)
          rw [joinWords_cons_cons]
          exact joined

/-- Joined words begin and end with visible characters, by induction on them. -/
theorem unpadded_joinWords (all : ∀ word ∈ found, IsWord word)
    : Unpadded (joinWords found) := by
  induction found with
  | nil => exact ⟨by simp, by simp⟩
  | cons word others ih =>
      obtain ⟨isWord, later⟩ := List.forall_mem_cons.mp all
      have alone : Unpadded word :=
        ⟨fun c first => isWord.visible c (List.mem_of_mem_head? first),
          fun c last => isWord.visible c (List.mem_of_getLast? last)⟩
      cases others with
      | nil => simpa using alone
      | cons next others =>
          rw [joinWords_cons_cons]
          refine alone.append isWord.nonempty (by simp) fun c last => (ih later).last c ?_
          have some := joinWords_ne_nil (later next List.mem_cons_self) others
          rwa [List.getLast?_cons, List.getLast?_eq_some_getLast some, Option.getD_some,
            ← List.getLast?_eq_some_getLast some] at last

-----------------------------------------------------------------------------------------
-- Squeezing and trimming
-----------------------------------------------------------------------------------------

/-- Within a run all white space is dropped, by induction on it. -/
theorem squeeze_true_gap {gap : List Char} (blank : ∀ c ∈ gap, isBlank c = true)
    (rest : List Char)
    : squeeze true (gap ++ rest) = squeeze true rest := by
  induction gap with
  | nil => rfl
  | cons c gap ih =>
      obtain ⟨first, others⟩ := List.forall_mem_cons.mp blank
      rw [List.cons_append, squeeze, if_pos first, if_pos rfl, ih others]

/-- Visible characters are kept and end a run, by induction on them. -/
theorem squeeze_word {word : List Char} (isWord : IsWord word) (inRun : Bool)
    (rest : List Char)
    : squeeze inRun (word ++ rest) = word ++ squeeze false rest := by
  obtain ⟨nonempty, visible⟩ := isWord
  induction word generalizing inRun with
  | nil => exact (nonempty rfl).elim
  | cons c word ih =>
      obtain ⟨first, others⟩ := List.forall_mem_cons.mp visible
      rw [List.cons_append, squeeze, first, if_neg Bool.false_ne_true]
      cases word with
      | nil => rfl
      | cons d word => exact congrArg (c :: ·) (ih false (by simp) others)

/-- Outside of a run, white space at the front becomes a blank. -/
theorem squeeze_false (text : List Char)
    : squeeze false text = squeeze true text
      ∨ squeeze false text = ' ' :: squeeze true text := by
  cases text with
  | nil => exact .inl rfl
  | cons c text => cases blank : isBlank c <;> simp [squeeze, blank]

theorem squeeze_false_of_blank {text : List Char} {c : Char} (blank : isBlank c = true)
    : squeeze false (c :: text) = ' ' :: squeeze true (c :: text) := by
  simp [squeeze, blank]

/-- Within a run a text becomes its words, with at most one blank behind them; by induction on the words,
each of which is reached within a run.
-/
theorem squeeze_true_hasWords {text : List Char} (has : HasWords text found)
    : ∃ back, squeeze true text = joinWords found ++ back ∧ ∀ c ∈ back, isBlank c = true := by
  induction has with
  | @blank gap blank =>
      have gone := squeeze_true_gap blank []
      rw [List.append_nil] at gone
      exact ⟨[], gone, by simp⟩
  | @word gap word rest words blank isWord ends more ih =>
      obtain ⟨back, squeezed, blank'⟩ := ih
      rw [squeeze_true_gap blank, squeeze_word isWord]
      -- Only white space can follow the word; its first character is the blank in front of the next one.
      cases rest with
      | nil =>
          obtain rfl : words = [] := more.eq_words.trans (words_gap (by simp))
          exact ⟨[], by simp [squeeze], by simp⟩
      | cons c rest =>
          rw [squeeze_false_of_blank (ends c rfl), squeezed]
          cases words with
          | nil => exact ⟨' ' :: back, by simp, List.forall_mem_cons.mpr ⟨rfl, blank'⟩⟩
          | cons next others => exact ⟨back, by simp, blank'⟩

/-- A text becomes its words, with single blanks between them. -/
theorem HasWords.normalizeSpace_eq {text : List Char} (has : HasWords text found)
    : normalizeSpace text = joinWords found := by
  obtain ⟨back, squeezed, blank⟩ := squeeze_true_hasWords has
  obtain ⟨front, whole, blank'⟩ : ∃ front, squeeze false text = front ++ (joinWords found ++ back)
      ∧ ∀ c ∈ front, isBlank c = true := by
    rcases squeeze_false text with same | first
    · exact ⟨[], by rw [same, squeezed]; rfl, by simp⟩
    · exact ⟨[' '], by rw [first, squeezed]; rfl, by simp; rfl⟩
  rw [normalizeSpace, whole]
  cases found with
  | nil =>
      refine trim_of_blank fun c member => ?_
      rcases List.mem_append.mp member with before | behind
      · exact blank' c before
      · exact blank c (by simpa using behind)
  | cons word others =>
      have some := joinWords_ne_nil (has.isWord word List.mem_cons_self) others
      exact (unpadded_joinWords has.isWord).trim_padded some blank' blank

theorem words_trim (text : List Char) : words (trim text) = words text := by
  by_cases visible : ∃ c ∈ text, isBlank c = false
  · obtain ⟨c, member, visible⟩ := visible
    obtain ⟨front, middle, back, rfl, blank, blank', some, unpadded⟩ :=
      exists_unpadded member visible
    rw [unpadded.trim_padded some blank blank', words_padded blank blank']
  · have blank : ∀ c ∈ text, isBlank c = true := by simpa using visible
    rw [trim_of_blank blank, words_gap blank, words_gap (by simp)]

end Text

open Text

/--
Normalizing a text joins its words, the longest runs of visible characters in their order, by single
blanks. So doing it twice changes nothing, neither does trimming the text before, and a predicate about the
normalized text of a node is one about the words in all of the node's text.
-/
theorem normalizeSpace_joins_words
    : (∀ (text : List Char) (found : List (List Char)), HasWords text found ↔ found = words text)
      ∧ (∀ text : List Char, normalizeSpace text = [' '].intercalate (words text))
      ∧ (∀ text : List Char, normalizeSpace (normalizeSpace text) = normalizeSpace text)
      ∧ (∀ text : List Char, normalizeSpace (trim text) = normalizeSpace text)
      ∧ ∀ (document : Document) (candidate : XPath.Candidate) (equality : XPath.Equality)
        (value : String),
        XPath.Predicate.holds document candidate (.textIs true equality value)
          = .ok (equality.holds
            (String.ofList
              ([' '].intercalate (words (document.fullText candidate.node.ref).toList)))
            value) := by
  have joins (text : List Char) : normalizeSpace text = [' '].intercalate (words text) :=
    (hasWords_words text).normalizeSpace_eq
  have trims (text : List Char) : normalizeSpace (trim text) = normalizeSpace text := by
    rw [joins, joins, words_trim]
  refine ⟨fun text found => ⟨HasWords.eq_words, fun same => ?_⟩, joins, fun text => ?_, trims,
    fun document candidate equality value => ?_⟩
  · rw [same]
    exact hasWords_words text
  · rw [joins text]
    exact (hasWords_joinWords (hasWords_words text).isWord).normalizeSpace_eq
  · -- The text of a node is trimmed before it is normalized.
    simp only [XPath.Predicate.holds, XPath.trimmedText, String.trimmed, String.toList_ofList,
      if_true, trims, joins]

end HtmlQuery
