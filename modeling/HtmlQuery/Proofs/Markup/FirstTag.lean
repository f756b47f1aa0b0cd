import Mathlib.Data.List.Infix
import Mathlib.Data.Nat.Find
import HtmlQuery.Markup.Reading
import HtmlQuery.Proofs.XPath.Lexeme

/-! Complete documents and fragments. The first tag behind white space and comments should decide
which of them a text is. But a text is also taken for a complete document if the name of that tag only
begins like one of a document, or if such a tag stands behind any later end of a comment.
-/

namespace HtmlQuery.Markup

open HtmlQuery.Text

-----------------------------------------------------------------------------------------
-- White space and comments
-----------------------------------------------------------------------------------------

/-- A comment, which reaches up to the first end behind its opening. -/
def IsComment (text : List Char) : Prop :=
  ∃ inner,
    text = "<!--".toList ++ (inner ++ "-->".toList) ∧ ¬"-->".toList <:+: inner ++ "--".toList

/-- White space and comments, one behind the other. -/
inductive Preamble : List Char → Prop
  | nil : Preamble []
  | blank {c front} (blank : isBlank c = true) (more : Preamble front) : Preamble (c :: front)
  | comment {comment front} (isComment : IsComment comment) (more : Preamble front)
    : Preamble (comment ++ front)

/-- What is left of a text behind its longest prefix of white space and comments. -/
def BehindPreamble (text rest : List Char) : Prop :=
  ∃ front,
    text = front ++ rest
    ∧ Preamble front
    ∧ ∀ other, other <+: text → Preamble other → other.length ≤ front.length

/-- Whether neither white space nor a comment begins here. -/
def Settles (text : List Char) : Prop :=
  (∀ c ∈ text.head?, isBlank c = false) ∧ ∀ comment, IsComment comment → ¬comment <+: text

theorem IsComment.head {comment : List Char} (isComment : IsComment comment)
    : ∃ more, comment = '<' :: '!' :: '-' :: '-' :: more := by
  obtain ⟨inner, rfl, -⟩ := isComment
  exact ⟨_, rfl⟩

/-- Where a tag begins, there is neither white space nor a comment. -/
theorem settles_tag {c : Char} {rest : List Char} (other : c ≠ '!')
    : Settles ('<' :: c :: rest) := by
  refine ⟨by rintro d ⟨⟩; decide, fun comment isComment begins => ?_⟩
  obtain ⟨more, rfl⟩ := isComment.head
  simp [other.symm] at begins

/-- No two comments begin a text: both end at the first end. -/
theorem IsComment.eq_of_prefix {first second text : List Char} (isComment : IsComment first)
    (isComment' : IsComment second) (begins : first <+: text) (begins' : second <+: text)
    : first = second := by
  have equal {first second : List Char} (isComment : IsComment first)
      (isComment' : IsComment second) (inside : first <+: second)
      : first = second := by
    obtain ⟨inner, rfl, -⟩ := isComment
    obtain ⟨inner', rfl, never⟩ := isComment'
    obtain ⟨more, whole⟩ := inside
    rcases List.eq_nil_or_concat more with rfl | ⟨init, c, rfl⟩
    · rwa [List.append_nil] at whole
    · -- Without its last character, the longer comment still holds the end of the shorter one.
      have front : "<!--".toList ++ (inner' ++ "-->".toList)
          = "<!--".toList ++ (inner' ++ "--".toList) ++ ['>'] := by
        simp
      rw [front, List.concat_eq_append, ← List.append_assoc] at whole
      have earlier := (List.append_inj_left' whole rfl)
      simp only [List.append_assoc, List.append_cancel_left_eq] at earlier
      exact (never ⟨inner, init, by simpa using earlier⟩).elim
  rcases List.prefix_or_prefix_of_prefix begins begins' with inside | inside
  · exact equal isComment isComment' inside
  · exact (equal isComment' isComment inside).symm

theorem Preamble.append {front more : List Char} (preamble : Preamble front)
    (preamble' : Preamble more)
    : Preamble (front ++ more) := by
  induction preamble with
  | nil => exact preamble'
  | blank blank _ ih => exact .blank blank ih
  | comment isComment _ ih =>
      rw [List.append_assoc]
      exact .comment isComment ih

/-- White space and comments go on as far as they can, by induction on another row of them: both rows
begin alike, since a text begins with at most one comment.
-/
theorem Preamble.length_le {front rest other : List Char} (preamble : Preamble front)
    (settles : Settles rest) (preamble' : Preamble other) (begins : other <+: front ++ rest)
    : other.length ≤ front.length := by
  obtain ⟨visible, noComment⟩ := settles
  induction preamble' generalizing front with
  | nil => exact Nat.zero_le _
  | @blank c other blank _ ih =>
      cases preamble with
      | nil =>
          obtain ⟨more, rfl⟩ := begins
          simp [visible c rfl] at blank
      | blank _ preamble =>
          obtain ⟨rfl, begins'⟩ := List.cons_prefix_cons.mp begins
          exact Nat.succ_le_succ (ih preamble begins')
      | comment isComment _ =>
          obtain ⟨more, rfl⟩ := isComment.head
          obtain ⟨rfl, -⟩ := List.cons_prefix_cons.mp begins
          cases blank
  | @comment comment other isComment _ ih =>
      have own : comment <+: comment ++ other := List.prefix_append comment other
      cases preamble with
      | nil => exact (noComment comment isComment (own.trans begins)).elim
      | blank blank _ =>
          obtain ⟨more, rfl⟩ := isComment.head
          obtain ⟨rfl, -⟩ := List.cons_prefix_cons.mp begins
          cases blank
      | @comment comment' front isComment' preamble =>
          rw [List.append_assoc] at begins
          obtain rfl := isComment.eq_of_prefix isComment' (own.trans begins)
            (List.prefix_append comment' (front ++ rest))
          have shorter := ih preamble ((List.prefix_append_right_inj comment).mp begins)
          simpa using shorter

/-- The longest prefix of white space and comments ends where neither goes on. -/
theorem behindPreamble_of_settles {front rest : List Char} (preamble : Preamble front)
    (settles : Settles rest)
    : BehindPreamble (front ++ rest) rest :=
  ⟨front, rfl, preamble, fun _ begins preamble' => preamble.length_le settles preamble' begins⟩

theorem BehindPreamble.settles {text rest : List Char} (behind : BehindPreamble text rest)
    : Settles rest := by
  obtain ⟨front, rfl, preamble, longest⟩ := behind
  constructor
  · intro c first
    by_contra blank
    obtain ⟨more, rfl⟩ : ∃ more, rest = c :: more := List.head?_eq_some_iff.mp first
    have further := preamble.append (.blank (by simpa using blank) .nil)
    have longer := longest (front ++ [c]) ⟨more, by simp⟩ further
    rw [List.length_append, List.length_singleton] at longer
    omega
  · intro comment isComment ⟨more, shape⟩
    have further := preamble.append (.comment isComment .nil)
    have longer := longest _ ⟨more, by simp [← shape]⟩ further
    obtain ⟨inner, rfl⟩ := isComment.head
    simp only [List.append_nil, List.length_append, List.length_cons] at longer
    omega

/-- Each text has one longest prefix of white space and comments. -/
theorem exists_behindPreamble (text : List Char)
    : ∃ rest, BehindPreamble text rest ∧ ∀ other, BehindPreamble text other → other = rest := by
  classical
  let last := Nat.findGreatest (fun n => Preamble (text.take n)) text.length
  have bound : last ≤ text.length := Nat.findGreatest_le text.length
  have preamble : Preamble (text.take last) :=
    Nat.findGreatest_spec (P := fun n => Preamble (text.take n)) (Nat.zero_le _) .nil
  have longest (other : List Char) (begins : other <+: text) (preamble' : Preamble other)
      : other.length ≤ (text.take last).length := by
    rw [List.length_take_of_le bound]
    refine Nat.le_findGreatest begins.length_le ?_
    rwa [← List.prefix_iff_eq_take.mp begins]
  refine ⟨text.drop last, ⟨_, (List.take_append_drop last text).symm, preamble, longest⟩, ?_⟩
  rintro other ⟨front, shape, preamble', longest'⟩
  have inside : front <+: text := ⟨other, shape.symm⟩
  have own : text.take last <+: text := List.take_prefix last text
  have shorter := longest front inside preamble'
  obtain rfl : front = text.take last :=
    (List.prefix_of_prefix_length_le inside own shorter).eq_of_length
      (le_antisymm shorter (longest' _ own preamble))
  exact (List.append_cancel_left ((List.take_append_drop last text).trans shape)).symm

-----------------------------------------------------------------------------------------
-- Tags of documents
-----------------------------------------------------------------------------------------

/-- The names of the tags that documents begin with. -/
def documentTags : List String :=
  ["!doctype", "html", "head", "body"]

/-- Whether a text begins with the tag of a document, in any letter case; what follows the name, if
anything, has to end it.
-/
def BeginsDocument (ends : Char → Bool) (text : List Char) : Prop :=
  ∃ name ∈ documentTags, ∃ written behind,
    text = '<' :: (written ++ behind)
    ∧ written.map Char.toLower = name.toList
    ∧ ∀ c ∈ behind.head?, ends c = true

/-- What ends the name of a tag. -/
def endsName (c : Char) : Bool :=
  isBlank c || c == '/' || c == '>'

/-- What ends a word. -/
def endsWord (c : Char) : Bool :=
  !isWord c

/-- Whether there is a comment in front of a text and, behind some later end of a comment, the tag of
a document.
-/
def Overruns (text : List Char) : Prop :=
  ∃ inner behind,
    trimStart text = "<!--".toList ++ (inner ++ ("-->".toList ++ behind))
    ∧ BeginsDocument endsWord (trimStart behind)

/-- A tag begins with its name, which is as long as it is written in lower case. -/
theorem beginsDocument_iff {ends : Char → Bool} {rest : List Char}
    : BeginsDocument ends ('<' :: rest)
      ↔ ∃ name ∈ documentTags,
        (rest.take name.toList.length).map Char.toLower = name.toList
        ∧ (rest.drop name.toList.length).head?.all ends = true := by
  simp only [Option.all_eq_true]
  constructor
  · rintro ⟨name, member, written, behind, shape, low, ended⟩
    have length : written.length = name.toList.length := by rw [← low, List.length_map]
    obtain rfl := (List.cons.inj shape).2
    refine ⟨name, member, ?_, ?_⟩
    · rw [← length, List.take_left, low]
    · rwa [← length, List.drop_left]
  · rintro ⟨name, member, low, ended⟩
    exact ⟨name, member, _, _, congrArg _ (List.take_append_drop _ rest).symm, low, ended⟩

theorem startsWithName_iff {name : String} {text : List Char}
    : startsWithName name text = true
      ↔ (text.take name.toList.length).map Char.toLower = name.toList := by
  rw [startsWithName, nameOf, beq_iff_eq, ← String.toList_inj, String.toList_ofList,
    String.length_toList]

/-- A document begins with one of the tags, whose name ends as a word. -/
theorem opensDocument_iff {text : List Char}
    : opensDocument text = true ↔ BeginsDocument endsWord text := by
  unfold opensDocument
  split
  · rename_i rest
    have ended (n : Nat)
        : (!(rest.drop n).head?.any isWord) = (rest.drop n).head?.all endsWord := by
      cases (rest.drop n).head? <;> rfl
    simp only [beginsDocument_iff, List.any_eq_true, Bool.and_eq_true, startsWithName_iff, ended,
      ← String.length_toList]
    rfl
  · rename_i other
    refine iff_of_false (by simp) ?_
    rintro ⟨name, -, written, behind, rfl, -⟩
    exact other _ rfl

/-- A document begins behind a comment if it begins behind the end of one, by induction on the text.
-/
theorem opensBehindComment_iff {text : List Char}
    : opensBehindComment text = true
      ↔ ∃ inner behind,
        text = inner ++ ("-->".toList ++ behind) ∧ opensDocument (trimStart behind) = true := by
  fun_induction opensBehindComment text with
  | case1 => simp
  | case2 behind ih =>
      rw [Bool.or_eq_true, ih]
      constructor
      · rintro (opens | ⟨inner, behind', shape, opens⟩)
        · exact ⟨[], behind, rfl, opens⟩
        · exact ⟨'-' :: inner, behind', congrArg ('-' :: ·) shape, opens⟩
      · rintro ⟨_ | ⟨d, inner⟩, behind', shape, opens⟩
        · obtain rfl : behind = behind' := by simpa using shape
          exact .inl opens
        · exact .inr ⟨inner, behind', (List.cons.inj shape).2, opens⟩
  | case3 c rest other ih =>
      rw [ih]
      constructor
      · rintro ⟨inner, behind, shape, opens⟩
        exact ⟨c :: inner, behind, congrArg (c :: ·) shape, opens⟩
      · rintro ⟨_ | ⟨d, inner⟩, behind, shape, opens⟩
        · obtain ⟨dash, rfl⟩ := List.cons.inj shape
          exact (other behind dash rfl).elim
        · exact ⟨inner, behind, (List.cons.inj shape).2, opens⟩

/-- Where a comment is opened, no tag begins. -/
theorem not_beginsDocument_comment {ends : Char → Bool} (rest : List Char)
    : ¬BeginsDocument ends ('<' :: '!' :: '-' :: '-' :: rest) := by
  have tags : ∀ name ∈ documentTags, 2 ≤ name.toList.length ∧ name.toList.take 2 ≠ ['!', '-'] := by
    decide
  rintro ⟨name, member, written, behind, shape, low, -⟩
  obtain ⟨long, other⟩ := tags name member
  rw [← low, List.length_map] at long
  have front : written.take 2 = ['!', '-'] := by
    rw [← List.take_append_of_le_length long, ← (List.cons.inj shape).2]
    rfl
  rw [← low, ← List.map_take, front] at other
  exact other rfl

/-- A text is complete if a document begins behind the white space in front, or behind the end of a
comment, provided that there is one in front.
-/
theorem isComplete_iff {text : List Char}
    : isComplete text = true ↔ BeginsDocument endsWord (trimStart text) ∨ Overruns text := by
  unfold isComplete Overruns
  split
  · rename_i rest trimmed
    rw [or_iff_right (trimmed ▸ not_beginsDocument_comment rest), trimmed, opensBehindComment_iff]
    simp [opensDocument_iff]
  · rename_i other
    rw [opensDocument_iff, or_iff_left]
    rintro ⟨inner, behind, shape, -⟩
    exact other _ shape

-----------------------------------------------------------------------------------------
-- Preambles and tags
-----------------------------------------------------------------------------------------

/-- A preamble is white space alone, or a comment stands in front and the end of one is followed by
white space alone, by induction on the preamble.
-/
theorem Preamble.blank_or_comment {front : List Char} (preamble : Preamble front)
    : (∀ c ∈ front, isBlank c = true)
      ∨ ∃ gap inner gap',
        front = gap ++ ("<!--".toList ++ (inner ++ ("-->".toList ++ gap')))
        ∧ (∀ c ∈ gap, isBlank c = true)
        ∧ ∀ c ∈ gap', isBlank c = true := by
  induction preamble with
  | nil => simp
  | @blank c front blank _ ih =>
      rcases ih with all | ⟨gap, inner, gap', rfl, all, all'⟩
      · exact .inl (List.forall_mem_cons.mpr ⟨blank, all⟩)
      · exact .inr ⟨c :: gap, inner, gap', rfl, List.forall_mem_cons.mpr ⟨blank, all⟩, all'⟩
  | comment isComment _ ih =>
      obtain ⟨first, rfl, -⟩ := isComment
      rcases ih with all | ⟨gap, inner, gap', rfl, -, all'⟩
      · exact .inr ⟨[], first, _, by simp, by simp, all⟩
      · exact .inr ⟨[], first ++ ("-->".toList ++ (gap ++ ("<!--".toList ++ inner))), gap', by simp,
          by simp, all'⟩

theorem trimStart_blank_append {gap rest : List Char} (blank : ∀ c ∈ gap, isBlank c = true)
    (visible : ∀ c ∈ rest.head?, isBlank c = false)
    : trimStart (gap ++ rest) = rest := by
  rw [trimStart, List.dropWhile_append_of_pos blank]
  cases rest with
  | nil => rfl
  | cons c rest => exact List.dropWhile_cons_of_neg (by simp [visible c rfl])

/-- A text is complete if a document begins behind its longest preamble, or behind a later end of a
comment, provided that there is a comment in front.
-/
theorem BehindPreamble.isComplete_iff {text rest : List Char} (behind : BehindPreamble text rest)
    : isComplete text = true ↔ BeginsDocument endsWord rest ∨ Overruns text := by
  obtain ⟨visible, -⟩ := behind.settles
  obtain ⟨front, rfl, preamble, -⟩ := behind
  rw [Markup.isComplete_iff]
  rcases preamble.blank_or_comment with blank | ⟨gap, inner, gap', rfl, blank, blank'⟩
  · rw [trimStart_blank_append blank visible]
  · have commented : trimStart (gap ++ ("<!--".toList ++ (inner ++ ("-->".toList ++ gap'))) ++ rest)
        = "<!--".toList ++ (inner ++ ("-->".toList ++ (gap' ++ rest))) := by
      simp only [List.append_assoc]
      exact trimStart_blank_append blank (by rintro c ⟨⟩; decide)
    have noTag
        : ¬BeginsDocument endsWord ("<!--".toList ++ (inner ++ ("-->".toList ++ (gap' ++ rest)))) :=
      not_beginsDocument_comment _
    have later : BeginsDocument endsWord rest
        → Overruns (gap ++ ("<!--".toList ++ (inner ++ ("-->".toList ++ gap'))) ++ rest) :=
      fun begins => ⟨inner, gap' ++ rest, commented,
        (trimStart_blank_append blank' visible).symm ▸ begins⟩
    rw [commented, or_iff_right noTag, or_iff_right_of_imp later]

-----------------------------------------------------------------------------------------
-- What is read
-----------------------------------------------------------------------------------------

/-- Whether a text is read as a complete document, also if it turns out to have no content. -/
def ReadsComplete (options : Options) (text : String) : Prop :=
  (∃ document, read options (.text text) = .ok document ∧ document.isFragment = false)
  ∨ read options (.text text) = .error .noContent

theorem isFragment_readFragment (keeping : Keeping) (text : String)
    : (readFragment keeping text).isFragment = true := by
  rw [readFragment]
  split <;> rfl

theorem exists_read_text (options : Options) {text : String} (visible : text.trimmed ≠ "")
    : ∃ keeping,
      read options (.text text)
      = if isComplete text.toList then readComplete keeping text
        else .ok (readFragment keeping text) := by
  refine ⟨⟨!options.removeComments, !options.removeBlankText⟩, ?_⟩
  simp [read, Source.text?, visible, bind, Except.bind]

/-- What isn't blank is read as a complete document or as a fragment, as the decision tells. -/
theorem readsComplete_iff_isComplete (options : Options) {text : String}
    (visible : text.trimmed ≠ "")
    : (ReadsComplete options text ↔ isComplete text.toList = true)
      ∧ (¬ReadsComplete options text →
        ∃ document, read options (.text text) = .ok document ∧ document.isFragment = true) := by
  obtain ⟨keeping, reads⟩ := exists_read_text options visible
  cases complete : isComplete text.toList with
  | true =>
      have treated : ReadsComplete options text := by
        rw [ReadsComplete, reads, complete, if_pos rfl, readComplete]
        split
        · exact .inl ⟨_, rfl, rfl⟩
        · exact .inr rfl
      exact ⟨iff_of_true treated rfl, fun other => (other treated).elim⟩
  | false =>
      rw [complete, if_neg (by simp)] at reads
      have fragment := isFragment_readFragment keeping text
      have treated : ¬ReadsComplete options text := by
        rw [ReadsComplete, reads]
        simp [fragment]
      exact ⟨iff_of_false treated (by simp), fun _ => ⟨_, reads, fragment⟩⟩

theorem BeginsDocument.mono {ends ends' : Char → Bool} {text : List Char}
    (begins : BeginsDocument ends text) (fewer : ∀ c, ends c = true → ends' c = true)
    : BeginsDocument ends' text := by
  obtain ⟨name, member, written, behind, shape, low, ended⟩ := begins
  exact ⟨name, member, written, behind, shape, low, fun c first => fewer c (ended c first)⟩

/-- What ends the name of a tag ends a word. -/
theorem endsWord_of_endsName {c : Char} (ends : endsName c = true) : endsWord c = true := by
  simp only [endsName, Bool.or_eq_true, beq_iff_eq] at ends
  rcases ends with (blank | rfl) | rfl
  · rw [endsWord, (XPath.Token.not_word_of_isBlank blank).1]
    rfl
  · decide
  · decide

/--
A text that isn't blank is read as a complete document if one of the four tags stands behind the
longest prefix of white space and comments. It is also read as one if the name of that tag is only
followed by something that ends a word, or if there is a comment in front and, behind some later end of
a comment, such a tag. Everything else is a fragment. So the tag decides just if it is there or neither
of both is the case.
-/
theorem readsComplete_iff (options : Options) {text : String} (visible : text.trimmed ≠ "")
    : ∃ rest,
      BehindPreamble text.toList rest
      ∧ (∀ other, BehindPreamble text.toList other → other = rest)
      ∧ (ReadsComplete options text ↔ BeginsDocument endsWord rest ∨ Overruns text.toList)
      ∧ (¬ReadsComplete options text →
        ∃ document, read options (.text text) = .ok document ∧ document.isFragment = true)
      ∧ ((ReadsComplete options text ↔ BeginsDocument endsName rest)
        ↔ BeginsDocument endsName rest
          ∨ ¬BeginsDocument endsWord rest ∧ ¬Overruns text.toList) := by
  obtain ⟨rest, behind, unique⟩ := exists_behindPreamble text.toList
  obtain ⟨decides, fragment⟩ := readsComplete_iff_isComplete options visible
  have decided := decides.trans behind.isComplete_iff
  refine ⟨rest, behind, unique, decided, fragment, ?_⟩
  rw [decided]
  by_cases tag : BeginsDocument endsName rest
  · have word := tag.mono fun c => endsWord_of_endsName
    exact iff_of_true (iff_of_true (.inl word) tag) (.inl tag)
  · rw [iff_false_right tag, or_iff_right tag, not_or]

/-- A comment and a line feed in front of a root element. -/
theorem readsComplete_behind_comment
    : "<!-- a -->\n<HTML>x".trimmed ≠ ""
      ∧ BehindPreamble "<!-- a -->\n<HTML>x".toList "<HTML>x".toList
      ∧ BeginsDocument endsName "<HTML>x".toList
      ∧ ReadsComplete .standard "<!-- a -->\n<HTML>x" := by
  have visible : "<!-- a -->\n<HTML>x".trimmed ≠ "" := by decide
  have comment : IsComment "<!-- a -->".toList := ⟨" a ".toList, by decide, by decide⟩
  have preamble : Preamble ("<!-- a -->".toList ++ ['\n']) :=
    .comment comment (.blank (by decide) .nil)
  have known : BehindPreamble _ "<HTML>x".toList :=
    behindPreamble_of_settles preamble (settles_tag (by decide))
  have tag : BeginsDocument endsName ('<' :: "HTML>x".toList) := by
    rw [beginsDocument_iff]
    decide +kernel
  obtain ⟨rest, -, unique, -, -, agree⟩ := readsComplete_iff .standard visible
  obtain rfl := unique _ known
  exact ⟨visible, known, tag, (agree.mpr (.inl tag)).mpr tag⟩

/-- A tag whose name goes on behind a hyphen, and one within an attribute behind a comment. -/
theorem readsComplete_without_tag
    : (BehindPreamble "<body-guard>x</body-guard>".toList "<body-guard>x</body-guard>".toList
        ∧ ¬BeginsDocument endsName "<body-guard>x</body-guard>".toList
        ∧ ReadsComplete .standard "<body-guard>x</body-guard>")
      ∧ BehindPreamble "<!-- a --><p title=\"--><html>\">x</p>".toList
        "<p title=\"--><html>\">x</p>".toList
      ∧ ¬BeginsDocument endsName "<p title=\"--><html>\">x</p>".toList
      ∧ ReadsComplete .standard "<!-- a --><p title=\"--><html>\">x</p>" := by
  have comment : IsComment "<!-- a -->".toList := ⟨" a ".toList, by decide, by decide⟩
  have preamble : Preamble ("<!-- a -->".toList ++ []) := .comment comment .nil
  have guard : ¬BeginsDocument endsName ('<' :: "body-guard>x</body-guard>".toList) := by
    rw [beginsDocument_iff]
    decide +kernel
  have paragraph : ¬BeginsDocument endsName ('<' :: "p title=\"--><html>\">x</p>".toList) := by
    rw [beginsDocument_iff]
    decide +kernel
  exact ⟨⟨behindPreamble_of_settles .nil (settles_tag (by decide)), guard,
      (readsComplete_iff_isComplete .standard (by decide +kernel)).1.mpr (by decide +kernel)⟩,
    behindPreamble_of_settles preamble (settles_tag (by decide)), paragraph,
    (readsComplete_iff_isComplete .standard (by decide +kernel)).1.mpr (by decide +kernel)⟩

end HtmlQuery.Markup
