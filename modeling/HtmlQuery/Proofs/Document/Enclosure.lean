import HtmlQuery.Proofs.Document.Declarations
import HtmlQuery.Proofs.Document.Gaps
import HtmlQuery.Proofs.Text.LowerCase

/-! The markup of an element around the markup within it. The first is written in one go, the second is
put together from a text and the children. Both escape the same texts, but declarations are taken out
of the one as a whole and of the other child by child.
-/

namespace HtmlQuery

-----------------------------------------------------------------------------------------
-- Raw texts
-----------------------------------------------------------------------------------------

namespace Markup

/-- A tag is that of a script or a style sheet in lower case just if only ASCII letters are lowered. -/
theorem isListed_rawTags (tag : String) : isListed rawTags tag = rawTags.contains tag.lowered := by
  have script : tag.lowered = "script" ↔ tag.toLower = "script" :=
    String.lowered_eq_iff (by simp)
  have style : tag.lowered = "style" ↔ tag.toLower = "style" :=
    String.lowered_eq_iff (by simp)
  rw [Bool.eq_iff_iff]
  simp [isListed, rawTags, script, style]

/-- A leading text is written like every text within the branch. -/
theorem leading_eq_text (kind : Kind) (lead : String) : leading kind lead = text kind lead := by
  cases kind with
  | element tag attributes => rw [leading, text, isListed_rawTags]
  | comment | instruction => rfl

/-- An escaped text holds no `<`. -/
theorem not_mem_escape (value : String) : '<' ∉ (escape value).toList := by
  rw [escape, String.toList_ofList]
  intro member
  obtain ⟨c, -, written⟩ := List.mem_flatMap.mp member
  split at written
  · simp at written
  · split at written
    · simp at written
    · split at written
      · simp at written
      · exact (‹¬c = '<'› (List.mem_singleton.mp written).symm)

/-- A value without double quotes is put between them. -/
theorem quote_of_not_mem {value : String} (absent : '"' ∉ value.toList)
    : quote value = "\"" ++ escape value ++ "\"" := by
  rw [quote, String.contains_char_eq, decide_eq_false absent]
  rfl

/-- Only texts in scripts and style sheets can hold declarations. -/
theorem not_mem_text {tag : String} (attributes : List Attribute)
    (plain : isListed rawTags tag = false) (value : String)
    : '<' ∉ (text (.element tag attributes) value).toList := by
  simpa [text, plain] using not_mem_escape value

theorem text_of_raw {tag : String} {attributes : List Attribute}
    (raw : isListed rawTags tag = true) (value : String)
    : text (.element tag attributes) value = value := by
  simp [text, raw]

end Markup

-----------------------------------------------------------------------------------------
-- Branches
-----------------------------------------------------------------------------------------

namespace Branch

open HtmlQuery.Markup

variable {tag : String} {attributes : List Attribute} {last : List Char}

/-- A branch is written from `<` to `>`. -/
theorem written_tags (branch : Branch)
    : branch.written.toList.head? = some '<' ∧ branch.written.toList.getLast? = some '>' := by
  obtain ⟨id, kind, lead, children, tail⟩ := branch
  cases kind with
  | element tag attributes =>
      rw [written]
      split <;> simp [startTag, endTag, List.getLast?_cons]
  | comment text => simp [written, List.getLast?_cons]
  | instruction target text => simp [written, List.getLast?_cons]

theorem toList_writtenAmong_cons (parent : Kind) (branch : Branch) (rest : List Branch)
    : (writtenAmong parent (branch :: rest)).toList ++ last
      = (branch.written ++ text parent branch.tail).toList
        ++ ((writtenAmong parent rest).toList ++ last) := by
  simp [writtenAmong]

theorem toList_join_cons (parent : Kind) (branch : Branch) (rest : List Branch)
    : (String.join ((branch :: rest).map (markupWithTail parent))).toList ++ last
      = outside false (branch.written ++ text parent branch.tail).toList
        ++ ((String.join (rest.map (markupWithTail parent))).toList ++ last) := by
  simp [markupWithTail, withoutDeclarations]

/-- In front of a tag, children begin with a tag and hold one. -/
theorem tags_writtenAmong (parent : Kind) (children : List Branch)
    (head : last.head? = some '<') (ending : last.getLast? = some '>')
    : ((writtenAmong parent children).toList ++ last).head? = some '<'
      ∧ '>' ∈ (writtenAmong parent children).toList ++ last := by
  refine ⟨?_, List.mem_append_right _ (List.mem_of_getLast? ending)⟩
  cases children with
  | nil => simpa [writtenAmong] using head
  | cons child children =>
      rw [toList_writtenAmong_cons, String.toList_append, List.append_assoc, List.head?_append,
        child.written_tags.1]
      rfl

/-- In one go, no more is left of some children and a tag behind them than child by child, by
induction on the children.
-/
theorem length_outside_writtenAmong_le (parent : Kind) (children : List Branch) (last : List Char)
    : (outside false ((writtenAmong parent children).toList ++ last)).length
      ≤ ((String.join (children.map (markupWithTail parent))).toList ++ last).length := by
  induction children with
  | nil => simpa [writtenAmong] using length_outside_le false last
  | cons child children ih =>
      rw [toList_writtenAmong_cons, toList_join_cons, List.length_append]
      exact Nat.le_trans (length_outside_append_le _ _ _) (Nat.add_le_add_left ih _)

/-- The same is left of them just if no text behind a child leaves a declaration open and the tag
holds none.
-/
theorem outside_writtenAmong_iff (parent : Kind) (children : List Branch)
    (head : last.head? = some '<') (ending : last.getLast? = some '>')
    : outside false ((writtenAmong parent children).toList ++ last)
        = (String.join (children.map (markupWithTail parent))).toList ++ last
      ↔ (∀ child ∈ children, Settled (text parent child.tail).toList) ∧ ¬Declares last := by
  induction children with
  | nil => simpa [writtenAmong] using outside_eq_self_iff ending
  | cons child children ih =>
      obtain ⟨head', ends⟩ := tags_writtenAmong parent children head ending
      rw [toList_writtenAmong_cons, toList_join_cons,
        outside_piece_append_iff head' ends (length_outside_writtenAmong_le parent children last),
        ih, String.toList_append, settled_append_iff child.written_tags.2, List.forall_mem_cons,
        and_assoc]

/-- An element with content is written as its tags around its inner markup just if no declaration
begins in its tags or its leading text, and none is left open behind one of its children.
-/
theorem outerMarkup_eq_iff {branch : Branch} (kind : branch.kind = .element tag attributes)
    (filled : isListed voidTags tag = false)
    : branch.outerMarkup = startTag tag attributes ++ branch.innerMarkup ++ endTag tag
      ↔ ¬Declares (startTag tag attributes).toList
        ∧ ¬Declares (text branch.kind branch.lead).toList
        ∧ (∀ child ∈ branch.children, Settled (text branch.kind child.tail).toList)
        ∧ ¬Declares (endTag tag).toList := by
  obtain ⟨id, _, lead, children, tail⟩ := branch
  obtain rfl : _ = Kind.element tag attributes := kind
  have opening : (startTag tag attributes).toList.getLast? = some '>' := by
    simp [startTag, List.getLast?_cons]
  have head : (endTag tag).toList.head? = some '<' := by simp [endTag]
  have ending : (endTag tag).toList.getLast? = some '>' := by simp [endTag, List.getLast?_cons]
  obtain ⟨head', ends⟩ := tags_writtenAmong (.element tag attributes) children head ending
  have short := length_outside_writtenAmong_le (.element tag attributes) children (endTag tag).toList
  have short' := Nat.le_trans
    (length_outside_append_le false (text (.element tag attributes) lead).toList _)
    (Nat.add_le_add (length_outside_le false _) short)
  rw [← List.length_append] at short'
  have shape : (mk id (.element tag attributes) lead children tail).written.toList
      = (startTag tag attributes).toList ++ ((text (.element tag attributes) lead).toList
        ++ ((writtenAmong (.element tag attributes) children).toList ++ (endTag tag).toList)) := by
    simp [written, filled]
  rw [outerMarkup, withoutDeclarations, ← String.toList_inj, String.toList_ofList, shape, innerMarkup,
    leading_eq_text]
  simp only [String.toList_append, List.append_assoc, Branch.kind, Branch.lead, Branch.children]
  rw [outside_tag_append_iff opening short', outside_text_append_iff head' ends short,
    outside_writtenAmong_iff _ _ head ending]

/-- Behind what is written of a branch, an escaped text is kept. -/
theorem markupWithTail_eq (plain : isListed rawTags tag = false) (branch : Branch)
    : markupWithTail (.element tag attributes) branch
      = branch.outerMarkup ++ text (.element tag attributes) branch.tail := by
  have kept := outside_of_not_declares (not_declares_of_not_mem
    (not_mem_text attributes plain branch.tail))
  rw [markupWithTail, outerMarkup, withoutDeclarations, withoutDeclarations, String.toList_append,
    outside_append (closed_of_last branch.written_tags.2 _) (by simp), kept, String.ofList_append,
    String.ofList_toList]

/-- Pieces that are no longer than others make up the same just if they are the same, by induction on
the branches that they are for.
-/
theorem join_eq_join_iff {branches : List Branch} {piece piece' : Branch → String}
    (short : ∀ branch ∈ branches, (piece branch).toList.length ≤ (piece' branch).toList.length)
    : (String.join (branches.map piece)).toList.length
        ≤ (String.join (branches.map piece')).toList.length
      ∧ (String.join (branches.map piece) = String.join (branches.map piece')
        ↔ ∀ branch ∈ branches, piece branch = piece' branch) := by
  induction branches with
  | nil => simp
  | cons branch branches ih =>
      obtain ⟨own, others⟩ := List.forall_mem_cons.mp short
      obtain ⟨short', same⟩ := ih others
      simp only [List.map_cons, String.join_cons, String.toList_append, List.length_append]
      refine ⟨Nat.add_le_add own short', ?_⟩
      rw [← String.toList_inj, String.toList_append, String.toList_append,
        append_eq_append_iff_of_length_le own short', String.toList_inj, String.toList_inj, same,
        List.forall_mem_cons]

end Branch

-----------------------------------------------------------------------------------------
-- Documents
-----------------------------------------------------------------------------------------

namespace Document

variable {document : Document}

/-- Whatever is removed, the branch at the top is of the same kind. -/
theorem kind_top_remove (sound : document.Sound) (ref : NodeRef)
    : (document.remove ref).top.kind = document.top.kind := by
  cases ref with
  | document => rfl
  | element id =>
      rw [remove, top_removeElement]
      obtain ⟨⟨number, kind, lead, children, tail⟩, isFragment, detached⟩ := document
      rfl
  | text slot =>
      rw [top_removeText sound]
      obtain ⟨⟨number, kind, lead, children, tail⟩, isFragment, detached⟩ := document
      rfl

/-- The holder of a fragment's nodes always stays a plain division, by induction on what was removed.
-/
theorem Reachable.kind_holder (reachable : document.Reachable)
    (fragment : document.isFragment = true)
    : document.top.kind = .element "div" [] := by
  induction reachable with
  | fragment nodes => rfl
  | complete => cases fragment
  | remove reachable ref ih =>
      rw [isFragment_remove] at fragment
      rw [kind_top_remove reachable.sound, ih fragment]

/-- The markup of a branch without what is behind it, for an element its own outer markup. -/
def pieceMarkup (document : Document) (branch : Branch) : String :=
  match branch.kind with
  | .element _ _ => document.outerMarkup (.element branch.id)
  | .comment text => "<!--" ++ text ++ "-->"
  | .instruction target text => "<?" ++ target ++ " " ++ text ++ ">"

/-- An element among the branches of a document is written as the element that it is. -/
theorem pieceMarkup_eq (sound : document.Sound) {branch : Branch}
    (member : branch ∈ Branch.allAmong document.branches)
    : document.pieceMarkup branch
      = if branch.kind.isElement then branch.outerMarkup else branch.written := by
  have found : document.branch? branch.id = some branch :=
    (Branch.findAmong?_eq_some sound.distinct).mpr member
  obtain ⟨id, kind, lead, children, tail⟩ := branch
  cases kind with
  | element tag attributes => simp [pieceMarkup, Branch.kind, Kind.isElement, outerMarkup, found]
  | comment | instruction => simp [pieceMarkup, Branch.kind, Kind.isElement, Branch.written]

theorem length_outerMarkup_le (sound : document.Sound) {branch : Branch}
    (member : branch ∈ Branch.allAmong document.branches)
    : branch.outerMarkup.toList.length ≤ (document.pieceMarkup branch).toList.length := by
  rw [pieceMarkup_eq sound member]
  split
  · exact Nat.le_refl _
  · rw [Branch.outerMarkup, Markup.withoutDeclarations, String.toList_ofList]
    exact Markup.length_outside_le false _

/-- Comments and instructions are written as such unless they hold the beginning of a declaration. -/
theorem outerMarkup_eq_pieceMarkup_iff (sound : document.Sound) {branch : Branch}
    (member : branch ∈ Branch.allAmong document.branches)
    : branch.outerMarkup = document.pieceMarkup branch
      ↔ (branch.kind.isElement = false → ¬Markup.Declares branch.written.toList) := by
  rw [pieceMarkup_eq sound member]
  cases branch.kind.isElement with
  | true => simp
  | false =>
      rw [← Markup.outside_eq_self_iff branch.written_tags.2, Branch.outerMarkup,
        Markup.withoutDeclarations, ← String.toList_inj, String.toList_ofList]
      simp

/-- The nodes of a fragment are written one after the other, with all texts between them escaped, just
if no comment or instruction among them holds the beginning of a declaration.
-/
theorem innerMarkup_of_fragment_iff (reachable : document.Reachable)
    (fragment : document.isFragment = true)
    : document.innerMarkup .document
        = Markup.escape document.top.lead
          ++ String.join (document.top.children.map fun branch =>
            document.pieceMarkup branch ++ Markup.escape branch.tail)
      ↔ ∀ branch ∈ document.top.children, branch.kind.isElement = false →
        ¬Markup.Declares branch.written.toList := by
  have plain : Markup.isListed Markup.rawTags "div" = false := by decide +kernel
  have escaped (value : String) : Markup.text (.element "div" []) value = Markup.escape value := by
    simp [Markup.text, plain]
  have pieces : document.top.children.map (Branch.markupWithTail (.element "div" []))
      = document.top.children.map fun branch => branch.outerMarkup ++ Markup.escape branch.tail :=
    List.map_congr_left fun branch _ => by rw [Branch.markupWithTail_eq plain, escaped]
  have member : ∀ branch ∈ document.top.children, branch ∈ Branch.allAmong document.branches :=
    fun branch child =>
      Branch.mem_allAmong_cons.mpr (.inr (.inl (Branch.mem_allAmong_of_mem _ child)))
  rw [innerMarkup, if_pos fragment, Branch.innerMarkup, reachable.kind_holder fragment,
    Markup.leading_eq_text, escaped, pieces, String.append_right_inj]
  refine (Branch.join_eq_join_iff fun branch child => ?_).2.trans ?_
  · have short := length_outerMarkup_le reachable.sound (member branch child)
    simpa using short
  · refine forall₂_congr fun branch child => ?_
    rw [String.append_left_inj]
    exact outerMarkup_eq_pieceMarkup_iff reachable.sound (member branch child)

/--
The outer markup of an element that isn't void is its inner markup between a start tag, which its tag
and its attributes determine, and its end tag, if and only if the tags hold no beginning of a
declaration and, in a script or a style sheet, neither does the leading text, while the texts behind
the children leave none open. The outer markup of a fragment is its inner markup: its texts, escaped,
and its elements and comments in order, if and only if no comment among them holds such a beginning.
-/
theorem outerMarkup_encloses_iff (reachable : document.Reachable)
    : (∀ id branch tag attributes,
        document.branch? id = some branch →
        branch.kind = .element tag attributes →
        Markup.isListed Markup.voidTags tag = false →
        (document.outerMarkup (.element id)
            = Markup.startTag tag attributes ++ document.innerMarkup (.element id)
              ++ Markup.endTag tag
          ↔ ¬Markup.Declares (Markup.startTag tag attributes).toList
            ∧ ¬Markup.Declares (Markup.endTag tag).toList
            ∧ (Markup.isListed Markup.rawTags tag = true →
              ¬Markup.Declares branch.lead.toList
              ∧ ∀ child ∈ branch.children, Markup.Settled child.tail.toList)))
      ∧ (document.isFragment = true →
        document.outerMarkup .document = document.innerMarkup .document
        ∧ (document.innerMarkup .document
            = Markup.escape document.top.lead
              ++ String.join (document.top.children.map fun branch =>
                document.pieceMarkup branch ++ Markup.escape branch.tail)
          ↔ ∀ branch ∈ document.top.children, branch.kind.isElement = false →
            ¬Markup.Declares branch.written.toList)) := by
  constructor
  · intro id branch tag attributes found kind filled
    rw [outerMarkup, innerMarkup, found, Option.map_some, Option.getD_some, Option.map_some,
      Option.getD_some, Branch.outerMarkup_eq_iff kind filled, kind]
    cases raw : Markup.isListed Markup.rawTags tag with
    | true =>
        simp only [Markup.text_of_raw raw, true_implies]
        tauto
    | false =>
        have plain := Markup.not_mem_text attributes raw
        simp only [Markup.not_declares_of_not_mem (plain _),
          Markup.settled_of_not_declares (Markup.not_declares_of_not_mem (plain _))]
        simp
  · intro fragment
    refine ⟨?_, innerMarkup_of_fragment_iff reachable fragment⟩
    rw [outerMarkup, innerMarkup, if_pos fragment, if_pos fragment]

-----------------------------------------------------------------------------------------
-- Scripts
-----------------------------------------------------------------------------------------

/-- A fragment with a script that holds an element, texts around both and a comment. -/
def scripted : Document :=
  .fragment [
    .text "a<",
    .element "SCRIPT" [⟨"n", "1", false⟩] [.text "x<y", .element "b" [] [.text "&"], .text "1<2"],
    .comment "c", .text "z>"
  ]

/-- Within the script, texts stay as they are, also behind the element, whose own text is escaped. -/
theorem outerMarkup_encloses_scripted
    : scripted.Reachable
      ∧ (∃ branch,
        scripted.branch? 1 = some branch
        ∧ branch.kind = .element "SCRIPT" [⟨"n", "1", false⟩]
        ∧ ¬Markup.Declares branch.lead.toList
        ∧ ∀ child ∈ branch.children, Markup.Settled child.tail.toList)
      ∧ Markup.isListed Markup.voidTags "SCRIPT" = false
      ∧ scripted.innerMarkup (.element 1) = "x<y<b>&amp;</b>1<2"
      ∧ scripted.outerMarkup (.element 1)
        = "<SCRIPT n=\"1\">" ++ "x<y<b>&amp;</b>1<2" ++ "</SCRIPT>"
      ∧ scripted.isFragment = true
      ∧ scripted.outerMarkup .document = scripted.innerMarkup .document
      ∧ scripted.innerMarkup .document
        = "a&lt;<SCRIPT n=\"1\">x<y<b>&amp;</b>1<2</SCRIPT><!--c-->z&gt;" := by
  have reachable : scripted.Reachable := .fragment _
  have present : scripted.branch? 1
      = some (.mk 1 (.element "SCRIPT" [⟨"n", "1", false⟩]) "x<y"
        [.mk 2 (.element "b" []) "&" [] "1<2"] "") := by
    cbv
  have filled : Markup.isListed Markup.voidTags "SCRIPT" = false := by decide +kernel
  have start : Markup.startTag "SCRIPT" [⟨"n", "1", false⟩] = "<SCRIPT n=\"1\">" := by
    have quoted : Markup.quote "1" = "\"1\"" :=
      (Markup.quote_of_not_mem (by decide +kernel)).trans (by decide +kernel)
    have numbered : Markup.assignment "SCRIPT" ⟨"n", "1", false⟩
        = " " ++ "n" ++ "=" ++ Markup.quote "1" := by
      rw [Markup.assignment, if_neg (by decide +kernel), if_neg (by decide +kernel)]
    rw [Markup.startTag, List.map_singleton, numbered, quoted]
    decide +kernel
  have inner : scripted.innerMarkup (.element 1) = "x<y<b>&amp;</b>1<2" := by
    rw [innerMarkup, present]
    simp only [Option.map_some, Option.getD_some, Branch.innerMarkup, Branch.markupWithTail,
      Branch.written, Branch.writtenAmong, Branch.kind, Branch.lead, Branch.children, Branch.tail,
      List.map_cons, List.map_nil]
    decide +kernel
  have size : Markup.declarationStart.length = 31 := by decide +kernel
  have short (text : String) (few : text.length < 31) : ¬Markup.Declares text.toList := by
    intro declares
    have least := List.IsInfix.length_le declares
    rw [size, String.length_toList] at least
    omega
  have texts : ¬Markup.Declares "x<y".toList ∧ ∀ child ∈ [Branch.mk 2 (.element "b" []) "&" [] "1<2"],
      Markup.Settled child.tail.toList :=
    ⟨short "x<y" (by decide +kernel), by
      simpa [Branch.tail] using Markup.settled_of_not_declares (short "1<2" (by decide +kernel))⟩
  have comment : ¬Markup.Declares (Branch.mk 3 (.comment "c") "" [] "z>").written.toList :=
    short "<!--c-->" (by decide +kernel)
  obtain ⟨elements, whole⟩ := outerMarkup_encloses_iff reachable
  have encloses := elements 1 _ "SCRIPT" _ present rfl filled
  rw [start, inner] at encloses
  have outer := encloses.mpr ⟨short "<SCRIPT n=\"1\">" (by decide +kernel),
    short "</SCRIPT>" (by decide +kernel), fun _ => texts⟩
  have lead : scripted.top.lead = "a<" := by cbv
  have row : scripted.top.children
      = [.mk 1 (.element "SCRIPT" [⟨"n", "1", false⟩]) "x<y"
          [.mk 2 (.element "b" []) "&" [] "1<2"] "",
        .mk 3 (.comment "c") "" [] "z>"] := by
    cbv
  obtain ⟨same, pieces⟩ := whole rfl
  rw [lead, row] at pieces
  refine ⟨reachable, ⟨_, present, rfl, texts⟩, filled, inner, outer, rfl, same, ?_⟩
  rw [pieces.mpr fun child member => ?_]
  · simp only [List.map_cons, List.map_nil, pieceMarkup, Branch.kind, Branch.id, Branch.tail, outer]
    decide +kernel
  · rcases List.mem_pair.mp member with rfl | rfl
    · rintro ⟨⟩
    · exact fun _ => comment

/-- A fragment with a script whose text is a declaration of the content type. -/
def declaring : Document :=
  .fragment [.element "script" [] [.text "<meta http-equiv=\"Content-Type\">"]]

/-- The text of the script is missing in its outer markup. -/
theorem outerMarkup_without_declaration
    : declaring.Reachable
      ∧ declaring.branch? 1
        = some (.mk 1 (.element "script" []) "<meta http-equiv=\"Content-Type\">" [] "")
      ∧ Markup.isListed Markup.voidTags "script" = false
      ∧ declaring.innerMarkup (.element 1) = "<meta http-equiv=\"Content-Type\">"
      ∧ declaring.outerMarkup (.element 1) = "<script></script>"
      ∧ declaring.outerMarkup (.element 1)
        ≠ Markup.startTag "script" [] ++ declaring.innerMarkup (.element 1)
          ++ Markup.endTag "script" := by
  have present : declaring.branch? 1
      = some (.mk 1 (.element "script" []) "<meta http-equiv=\"Content-Type\">" [] "") := by
    cbv
  have filled : Markup.isListed Markup.voidTags "script" = false := by decide +kernel
  have inner : declaring.innerMarkup (.element 1) = "<meta http-equiv=\"Content-Type\">" := by
    rw [innerMarkup, present]
    decide +kernel
  have outer : declaring.outerMarkup (.element 1) = "<script></script>" := by
    rw [outerMarkup, present]
    simp only [Option.map_some, Option.getD_some, Branch.outerMarkup, Branch.written,
      Branch.writtenAmong]
    decide +kernel
  refine ⟨.fragment _, present, filled, inner, outer, ?_⟩
  rw [outer, inner]
  decide +kernel

end Document

end HtmlQuery
