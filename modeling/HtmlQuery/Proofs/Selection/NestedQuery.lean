import HtmlQuery.Proofs.Css.Matching
import HtmlQuery.Proofs.Css.Seam
import HtmlQuery.Proofs.Selection.QueriedNodes

/-! Two queries with compounds, one after the other, and a single query with a blank between the
compounds. They lead to the same elements as long as the blank is a token of its own.
-/

namespace HtmlQuery

namespace Css

/-- Going down from all elements that satisfy a compound leads to the elements below them, each once
and in document order.
-/
theorem eraseDups_below_matched {document : Document} (sound : document.Sound)
    (outer inner : Compound)
    : (((document.belowRefs .document).filter (outer.matched document)).flatMap fun above =>
        (document.belowRefs above).filter (inner.matched document)).eraseDups
      = (document.belowRefs .document).filter (inner.matchedWithin outer document .document) := by
  have nests := Document.nests_belowRefs sound
  refine eq_filter_of_sublist (nests.sublist_flatMap List.filter_sublist _) nests.distinct _ ?_
  intro ref member
  simp only [List.mem_eraseDups, List.mem_flatMap, List.mem_filter, Compound.matchedWithin,
    Bool.and_eq_true, List.any_eq_true, List.contains_iff_mem]
  constructor
  · rintro ⟨above, ⟨inside, matched⟩, below, matched'⟩
    exact ⟨matched', above, inside, matched, below⟩
  · rintro ⟨matched', above, inside, matched, below⟩
    exact ⟨above, ⟨inside, matched⟩, below, matched'⟩

/-- A text whose tokens don't begin with a blank doesn't begin with white space. -/
theorem Token.visible_of_scan {text : String} (visible : (scan text).head? ≠ some .blank)
    : ∀ c ∈ text.toList.head?, isSpace c = false := by
  intro c first
  obtain ⟨rest, shape⟩ := List.head?_eq_some_iff.mp first
  rw [scan, shape, scanFrom_cons, front_eq] at visible
  by_contra space
  rw [Bool.not_eq_false] at space
  simp [space] at visible

end Css

namespace Selection

/-- A query for elements that satisfy a compound, and what is left of it after trimming. -/
structure Asks (compound : Css.Compound) (query text : String) : Prop where
  taken : Extracting.split query = ⟨text, .node⟩
  spelled : compound.Spelled (Css.Token.scan text)
  allowed : Css.holdsForbidden (Css.Token.scan text) = false

/-- A type in a query asks for the elements with that tag. -/
theorem Asks.of_type {query text : String} (name : String)
    (taken : Extracting.split query = ⟨text, .node⟩)
    (tokens : Css.Token.scan text = [.ident name])
    (allowed : Css.holdsForbidden [.ident name] = false)
    : Asks (.mk (some name.lowered) []) query text :=
  ⟨taken, Css.Compound.spelled_type tokens, tokens ▸ allowed⟩

/-- A class in a query asks for the elements in it. -/
theorem Asks.of_class {query text name : String}
    (taken : Extracting.split query = ⟨text, .node⟩)
    (tokens : Css.Token.scan text = [.symbol '.', .ident name])
    (allowed : Css.holdsForbidden [.symbol '.', .ident name] = false)
    : Asks (.mk none [.classed name]) query text :=
  ⟨taken, Css.Compound.spelled_class tokens, tokens ▸ allowed⟩

variable {document : Document}

/-- Queries start from all nodes of the tree. -/
theorem contexts_of_subset (sound : document.Sound) {refs : List NodeRef}
    (inside : refs ⊆ document.belowRefs .document) (query : String)
    : (⟨refs.map Item.node, query⟩ : Selection).contexts document = refs.map Item.node := by
  refine List.filter_eq_self.mpr fun item member => ?_
  obtain ⟨ref, among, rfl⟩ := List.mem_map.mp member
  obtain ⟨node, below, rfl⟩ := List.mem_map.mp (inside among)
  rw [Document.along_descendants_document] at below
  exact Document.isAttached_of_mem sound below

/-- A query that can be read leads to what its selectors match below some nodes. -/
theorem value_css_of_read {query text : String} {group : Css.Group}
    (taken : Extracting.split query = ⟨text, .node⟩) (read : Css.Group.read? text = some group)
    (allowed : Css.holdsForbidden (Css.Token.scan text) = false) {selection : Selection}
    {refs : List NodeRef} (contexts : selection.contexts document = refs.map Item.node)
    (starts : ∀ ref ∈ refs, Css.isContext (.node ref) = true)
    : (css document selection query).value
      = .ok ⟨(refs.flatMap (group.below document)).eraseDups.map Item.node, query⟩ := by
  have selected : Css.select document text (refs.map Item.node)
      = .ok (refs.flatMap (group.below document)).eraseDups := by
    cases refs with
    | nil => rfl
    | cons ref rest =>
        have some : ((ref :: rest).map Item.node).any Css.isContext = true := by
          simp [starts ref List.mem_cons_self]
        simp only [Css.select, some, read, allowed, List.flatMap_map]
        rfl
  rw [value_css, taken, contexts, selected]
  rfl

/-- A query for a compound leads to the elements below some nodes that satisfy it. -/
theorem Asks.value_css (sound : document.Sound) {compound : Css.Compound} {query text : String}
    (asks : Asks compound query text) {selection : Selection} {refs : List NodeRef}
    (contexts : selection.contexts document = refs.map Item.node)
    (starts : ∀ ref ∈ refs, Css.isContext (.node ref) = true)
    : (css document selection query).value
      = .ok ⟨(refs.flatMap fun above =>
          (document.belowRefs above).filter (compound.matched document)).eraseDups.map Item.node,
        query⟩ := by
  have read := Css.Group.read?_compound asks.spelled
  have matched := funext (Css.below_compound sound asks.spelled)
  rw [value_css_of_read asks.taken read asks.allowed contexts starts, matched]

/-- From the start, a query that can be read leads to what its selectors match in the document. -/
theorem value_css_start_of_read (document : Document) {query text : String} {group : Css.Group}
    (taken : Extracting.split query = ⟨text, .node⟩) (read : Css.Group.read? text = some group)
    (allowed : Css.holdsForbidden (Css.Token.scan text) = false)
    : (css document .start query).value
      = .ok ⟨(group.below document .document).eraseDups.map Item.node, query⟩ := by
  have contexts : Selection.start.contexts document = [NodeRef.document].map Item.node := rfl
  have answered := value_css_of_read taken read allowed contexts (by simp [Css.isContext])
  rwa [List.flatMap_singleton] at answered

/-- From the start, a query for a compound leads to the elements that satisfy it. -/
theorem Asks.value_css_start (sound : document.Sound) {compound : Css.Compound}
    {query text : String} (asks : Asks compound query text)
    : (css document .start query).value
      = .ok ⟨((document.belowRefs .document).filter (compound.matched document)).map Item.node,
        query⟩ := by
  have distinct := (Document.nests_belowRefs sound).distinct
  have read := Css.Group.read?_compound asks.spelled
  rw [value_css_start_of_read document asks.taken read asks.allowed,
    Css.below_compound sound asks.spelled, eraseDups_of_nodup (distinct.filter _)]

/-- With a blank between that is a token of its own, two compounds are read as the way from one to
the other.
-/
theorem Asks.join {outer inner : Css.Compound} {left right text text' : String}
    (first : Asks outer left text) (second : Asks inner right text')
    (apart : Css.Token.scan (text ++ " ") = Css.Token.scan text ++ [.blank])
    : Css.Group.read? (text ++ " " ++ text') = some [.join (.compound outer) .descendant inner]
      ∧ Css.holdsForbidden (Css.Token.scan (text ++ " " ++ text')) = false := by
  have tokens : Css.Token.scan (text ++ " " ++ text')
      = Css.Token.scan text ++ .blank :: Css.Token.scan text' := by
    obtain ⟨token, rest, shape, visible, -⟩ := second.spelled.begins
    exact Css.Token.scan_seam apart (Css.Token.visible_of_scan (by simp [shape, visible]))
  refine ⟨Css.Group.read?_join first.spelled second.spelled tokens, ?_⟩
  have front := first.allowed
  have back := second.allowed
  rw [Css.holdsForbidden] at front back ⊢
  rw [tokens, List.any_append, List.any_cons, front, back]
  rfl

/-- A query for a compound, put to what another one led to from the start, leads to the elements
that satisfy the second compound below those that satisfy the first one.
-/
theorem Asks.exists_below (sound : document.Sound) {outer inner : Css.Compound}
    {left right text text' : String} (first : Asks outer left text)
    (second : Asks inner right text')
    : ∃ above below,
        (css document .start left).value = .ok above
        ∧ (css document above right).value = .ok below
        ∧ below.items
          = ((document.belowRefs .document).filter
            (inner.matchedWithin outer document .document)).map Item.node := by
  have above := first.value_css_start sound
  have inTree : (document.belowRefs .document).filter (outer.matched document)
      ⊆ document.belowRefs .document :=
    List.filter_sublist.subset
  have below := second.value_css sound (contexts_of_subset sound inTree left) fun ref member => by
    obtain ⟨id, rfl⟩ := Css.Compound.isElement_of_matched (List.mem_filter.mp member).2
    rfl
  rw [Css.eraseDups_below_matched sound] at below
  exact ⟨_, _, above, below, rfl⟩

/--
From the start, a query with a compound and another one with a second compound lead to the same
elements as the query with both and a blank between: those that satisfy the second compound below
those that satisfy the first one, each once and in document order.
-/
theorem css_css (reachable : document.Reachable) {outer inner : Css.Compound}
    {left right text text' : String} (first : Asks outer left text)
    (second : Asks inner right text')
    (whole : Extracting.split (left ++ " " ++ right) = ⟨text ++ " " ++ text', .node⟩)
    (apart : Css.Token.scan (text ++ " ") = Css.Token.scan text ++ [.blank])
    : ∃ above below joined,
        (css document .start left).value = .ok above
        ∧ (css document above right).value = .ok below
        ∧ (css document .start (left ++ " " ++ right)).value = .ok joined
        ∧ below.items = joined.items
        ∧ joined.items.Nodup
        ∧ joined.items
          = ((document.belowRefs .document).filter
            (inner.matchedWithin outer document .document)).map Item.node := by
  have sound := reachable.sound
  have distinct := (Document.nests_belowRefs sound).distinct
  obtain ⟨above, below, found, found', items⟩ := first.exists_below sound second
  obtain ⟨read, allowed⟩ := first.join second apart
  have joined := value_css_start_of_read document whole read allowed
  rw [Css.below_join sound first.spelled second.spelled,
    eraseDups_of_nodup (distinct.filter _)] at joined
  refine ⟨above, below, _, found, found', joined, items, ?_, rfl⟩
  exact (distinct.filter _).map (fun _ _ same => Item.node.inj same)

-----------------------------------------------------------------------------------------
-- A label
-----------------------------------------------------------------------------------------

/-- A fragment with a label in a box. -/
def labelled : Document :=
  .fragment [.element "div" [⟨"class", "af x", false⟩, ⟨"a", "::attr(", false⟩]
    [.element "b" [⟨"class", "b)", false⟩] [.text "x"]]]

/-- The box around the label. -/
def labelledBox : Node :=
  .element 1 "div" [⟨"class", "af x", false⟩, ⟨"a", "::attr(", false⟩]

/-- The label in the box. -/
def labelledText : Node :=
  .element 2 "b" [⟨"class", "b)", false⟩]

/-- A compound matches the two elements if they satisfy it, and never the text in the label. -/
theorem matched_labelled (compound : Css.Compound)
    : compound.matched labelled (.element 1) = compound.holds labelled labelledBox
      ∧ compound.matched labelled (.element 2) = compound.holds labelled labelledText
      ∧ compound.matched labelled (.text (.lead 2)) = false := by
  have box : labelled.node? (.element 1) = some labelledBox := by cbv
  have label : labelled.node? (.element 2) = some labelledText := by cbv
  refine ⟨?_, ?_, Bool.eq_false_iff.mpr fun matched => ?_⟩
  · simp [Css.Compound.matched, box, Css.elementsOf, labelledBox]
  · simp [Css.Compound.matched, label, Css.elementsOf, labelledText]
  · obtain ⟨_, ⟨⟩⟩ := Css.Compound.isElement_of_matched matched

/-- What a compound matches are those of the two elements that satisfy it. -/
theorem filter_matched_labelled (compound : Css.Compound)
    : (labelled.belowRefs .document).filter (compound.matched labelled)
      = ([labelledBox, labelledText].filter (compound.holds labelled)).map Node.ref := by
  have all : labelled.belowRefs .document = [.element 1, .element 2, .text (.lead 2)] := by cbv
  rw [all]
  simp only [List.filter_cons, List.filter_nil, matched_labelled]
  cases compound.holds labelled labelledBox <;> cases compound.holds labelled labelledText <;> rfl

/-- Only the label stands below an element, so it is what two compounds can lead to. -/
theorem filter_matchedWithin_labelled (outer inner : Css.Compound)
    : (labelled.belowRefs .document).filter (inner.matchedWithin outer labelled .document)
      = if inner.holds labelled labelledText && outer.holds labelled labelledBox
        then [.element 2] else [] := by
  have all : labelled.belowRefs .document = [.element 1, .element 2, .text (.lead 2)] := by cbv
  have inBox : labelled.belowRefs (.element 1) = [.element 2, .text (.lead 2)] := by cbv
  have inLabel : labelled.belowRefs (.element 2) = [.text (.lead 2)] := by cbv
  simp [Css.Compound.matchedWithin, List.filter_cons, all, inBox, inLabel, matched_labelled]

/-- Two queries, the first of which is trimmed, find the label in the box just as a single one does.
-/
theorem css_css_labelled
    : labelled.Reachable
      ∧ Asks (.mk none [.classed "af"]) " .af" ".af"
      ∧ Asks (.mk (some "b") []) "b" "b"
      ∧ Extracting.split " .af b" = ⟨".af b", .node⟩
      ∧ Css.Token.scan ".af " = Css.Token.scan ".af" ++ [.blank]
      ∧ ∃ above below joined,
        (css labelled .start " .af").value = .ok above
        ∧ (css labelled above "b").value = .ok below
        ∧ (css labelled .start " .af b").value = .ok joined
        ∧ below.items = joined.items
        ∧ joined.items = [.node (.element 2)] := by
  have reachable : labelled.Reachable := .fragment _
  have box : Asks (.mk none [.classed "af"]) " .af" ".af" :=
    .of_class (by decide +kernel) (by decide +kernel) rfl
  have label : Asks (.mk (some "b") []) "b" "b" :=
    .of_type "b" (by decide +kernel) (by decide +kernel) rfl
  have whole : Extracting.split " .af b" = ⟨".af b", .node⟩ := by decide +kernel
  have apart : Css.Token.scan ".af " = Css.Token.scan ".af" ++ [.blank] := by decide +kernel
  obtain ⟨above, below, joined, first, second, single, same, -, found⟩ :=
    css_css reachable box label whole apart
  refine ⟨reachable, box, label, whole, apart, above, below, joined, first, second, single, same,
    ?_⟩
  rw [found, filter_matchedWithin_labelled]
  decide +kernel

/-- Whether two compounds lead to other elements one after the other than with a blank between. -/
def Differ (document : Document) (left right : String) : Prop :=
  (∃ outer : Css.Compound, outer.Spelled (Css.Token.scan left))
    ∧ (∃ inner : Css.Compound, inner.Spelled (Css.Token.scan right))
    ∧ ∃ above below,
      (css document .start left).value = .ok above
      ∧ (css document above right).value = .ok below
      ∧ (css document .start (left ++ " " ++ right)).value.map Selection.items ≠ .ok below.items

/-- What two queries lead to is known if they ask for compounds. -/
theorem Differ.of_asks (sound : document.Sound) {outer inner : Css.Compound}
    {left right text text' : String}
    (spelled : ∃ outer : Css.Compound, outer.Spelled (Css.Token.scan left))
    (spelled' : ∃ inner : Css.Compound, inner.Spelled (Css.Token.scan right))
    (first : Asks outer left text) (second : Asks inner right text')
    (other : (css document .start (left ++ " " ++ right)).value.map Selection.items
      ≠ .ok (((document.belowRefs .document).filter
          (inner.matchedWithin outer document .document)).map Item.node))
    : Differ document left right := by
  obtain ⟨above, below, found, found', items⟩ := first.exists_below sound second
  exact ⟨spelled, spelled', above, below, found, found', items ▸ other⟩

/-- Where a blank between two compounds isn't just a combinator: it ends an escape, keeps a no-break
space from being trimmed, makes up a suffix with what is around it, or has a selector read that
would never be put to anything.
-/
theorem css_css_differ
    : Differ labelled ".a\\66" "b"
      ∧ Differ labelled ".x\u00a0" "b"
      ∧ Differ labelled "[a=\"::attr(\"]" ".b\\)"
      ∧ Differ labelled "i" "[a=\"\\1 \"]" := by
  have sound : labelled.Sound := (Document.Reachable.fragment _).sound
  have label : Asks (.mk (some "b") []) "b" "b" :=
    .of_type "b" (by decide +kernel) (by decide +kernel) rfl
  refine ⟨?escape, ?trimmed, ?suffix, ?unread⟩
  case escape =>
    have box : Asks (.mk none [.classed "af"]) ".a\\66" ".a\\66" :=
      .of_class (by decide +kernel) (by decide +kernel) rfl
    have whole : Asks (.mk none [.classed "afb"]) (".a\\66" ++ " " ++ "b") ".a\\66 b" :=
      .of_class (by decide +kernel) (by decide +kernel) rfl
    refine .of_asks sound ⟨_, box.spelled⟩ ⟨_, label.spelled⟩ box label ?_
    rw [whole.value_css_start sound, filter_matched_labelled, filter_matchedWithin_labelled]
    decide +kernel
  case trimmed =>
    have tokens : Css.Token.scan ".x\u00a0" = [.symbol '.', .ident "x\u00a0"] := by decide +kernel
    have box : Asks (.mk none [.classed "x"]) ".x\u00a0" ".x" :=
      .of_class (by decide +kernel) (by decide +kernel) rfl
    have whole : Extracting.split (".x\u00a0" ++ " " ++ "b") = ⟨".x\u00a0 b", .node⟩ := by
      decide +kernel
    have spaced : Css.Token.scan ".x\u00a0 b"
        = Css.Token.scan ".x\u00a0" ++ .blank :: Css.Token.scan "b" := by
      decide +kernel
    have joined : Css.Compound.Spelled (.mk none [.classed "x\u00a0"])
        (Css.Token.scan ".x\u00a0") :=
      Css.Compound.spelled_class tokens
    have read := Css.Group.read?_join joined label.spelled spaced
    refine .of_asks sound ⟨_, joined⟩ ⟨_, label.spelled⟩ box label ?_
    rw [value_css_start_of_read labelled whole read (by decide +kernel),
      Css.below_join sound joined label.spelled, filter_matchedWithin_labelled,
      filter_matchedWithin_labelled]
    decide +kernel
  case suffix =>
    have box : Asks (.mk none [.attribute "a" (.equal "::attr(")]) "[a=\"::attr(\"]"
        "[a=\"::attr(\"]" := by
      have tokens : Css.Token.scan "[a=\"::attr(\"]"
          = [.symbol '[', .ident "a", .symbol '=', .string "::attr(", .symbol ']'] := by
        decide +kernel
      exact ⟨by decide +kernel, Css.Compound.spelled_value tokens, by rw [tokens]; decide⟩
    have within : Asks (.mk none [.classed "b)"]) ".b\\)" ".b\\)" :=
      .of_class (by decide +kernel) (by decide +kernel) rfl
    have whole : Extracting.split ("[a=\"::attr(\"]" ++ " " ++ ".b\\)")
        = ⟨"[a=\"", .attr "\"] .b\\"⟩ := by
      decide +kernel
    have unread : Css.Group.read? "[a=\"" = none :=
      Option.isNone_iff_eq_none.mp (by decide +kernel)
    have invalid : Css.select labelled "[a=\"" (Selection.start.contexts labelled)
        = .error .invalid := by
      rw [Css.select, unread]
      rfl
    refine .of_asks sound ⟨_, box.spelled⟩ ⟨_, within.spelled⟩ box within ?_
    rw [value_css, whole, invalid, filter_matchedWithin_labelled]
    decide +kernel
  case unread =>
    have absent : Asks (.mk (some "i") []) "i" "i" :=
      .of_type "i" (by decide +kernel) (by decide +kernel) rfl
    have spelled : Css.Compound.Spelled (.mk none [.attribute "a" (.equal "\x01")])
        (Css.Token.scan "[a=\"\\1 \"]") := by
      have tokens : Css.Token.scan "[a=\"\\1 \"]"
          = [.symbol '[', .ident "a", .symbol '=', .string "\x01", .symbol ']'] := by
        decide +kernel
      exact Css.Compound.spelled_value tokens
    have spaced : Css.Token.scan "i [a=\"\\1 \"]"
        = Css.Token.scan "i" ++ .blank :: Css.Token.scan "[a=\"\\1 \"]" := by
      decide +kernel
    have read := Css.Group.read?_join absent.spelled spelled spaced
    have holds : Css.holdsForbidden (Css.Token.scan "i [a=\"\\1 \"]") = true := by decide +kernel
    have whole : Extracting.split ("i" ++ " " ++ "[a=\"\\1 \"]")
        = ⟨"i [a=\"\\1 \"]", .node⟩ := by
      decide +kernel
    have forbidden : Css.select labelled "i [a=\"\\1 \"]" (Selection.start.contexts labelled)
        = .error .forbiddenCharacter := by
      rw [Css.select, read]
      simp only [holds]
      rfl
    refine ⟨⟨_, absent.spelled⟩, ⟨_, spelled⟩, ⟨[], "i"⟩, ⟨[], _⟩, ?_,
      value_css_of_no_context rfl _, ?_⟩
    · rw [absent.value_css_start sound, filter_matched_labelled]
      rfl
    · rw [value_css, whole, forbidden]
      decide +kernel

end Selection

end HtmlQuery
