import HtmlQuery.Proofs.Css.Spelling
import HtmlQuery.Proofs.Document.Descent
import HtmlQuery.Proofs.Document.Subtrees
import HtmlQuery.Proofs.Text.LowerCase
import HtmlQuery.Proofs.XPath.Concatenation
import HtmlQuery.Proofs.XPath.NamedSteps
import HtmlQuery.Selection.Query

/-! The name of a type as a selector and as an expression that leads to all that is below. Wherever
queries start, both find the same elements, but a selector lists each element once.
-/

namespace HtmlQuery

-----------------------------------------------------------------------------------------
-- Identifiers
-----------------------------------------------------------------------------------------

/-- Whether a character can begin a lower-case identifier. -/
def startsIdentifier (c : Char) : Bool :=
  c.isLower || c == '_'

/-- Whether a character can occur in a lower-case identifier. -/
def continuesIdentifier (c : Char) : Bool :=
  c.isLower || c.isDigit || c == '_' || c == '-'

/-- Whether a text is an identifier of ASCII characters in lower case. -/
def IsIdentifier (name : String) : Prop :=
  ∃ c rest, name.toList = c :: rest ∧ startsIdentifier c = true
    ∧ ∀ d ∈ rest, continuesIdentifier d = true

/-- The characters of identifiers are names wherever names are read, and in lower case: each of them
is looked up.
-/
theorem identifier_table
    : ((List.range 128).map Char.ofNat).all (fun c =>
        (!startsIdentifier c
          || (continuesIdentifier c && Text.isNameStart c && Css.isNameStart c && c != '-'))
        && (!continuesIdentifier c
          || (XPath.Token.isNamePart c && Css.isNamePart c && !Document.isForbidden c
            && c != '\\' && Text.lowerChar c == c && !Css.isSpace c)))
      = true := by
  decide +kernel

theorem toNat_lt_of_continuesIdentifier {c : Char} (inside : continuesIdentifier c = true)
    : c.toNat < 128 := by
  simp only [continuesIdentifier, Bool.or_eq_true, beq_iff_eq] at inside
  rcases inside with ((inside | inside) | rfl) | rfl
  · have between : (decide ('a'.val ≤ c.val) && decide (c.val ≤ 'z'.val)) = true := inside
    simp only [Bool.and_eq_true, decide_eq_true_eq, UInt32.le_iff_toNat_le] at between
    have last : 'z'.val.toNat = 122 := rfl
    have same : c.toNat = c.val.toNat := rfl
    omega
  · simp only [Char.isDigit, Bool.and_eq_true, decide_eq_true_eq, UInt32.le_iff_toNat_le] at inside
    have last : '9'.val.toNat = 57 := rfl
    have same : c.toNat = c.val.toNat := rfl
    omega
  · decide
  · decide

/-- What holds for a character of identifiers. -/
structure Continues (c : Char) : Prop where
  path : XPath.Token.isNamePart c = true
  selector : Css.isNamePart c = true
  allowed : Document.isForbidden c = false
  uncovered : c ≠ '\\'
  low : Text.lowerChar c = c
  visible : Css.isSpace c = false

theorem continues_of_continuesIdentifier {c : Char} (inside : continuesIdentifier c = true)
    : Continues c := by
  have member : c ∈ (List.range 128).map Char.ofNat := by
    rw [List.mem_map]
    exact ⟨c.toNat, List.mem_range.mpr (toNat_lt_of_continuesIdentifier inside), Char.ofNat_toNat c⟩
  have row := List.all_eq_true.mp identifier_table c member
  simp only [inside, Bool.and_eq_true, Bool.not_true, Bool.false_or, bne_iff_ne, beq_iff_eq,
    Bool.not_eq_true'] at row
  obtain ⟨-, ⟨⟨⟨⟨path, selector⟩, allowed⟩, uncovered⟩, low⟩, visible⟩ := row
  exact ⟨path, selector, allowed, uncovered, low, visible⟩

theorem names_of_startsIdentifier {c : Char} (starts : startsIdentifier c = true)
    : continuesIdentifier c = true ∧ Text.isNameStart c = true ∧ Css.isNameStart c = true
      ∧ c ≠ '-' := by
  have inside : continuesIdentifier c = true := by
    simp only [startsIdentifier, continuesIdentifier, Bool.or_eq_true] at starts ⊢
    tauto
  have member : c ∈ (List.range 128).map Char.ofNat := by
    rw [List.mem_map]
    exact ⟨c.toNat, List.mem_range.mpr (toNat_lt_of_continuesIdentifier inside), Char.ofNat_toNat c⟩
  have row := List.all_eq_true.mp identifier_table c member
  simp only [starts, Bool.and_eq_true, Bool.not_true, Bool.false_or, bne_iff_ne] at row
  obtain ⟨⟨⟨⟨-, path⟩, selector⟩, hyphen⟩, -⟩ := row
  exact ⟨inside, path, selector, hyphen⟩

-----------------------------------------------------------------------------------------
-- Identifiers as texts
-----------------------------------------------------------------------------------------

/-- Lowering changes nothing. -/
theorem lowerFrom_of_continues (before : List Char) {text : List Char}
    (inside : ∀ c ∈ text, continuesIdentifier c = true)
    : Text.lowerFrom before text = text := by
  refine Text.lowerFrom_of_settled before fun c member => ?_
  have small := toNat_lt_of_continuesIdentifier (inside c member)
  exact ⟨by omega, by omega, (continues_of_continuesIdentifier (inside c member)).low⟩

namespace Css

theorem nameExtent_of_continues {text : List Char}
    (inside : ∀ c ∈ text, continuesIdentifier c = true)
    : nameExtent text = text.length := by
  induction text with
  | nil => rw [nameExtent, List.length_nil]
  | cons c rest ih =>
      obtain ⟨-, part, -, uncovered, -, -⟩ :=
        continues_of_continuesIdentifier (inside c List.mem_cons_self)
      rw [nameExtent, if_neg uncovered, if_pos part, List.length_cons, Nat.add_comm,
        ih fun d member => inside d (List.mem_cons_of_mem c member)]

/-- Without a backslash, nothing is resolved by code point. -/
theorem resolvePoints_of_uncovered {text : List Char} (uncovered : '\\' ∉ text)
    : resolvePoints text = text := by
  induction text with
  | nil => rw [resolvePoints]
  | cons c rest ih =>
      obtain ⟨other, uncovered⟩ := not_or.mp (List.mem_cons.not.mp uncovered)
      rw [resolvePoints, if_neg (by simp [Ne.symm other]), ih uncovered]

theorem resolveCovers_of_uncovered {text : List Char} (uncovered : '\\' ∉ text)
    : resolveCovers text = text := by
  induction text with
  | nil => rfl
  | cons c rest ih =>
      obtain ⟨other, uncovered⟩ := not_or.mp (List.mem_cons.not.mp uncovered)
      cases rest with
      | nil => rfl
      | cons d rest => rw [resolveCovers, if_neg (by simp [Ne.symm other]), ih uncovered]

theorem resolve_of_uncovered {text : List Char} (uncovered : '\\' ∉ text)
    : resolve text = String.ofList text := by
  rw [resolve, resolvePoints_of_uncovered uncovered, resolveCovers_of_uncovered uncovered]

end Css

theorem IsIdentifier.continues {name : String} (identifier : IsIdentifier name)
    : ∀ c ∈ name.toList, continuesIdentifier c = true := by
  obtain ⟨c, rest, shape, starts, others⟩ := identifier
  rw [shape]
  rintro d (- | member)
  · exact (names_of_startsIdentifier starts).1
  · exact others d ‹_›

theorem IsIdentifier.lowered_eq {name : String} (identifier : IsIdentifier name)
    : name.lowered = name := by
  rw [String.lowered, Text.lower, lowerFrom_of_continues [] identifier.continues,
    String.ofList_toList]

/-- As a selector, an identifier is a single token. -/
theorem IsIdentifier.scan_eq {name : String} (identifier : IsIdentifier name)
    : Css.Token.scan name = [.ident name] := by
  have uncovered : '\\' ∉ name.toList := fun member =>
    (continues_of_continuesIdentifier (identifier.continues _ member)).uncovered rfl
  have extent := Css.nameExtent_of_continues identifier.continues
  obtain ⟨c, rest, shape, starts, others⟩ := identifier
  obtain ⟨inside, -, begins, hyphen⟩ := names_of_startsIdentifier starts
  obtain ⟨-, -, -, escape, -, visible⟩ := continues_of_continuesIdentifier inside
  have whole : Css.identExtent (c :: rest) = (c :: rest).length := by
    rw [← shape, ← extent, shape]
    rw [Css.identExtent]
    · simp [Css.startsName, escape, begins]
    · rintro rest' ⟨⟩
      exact hyphen rfl
  have resolved : Css.resolve (c :: rest) = name := by
    rw [← shape, Css.resolve_of_uncovered uncovered, String.ofList_toList]
  have front : Css.Token.front c rest = (some (.ident name), rest.length) := by
    rw [Css.Token.front]
    simp only [visible, whole, Css.named, Bool.false_eq_true, if_false, List.take_length,
      List.drop_zero, resolved]
    simp
  rw [Css.Token.scan, shape, Css.Token.scanFrom, front]
  simp [Css.Token.scanFrom]

-----------------------------------------------------------------------------------------
-- The names of types
-----------------------------------------------------------------------------------------

/-- What a name of a type demands: a star any element, an identifier elements with this tag. -/
inductive TypeName : String → Option String → XPath.NodeTest → Prop
  | any : TypeName "*" none .anyName
  | named {name} (identifier : IsIdentifier name) : TypeName name (some name) (.name name)

/-- Behind two slashes, the name of a type is read as a step to all that is below. -/
theorem TypeName.covers {name : String} {type : Option String} {test : XPath.NodeTest}
    (typed : TypeName name type test)
    : XPath.Path.Covers ⟨[⟨.descendant, test, []⟩], "", []⟩ ("//" ++ name) := by
  cases typed with
  | any =>
      have scanned : XPath.Token.scan ("//" ++ "*")
          = [⟨0, .doubleSlash, "//"⟩, ⟨2, .asterisk, "*"⟩] := by
        decide +kernel
      refine XPath.Path.covers_iff.mpr ⟨by simp, [], ?_, rfl⟩
      rw [scanned, XPath.Steps.read_cons, XPath.Step.read_eq]
      decide +kernel
  | named identifier =>
      have lexeme : XPath.Token.IsLexeme .name name.toList := by
        obtain ⟨c, rest, shape, starts, others⟩ := identifier
        rw [shape]
        exact .single (names_of_startsIdentifier starts).2.1 fun d member =>
          (continues_of_continuesIdentifier (others d member)).path
      exact XPath.Path.covers_descendants name lexeme identifier.lowered_eq

/-- As a selector, the name of a type is a compound without conditions. -/
theorem TypeName.read?_eq {name : String} {type : Option String} {test : XPath.NodeTest}
    (typed : TypeName name type test)
    : Css.Group.read? name = some [.compound (.mk type [])]
      ∧ Css.holdsForbidden (Css.Token.scan name) = false := by
  cases typed with
  | any =>
      have scanned : Css.Token.scan "*" = [.symbol '*'] := by decide +kernel
      refine ⟨Css.Group.read?_compound ?_, by rw [scanned]; rfl⟩
      rw [scanned]
      exact .mk .any .nil (by simp)
  | named identifier =>
      have scanned := identifier.scan_eq
      have spelled := Css.Compound.spelled_type scanned
      rw [identifier.lowered_eq] at spelled
      refine ⟨Css.Group.read?_compound spelled, ?_⟩
      rw [scanned]
      simpa [Css.holdsForbidden] using fun c member =>
        (continues_of_continuesIdentifier (identifier.continues c member)).allowed

-----------------------------------------------------------------------------------------
-- Tags in lower case
-----------------------------------------------------------------------------------------

namespace Document

/-- Whether the tags of all elements that ever belonged to the document are in lower case. -/
def LowTags (document : Document) : Prop :=
  ∀ branch ∈ Branch.allAmong document.branches, ∀ tag attributes,
    branch.kind = .element tag attributes → tag.lowered = tag

/-- Elements below a node have tags in lower case if all elements of the document have. -/
theorem LowTags.lowered_eq {document : Document} (low : document.LowTags) (sound : document.Sound)
    {ref : NodeRef} {id : Nat} {tag : String} {attributes : List Attribute}
    (below : .element id tag attributes ∈ document.along Tree.Place.descendants ref)
    : tag.lowered = tag := by
  obtain ⟨branch, member, shows⟩ := shows_of_mem_descendants sound below
  cases shows with
  | element kind => exact low branch member tag attributes kind

end Document

-----------------------------------------------------------------------------------------
-- Elements below items
-----------------------------------------------------------------------------------------

/-- The elements with a type that are below an item. -/
def Item.elementsBelow (document : Document) (type : Option String) : Item → List NodeRef
  | .node ref =>
      ((Css.elementsOf (document.along Tree.Place.descendants ref)).filter (Css.hasType type)).map
        Node.ref
  | .text _ => []

/-- Where no selector starts from, there are no elements below. -/
theorem elementsBelow_of_not_context {document : Document} {type : Option String} {item : Item}
    (other : Css.isContext item = false)
    : item.elementsBelow document type = [] := by
  cases item with
  | text value => rfl
  | node ref =>
      cases ref with
      | document | element => cases other
      | text slot => rw [Item.elementsBelow, document.along_descendants_text]; rfl

/-- A selector that demands a type finds the elements below an item that have it. -/
theorem startingAt_eq (document : Document) (type : Option String) (item : Item)
    : Css.Group.startingAt [.compound (.mk type [])] document item
      = item.elementsBelow document type := by
  cases item with
  | text value => rfl
  | node ref =>
      rw [Css.Group.startingAt, Css.Group.below, Item.elementsBelow]
      congr 1
      apply List.filter_congr
      intro node member
      have inside : node ∈ Css.elementsOf (document.along Tree.Place.descendants ref) := member
      simp [Css.Complex.reach, Css.Compound.among, Css.Combinator.elements, Css.allHold, inside]

/-- A step to what is below finds the elements below some items that pass its test, one item after
the other.
-/
theorem select_below {document : Document} (sound : document.Sound) (low : document.LowTags)
    {name : String} {type : Option String} {test : XPath.NodeTest}
    (typed : TypeName name type test) (items : List Item)
    : XPath.Step.select document ⟨.descendant, test, []⟩ items
      = .ok ((items.flatMap (Item.elementsBelow document type)).map Item.node) := by
  have same (ref : NodeRef)
      : ((XPath.Axis.descendant.nodes document ref).filter test.accepts).map Node.ref
        = Item.elementsBelow document type (.node ref) := by
    rw [XPath.Axis.nodes, Item.elementsBelow, Css.elementsOf, List.filter_filter]
    congr 1
    apply List.filter_congr
    intro node member
    cases node with
    | element id tag attributes =>
        have tagged := low.lowered_eq sound member
        cases typed <;> simp [XPath.NodeTest.accepts, Css.hasType, Css.tagOf, tagged]
    | document | text => cases typed <;> simp [XPath.NodeTest.accepts]
  rw [XPath.Step.select_unfiltered document (by decide)]
  simp only [same]
  congr 2
  induction items with
  | nil => rfl
  | cons item rest ih =>
      cases item with
      | text value => exact ih
      | node ref => exact congrArg (Item.elementsBelow document type (.node ref) ++ ·) ih

/-- Leaving out repetitions and renaming can be done in any order, by induction on first occurrences.
-/
theorem eraseDups_map {α β : Type} [DecidableEq α] [DecidableEq β] {f : α → β}
    (injective : f.Injective) (items : List α)
    : (items.map f).eraseDups = items.eraseDups.map f := by
  induction items using firstOccurrences_induction with
  | nil => rfl
  | cons item rest ih =>
      rw [List.map_cons, List.eraseDups_cons, List.eraseDups_cons, List.map_cons, ← ih,
        List.filter_map]
      congr 3
      apply List.filter_congr
      intro other _
      simp [injective.eq_iff]

/--
Whatever a query starts from, the name of a type finds the same elements as a selector and behind
two slashes as an expression, where all but the first occurrence of each element are to be left out.
-/
theorem select_type {document : Document} (reachable : document.Reachable) (low : document.LowTags)
    {name : String} (named : name = "*" ∨ IsIdentifier name) (items : List Item)
    : ∃ found refs,
      XPath.outcome document ("//" ++ name) items = .ok found
      ∧ Css.select document name items = .ok refs
      ∧ refs.map Item.node = found.eraseDups := by
  obtain ⟨type, test, typed⟩ : ∃ type test, TypeName name type test := by
    rcases named with rfl | identifier
    · exact ⟨_, _, .any⟩
    · exact ⟨_, _, .named identifier⟩
  have found : XPath.outcome document ("//" ++ name) items
      = .ok ((items.flatMap (Item.elementsBelow document type)).map Item.node) := by
    rw [XPath.outcome_of_covers typed.covers, XPath.Path.select, XPath.Path.selectSteps,
      select_below reachable.sound low typed]
    rfl
  have selected : Css.select document name items
      = .ok (items.flatMap (Item.elementsBelow document type)).eraseDups := by
    obtain ⟨read, allowed⟩ := typed.read?_eq
    rw [Css.select, read, allowed]
    simp only [Bool.false_eq_true, if_false]
    split
    · rename_i without
      rw [Bool.not_eq_true', List.any_eq_false] at without
      have nothing : items.flatMap (Item.elementsBelow document type) = [] :=
        List.flatMap_eq_nil_iff.mpr fun item member =>
          elementsBelow_of_not_context (Bool.eq_false_iff.mpr (without item member))
      rw [nothing, List.eraseDups_nil]
    · rw [funext (startingAt_eq document type)]
  exact ⟨_, _, found, selected, (eraseDups_map (fun _ _ => Item.node.inj) _).symm⟩

-----------------------------------------------------------------------------------------
-- Nested and repeated items
-----------------------------------------------------------------------------------------

/-- Two nested elements of one type around a text. -/
def nestedPair : Document :=
  .fragment [.element "b" [] [.element "b" [] [.text "x"]]]

/-- The inner element is below all nodes and found twice, but selected once. -/
theorem select_type_nested
    : nestedPair.Reachable ∧ nestedPair.LowTags ∧ IsIdentifier "b"
      ∧ ∃ found refs,
        XPath.outcome nestedPair ("//" ++ "b")
          [.node (.element 1), .text "x", .node (.text (.lead 2)), .node .document] = .ok found
        ∧ Css.select nestedPair "b"
          [.node (.element 1), .text "x", .node (.text (.lead 2)), .node .document] = .ok refs
        ∧ refs.map Item.node = found.eraseDups
        ∧ found = [.node (.element 2), .node (.element 1), .node (.element 2)]
        ∧ refs = [.element 2, .element 1] := by
  have reachable : nestedPair.Reachable := .fragment _
  have low : nestedPair.LowTags := by
    intro branch member tag attributes kind
    simp only [nestedPair, Document.fragment, Content.plant, Document.branches, Branch.allAmong,
      List.append_nil, List.mem_cons, List.not_mem_nil, or_false] at member
    rcases member with rfl | rfl | rfl <;> (cases kind; decide +kernel)
  have identifier : IsIdentifier "b" := ⟨'b', [], rfl, by decide, by simp⟩
  obtain ⟨found, refs, evaluated, selected, same⟩ := select_type reachable low (.inr identifier)
    [.node (.element 1), .text "x", .node (.text (.lead 2)), .node .document]
  have twice : XPath.outcome nestedPair ("//" ++ "b")
      [.node (.element 1), .text "x", .node (.text (.lead 2)), .node .document]
      = .ok [.node (.element 2), .node (.element 1), .node (.element 2)] := by
    have top : XPath.Axis.descendant.nodes nestedPair .document
        = [.element 1 "b" [], .element 2 "b" [], .text (.lead 2) "x"] := by
      cbv
    have outer : XPath.Axis.descendant.nodes nestedPair (.element 1)
        = [.element 2 "b" [], .text (.lead 2) "x"] := by
      cbv
    have text : XPath.Axis.descendant.nodes nestedPair (.text (.lead 2)) = [] := by cbv
    rw [XPath.outcome_of_covers (TypeName.named identifier).covers,
      XPath.Path.select_unfiltered nestedPair (by decide)]
    simp only [Item.ref?, List.filterMap_cons, List.flatMap_cons, top, outer, text]
    exact congrArg Except.ok (by decide +kernel)
  obtain rfl := Except.ok.inj (evaluated.symm.trans twice)
  have once : refs = [.element 2, .element 1] := by
    refine (List.map_inj_right fun _ _ => Item.node.inj).mp (same.trans ?_)
    decide
  exact ⟨reachable, low, identifier, _, refs, evaluated, selected, same, rfl, once⟩

end HtmlQuery
