import HtmlQuery.Proofs.Selection.QueriedNodes
import HtmlQuery.Proofs.Text.LowerCase
import HtmlQuery.Proofs.XPath.Decisions
import HtmlQuery.Proofs.XPath.NamedSteps

/-! Reading an attribute: with a step, in a predicate, and with the suffix of a query. All of them
find the same if attributes are kept under names in lower case.
-/

namespace HtmlQuery

-----------------------------------------------------------------------------------------
-- Attributes under names in lower case
-----------------------------------------------------------------------------------------

namespace Attribute

/-- Attributes that differ in their names, all of which are in lower case. -/
structure LowNames (attributes : List Attribute) : Prop where
  distinct : (attributes.map name).Nodup
  low : ∀ entry ∈ attributes, entry.name.lowered = entry.name

variable {attributes : List Attribute}

/-- At most one attribute has a name, by induction on the attributes. -/
theorem filter_name_eq (distinct : (attributes.map name).Nodup) (wanted : String)
    : (attributes.filter fun entry => entry.name == wanted).map value
      = (valueOf? attributes wanted).toList := by
  induction attributes with
  | nil => rfl
  | cons entry rest ih =>
      obtain ⟨new, others⟩ := List.nodup_cons.mp distinct
      by_cases same : entry.name = wanted
      · subst same
        have none : rest.filter (fun other => other.name == entry.name) = [] := by
          refine List.filter_eq_nil_iff.mpr fun other member => ?_
          rw [beq_iff_eq]
          exact fun same => new (same ▸ List.mem_map_of_mem member)
        simp [valueOf?, none]
      · have later := ih others
        simpa [valueOf?, same] using later

/-- Only the name in lower case can be found. -/
theorem LowNames.lookup?_eq (low : LowNames attributes) (wanted : String)
    : lookup? attributes wanted = valueOf? attributes wanted.lowered := by
  rw [lookup?]
  cases found : valueOf? attributes wanted with
  | none => rfl
  | some value =>
      obtain ⟨entry, first, rfl⟩ := Option.map_eq_some_iff.mp found
      have same : entry.name = wanted := by simpa using List.find?_some first
      have known := low.low entry (List.mem_of_find?_eq_some first)
      rw [same] at known
      rw [known, found, Option.some_or]

/-- A step by name accepts the attribute that looking up the name finds. -/
theorem LowNames.filter_acceptsAttribute (low : LowNames attributes) (wanted : String)
    : (attributes.filter (XPath.NodeTest.name wanted.lowered).acceptsAttribute).map value
      = (lookup? attributes wanted).toList := by
  have same : attributes.filter (XPath.NodeTest.name wanted.lowered).acceptsAttribute
      = attributes.filter fun entry => entry.name == wanted.lowered :=
    List.filter_congr fun entry member => by
      rw [XPath.NodeTest.acceptsAttribute, low.low entry member]
  rw [same, filter_name_eq low.distinct, low.lookup?_eq]

end Attribute

namespace Document

/-- Whether the attributes of all elements that ever belonged to the document differ in their names,
all of which are in lower case.
-/
def LowAttributes (document : Document) : Prop :=
  ∀ branch ∈ Branch.allAmong document.branches, ∀ tag attributes,
    branch.kind = .element tag attributes → Attribute.LowNames attributes

theorem LowAttributes.lowNames {document : Document} (low : document.LowAttributes) (ref : NodeRef)
    : Attribute.LowNames (document.attributes ref) := by
  have nothing : Attribute.LowNames [] := ⟨.nil, by simp⟩
  unfold attributes
  split
  · rename_i id tag attributes known
    cases ref with
    | document => cases known
    | text slot => cases known
    | element number =>
        rw [node?] at known
        split at known
        · rename_i found
          cases known
          exact low _ (Branch.mem_numbers_of_findAmong? found).1 tag attributes rfl
        · cases known
  · exact nothing

end Document

namespace Selection

open HtmlQuery.XPath

variable {document : Document} {name : String}

/-- A document and texts have no attributes. -/
theorem attributes_of_not_element {ref : NodeRef} (other : ∀ id, ref ≠ .element id)
    : document.attributes ref = [] := by
  unfold Document.attributes
  split
  · rename_i id tag attributes known
    cases ref with
    | document => cases known
    | text slot => cases known
    | element number => exact (other number rfl).elim
  · rfl

/-- Names of path expressions can be taken from all nodes. -/
theorem ofNode_attr (named : Token.IsLexeme .name name.toList) (document : Document) (ref : NodeRef)
    : (Extraction.attr name).ofNode document ref
      = .ok (Attribute.lookup? (document.attributes ref) name) := by
  cases ref with
  | element id => exact Attribute.lookup_of_name named _
  | document | text =>
      rw [attributes_of_not_element (by simp)]
      rfl

/-- A step to an attribute reads what looking up its name finds. -/
theorem selectFrom_attribute (low : document.LowAttributes) (name : String) (ref : NodeRef)
    : Step.selectFrom document ⟨.attributes, .name name.lowered, []⟩ ref
      = .ok ((Attribute.lookup? (document.attributes ref) name).toList.map .text) := by
  rw [Step.selectFrom, if_pos rfl, ← (low.lowNames ref).filter_acceptsAttribute, List.map_map]
  rfl

/-- A step to an attribute reads the same from nodes as the suffix for it, by induction on the nodes.
-/
theorem select_attribute (low : document.LowAttributes) (named : Token.IsLexeme .name name.toList)
    {items : List Item} (nodes : ∀ item ∈ items, isText item = false)
    : ∃ taken,
      (Extraction.attr name).apply document items = .ok taken
      ∧ Step.select document ⟨.attributes, .name name.lowered, []⟩ items = .ok taken := by
  induction items with
  | nil => exact ⟨[], rfl, rfl⟩
  | cons item rest ih =>
      obtain ⟨taken, applied, selected⟩ := ih fun other member =>
        nodes other (List.mem_cons_of_mem item member)
      cases item with
      | text value => cases nodes (.text value) List.mem_cons_self
      | node ref =>
          refine ⟨(Attribute.lookup? (document.attributes ref) name).toList.map .text ++ taken, ?_, ?_⟩
          · obtain ⟨values, found, rfl⟩ := ok_of_map applied
            unfold Extraction.apply
            rw [List.mapM_cons, Extraction.ofItem, ofNode_attr named, found]
            cases Attribute.lookup? (document.attributes ref) name <;> rfl
          · rw [Step.select, selectFrom_attribute low, selected]
            rfl

/-- An expression for an attribute reads it from a node. -/
theorem outcome_attribute (low : document.LowAttributes)
    (named : Token.IsLexeme .name name.toList) (ref : NodeRef)
    : outcome document ("@" ++ name) [.node ref]
      = .ok ((Attribute.lookup? (document.attributes ref) name).toList.map .text) := by
  obtain ⟨path, covers, steps⟩ := Path.exists_covers_attribute named
  rw [outcome_of_covers covers, Path.select, steps, Path.selectSteps, Step.select,
    selectFrom_attribute low, Step.select]
  simp [Path.selectSteps, Except.mapError, bind, Except.bind]

-----------------------------------------------------------------------------------------
-- Queries for an attribute
-----------------------------------------------------------------------------------------

/-- Names hold neither white space nor parentheses, and at most one colon. -/
theorem name_facts (named : Token.IsLexeme .name name.toList)
    : Text.Unpadded name.toList
      ∧ ')' ∉ name.toList
      ∧ '(' ∉ name.toList
      ∧ ¬"::text".toList <:+ name.toList := by
  have visible := Token.isBlank_of_mem_name named
  have colons := Token.Joined.count_le (by decide) (by decide) named
  refine ⟨⟨fun c first => visible c (List.mem_of_head? first),
      fun c last => visible c (List.mem_of_getLast? last)⟩,
    Token.not_mem_name named (by decide) (by decide) (by decide),
    Token.not_mem_name named (by decide) (by decide) (by decide), ?_⟩
  intro suffix
  have two : "::text".toList.count ':' = 2 := by decide
  have fewer := suffix.sublist.count_le ':'
  omega

/-- A query with the suffix for an attribute takes it from what the query without it leads to. -/
theorem value_xpath_attr {selection : Selection} {query : String} {path : XPath.Path}
    (covers : path.Covers query) (absent : ¬Extracting.opening <:+: query.toList)
    (named : Token.IsLexeme .name name.toList)
    : (xpath document selection (query ++ ("::attr(" ++ name ++ ")"))).value
      = match path.select document (selection.contexts document) with
        | .ok items =>
            (take document (.attr name) items).map fun items =>
              ⟨items, query ++ ("::attr(" ++ name ++ ")")⟩
        | .error fault => .error (.path fault) := by
  obtain ⟨c, member, visible⟩ := covers.exists_visible
  obtain ⟨front, text, back, shape, blank, blank', some, unpadded⟩ :=
    Text.exists_unpadded member visible
  obtain ⟨unpadded', inner, -, -⟩ := name_facts named
  have named' : name.toList ≠ [] := Token.ne_nil_of_isLexeme named
  obtain ⟨trimmed, covers', steps⟩ := covers.unpadded shape blank blank'
  have nothing : ∀ c ∈ ([] : List Char), Text.isBlank c = true := by simp
  have whole : (query ++ ("::attr(" ++ name ++ ")")).toList
      = front ++ ((text ++ (back ++ (Extracting.opening ++ (name.toList ++ [')'])))) ++ []) := by
    simp [shape, Extracting.opening]
  have bars := covers.barPositions_attr named
  have alone := branches_of_no_bars whole blank nothing
    (Extracting.unpadded_attr unpadded some back name.toList) (by simp [some]) bars
  have absent' : ¬Extracting.opening <:+: text ++ back := fun inside =>
    absent (inside.trans ⟨front, [], by simp [shape]⟩)
  have taken := Extracting.split_attr unpadded some blank' (.of_absent absent') named' inner
  rw [unpadded'.trim_eq, String.ofList_toList] at taken
  rw [value_xpath_single alone, branchOutcome_eq, pathOf, taken, outcome_of_covers covers',
    Path.select, steps, ← Path.select]
  cases path.select document (selection.contexts document) with
  | error fault => rfl
  | ok items =>
      simp only [Except.mapError]
      cases take document (.attr name) items <;> rfl

/-- An expression that is read to its end and doesn't end like a suffix leads to what it selects. -/
theorem value_xpath_plain {selection : Selection} {query : String} {path : XPath.Path}
    (covers : path.Covers query) (noText : ¬"::text".toList <:+ query.toList)
    (last : ∀ c ∈ query.toList.getLast?, Text.isBlank c = false ∧ c ≠ ')')
    : (xpath document selection query).value
      = match path.select document (selection.contexts document) with
        | .ok items => .ok ⟨items, query⟩
        | .error fault => .error (.path fault) := by
  obtain ⟨inner, covers', steps⟩ := covers.trimmed
  rw [value_xpath_taken covers (Extracting.split_of_other_end noText last) covers', Path.select,
    steps]
  rfl

/-- A name ends neither with white space nor with a parenthesis. -/
theorem last_of_name (named : Token.IsLexeme .name name.toList) (front : String)
    : ∀ c ∈ (front ++ name).toList.getLast?, Text.isBlank c = false ∧ c ≠ ')' := by
  obtain ⟨unpadded, inner, -, -⟩ := name_facts named
  intro c last
  rw [String.toList_append, List.getLast?_append,
    List.getLast?_eq_some_getLast (Token.ne_nil_of_isLexeme named), Option.some_or,
    ← List.getLast?_eq_some_getLast] at last
  refine ⟨unpadded.last c last, ?_⟩
  rintro rfl
  exact inner (List.mem_of_getLast? last)

/-- A query goes on with another expression from what it selects on its own. -/
theorem value_xpath_next (reachable : document.Reachable) {selection : Selection}
    {query more : String} {path next : XPath.Path} (covers : path.Covers query)
    (covers' : next.Covers more) (separated : Separated (Token.scan more))
    (noText : ¬"::text".toList <:+ (query ++ more).toList)
    (last : ∀ c ∈ (query ++ more).toList.getLast?, Text.isBlank c = false ∧ c ≠ ')')
    : (xpath document selection (query ++ more)).value
      = match path.select document (selection.contexts document) with
        | .error fault => .error (.path fault)
        | .ok items =>
            match next.select document items with
            | .ok items => .ok ⟨items, query ++ more⟩
            | .error fault => .error (.path fault) := by
  obtain ⟨whole, complete, joined⟩ := Path.covers_append covers covers' separated
  obtain ⟨some, -⟩ := Path.covers_iff.mp covers'
  rw [value_xpath_plain complete noText last, Path.select_append reachable.sound some joined]
  cases path.select document (selection.contexts document) <;> rfl

/-- The same query with a step to the attribute leads to it from there. -/
theorem value_xpath_step (reachable : document.Reachable) (low : document.LowAttributes)
    {selection : Selection} {query : String} {path : XPath.Path} (covers : path.Covers query)
    (named : Token.IsLexeme .name name.toList)
    (nodes
      : ∀ items, path.select document (selection.contexts document) = .ok items →
          ∀ item ∈ items, isText item = false)
    : (xpath document selection (query ++ ("/@" ++ name))).value
      = match path.select document (selection.contexts document) with
        | .ok items =>
            (take document (.attr name) items).map fun items => ⟨items, query ++ ("/@" ++ name)⟩
        | .error fault => .error (.path fault) := by
  obtain ⟨-, -, -, noText⟩ := name_facts named
  obtain ⟨separated, next, covers', steps⟩ := Path.exists_covers_next_attribute named
  have shape : (query ++ ("/@" ++ name)).toList = query.toList ++ ['/'] ++ '@' :: name.toList := by
    simp
  have noText' : ¬"::text".toList <:+ (query ++ ("/@" ++ name)).toList :=
    shape ▸ Extracting.not_suffix_append (by decide) noText
  have last := last_of_name named (query ++ "/@")
  rw [String.append_assoc] at last
  rw [value_xpath_next reachable covers covers' separated noText' last]
  cases found : path.select document (selection.contexts document) with
  | error fault => rfl
  | ok items =>
      obtain ⟨taken, applied, selected⟩ := select_attribute low named (nodes items found)
      have last : next.select document items = .ok taken := by
        rw [Path.select, steps, Path.selectSteps, selected]
        rfl
      simp only [last, take_eq_ok.mpr applied]
      rfl

-----------------------------------------------------------------------------------------
-- The three ways
-----------------------------------------------------------------------------------------

/-- What predicates for an attribute tell of an element is what a step to the attribute finds there.
-/
theorem decides_attribute (low : document.LowAttributes) (named : Token.IsOperandName name)
    {candidate : Candidate} {id : Nat} {tag : String} {attributes : List Attribute}
    (element : candidate.node = .element id tag attributes)
    (known : document.node? (.element id) = some (.element id tag attributes))
    : ∃ found : List Item,
      outcome document ("@" ++ name) [.node (.element id)] = .ok found
      ∧ Decides document candidate (Token.attributeOf name) (!found.isEmpty)
      ∧ ∀ value token, (Literal.text value).Spelled token →
        Decides document candidate (Token.attributeOf name ++ [Token.sign .equal, token])
          (found == [.text value])
        ∧ Decides document candidate (Token.attributeOf name ++ [Token.sign .unequal, token])
          (found != [.text value]) := by
  have own : document.attributes (.element id) = attributes := by rw [Document.attributes, known]
  refine ⟨_, outcome_attribute low named.1 (.element id), ?_, fun value token literal => ⟨?_, ?_⟩⟩
  · refine decides_of_spelled (.hasAttribute named) ?_
    simp only [Predicate.holds, element, own]
    cases Attribute.lookup? attributes name <;> rfl
  · refine decides_of_spelled (.comparison (.attributeIs named .equal) literal) ?_
    simp only [Predicate.holds, element, own]
    cases Attribute.lookup? attributes name with
    | none => rfl
    | some actual => simp [Equality.holds]
  · refine decides_of_spelled (.comparison (.attributeIs named .unequal) literal) ?_
    simp only [Predicate.holds, element, own]
    cases Attribute.lookup? attributes name with
    | none => rfl
    | some actual => simp [Equality.holds, bne]

/--
In a document that keeps attributes under names in lower case, a name other than the words of the
connectives reads an attribute alike in three ways. Predicates for it hold for an element just if the
step to it finds it there, with a value or another one. And behind an expression that is read to its
end, holds no suffix for attributes and only leads to nodes, the suffix takes the same as the step.
-/
theorem attribute_readings_agree (reachable : document.Reachable) (low : document.LowAttributes)
    (named : Token.IsOperandName name)
    : (∀ id tag attributes position size,
        document.node? (.element id) = some (.element id tag attributes) →
        ∃ found : List Item,
          outcome document ("@" ++ name) [.node (.element id)] = .ok found
          ∧ Decides document ⟨.element id tag attributes, position, size⟩
            (Token.attributeOf name) (!found.isEmpty)
          ∧ ∀ value token, (Literal.text value).Spelled token →
            Decides document ⟨.element id tag attributes, position, size⟩
              (Token.attributeOf name ++ [Token.sign .equal, token]) (found == [.text value])
            ∧ Decides document ⟨.element id tag attributes, position, size⟩
              (Token.attributeOf name ++ [Token.sign .unequal, token]) (found != [.text value]))
      ∧ ∀ (selection : Selection) (query : String),
        (∃ path : XPath.Path, path.Covers query) →
        ¬"::attr(".toList <:+: query.toList →
        (∀ items, outcome document query (selection.contexts document) = .ok items →
          ∀ item ∈ items, isText item = false) →
        (xpath document selection (query ++ ("::attr(" ++ name ++ ")"))).value.map items
            = (xpath document selection (query ++ ("/@" ++ name))).value.map items
          ∧ ∀ items, outcome document query (selection.contexts document) = .ok items →
            ∃ taken,
              (Extraction.attr name).apply document items = .ok taken
              ∧ (xpath document selection (query ++ ("::attr(" ++ name ++ ")"))).value
                = .ok ⟨taken, query ++ ("::attr(" ++ name ++ ")")⟩ := by
  refine ⟨fun id tag attributes position size known => decides_attribute low named rfl known, ?_⟩
  rintro selection query ⟨path, covers⟩ absent nodes
  simp only [outcome_of_covers covers, mapError_eq_ok] at nodes ⊢
  rw [value_xpath_attr covers absent named.1,
    value_xpath_step reachable low covers named.1 nodes]
  cases selects : path.select document (selection.contexts document) with
  | error fault => exact ⟨rfl, by simp⟩
  | ok selected =>
      obtain ⟨taken, applied, -⟩ := select_attribute low named.1 (nodes selected selects)
      simp only [take_eq_ok.mpr applied, Except.ok.injEq, forall_eq']
      exact ⟨rfl, taken, applied, rfl⟩

/-- A link with an address and one without. -/
def links : Document :=
  .fragment [.element "a" [⟨"href", "x", false⟩] [], .element "a" [] [.text "y"]]

theorem lowAttributes_links : links.LowAttributes := by
  intro branch member tag attributes kind
  simp only [links, Document.fragment, Content.plant, Document.branches, Branch.allAmong,
    List.append_nil, List.nil_append, List.mem_cons, List.not_mem_nil, or_false] at member
  have nothing : Attribute.LowNames [] := ⟨.nil, by simp⟩
  rcases member with rfl | rfl | rfl
  · cases kind
    exact nothing
  · cases kind
    have low : "href".lowered = "href" := by decide +kernel
    exact ⟨by simp, by simpa using low⟩
  · cases kind
    exact nothing

/-- The address is found with a name in upper case, in all three ways. -/
theorem attribute_readings_agree_links
    : links.Reachable
      ∧ links.LowAttributes
      ∧ Token.IsOperandName "HREF"
      ∧ links.node? (.element 1) = some (.element 1 "a" [⟨"href", "x", false⟩])
      ∧ outcome links "@HREF" [.node (.element 1)] = .ok [.text "x"]
      ∧ Decides links ⟨.element 1 "a" [⟨"href", "x", false⟩], 1, 2⟩ (Token.attributeOf "HREF") true
      ∧ (∃ path : XPath.Path, path.Covers "//a")
      ∧ outcome links "//a" (start.contexts links) = .ok [.node (.element 1), .node (.element 2)]
      ∧ (xpath links start "//a::attr(HREF)").value = .ok ⟨[.text "x"], "//a::attr(HREF)"⟩
      ∧ (xpath links start "//a/@HREF").value.map items = .ok [.text "x"] := by
  have reachable : links.Reachable := .fragment _
  have low := lowAttributes_links
  have named : Token.IsOperandName "HREF" :=
    ⟨Token.isLexeme_of_isPlainName (by decide), by rintro (_ | _) <;> decide⟩
  have known : links.node? (.element 1) = some (.element 1 "a" [⟨"href", "x", false⟩]) := by cbv
  have covers : XPath.Path.Covers ⟨[⟨.descendant, .name "a", []⟩], "", []⟩ "//a" :=
    Path.covers_descendants "a" (Token.isLexeme_of_isPlainName (by decide)) (by decide +kernel)
  have evaluated : outcome links "//a" (start.contexts links)
      = .ok [.node (.element 1), .node (.element 2)] := by
    have below : Axis.descendant.nodes links .document
        = [.element 1 "a" [⟨"href", "x", false⟩], .element 2 "a" [], .text (.lead 2) "y"] := by
      cbv
    have selected : Path.select links ⟨[⟨.descendant, .name "a", []⟩], "", []⟩ [.node .document]
        = .ok [.node (.element 1), .node (.element 2)] := by
      rw [Path.select_step, Step.select_node links (by decide), below]
      decide +kernel
    rw [outcome_of_covers covers, contexts_start, selected]
    rfl
  have address : Attribute.lookup? [⟨"href", "x", false⟩] "HREF" = some "x" := by decide +kernel
  have found : outcome links ("@" ++ "HREF") [.node (.element 1)] = .ok [.text "x"] := by
    rw [outcome_attribute low named.1, Document.attributes, known]
    simp [address]
  obtain ⟨reads, queries⟩ := attribute_readings_agree reachable low named
  obtain ⟨found', evaluated', present, -⟩ := reads 1 "a" _ 1 2 known
  obtain rfl := Except.ok.inj (found.symm.trans evaluated')
  obtain ⟨same, taken⟩ := queries start "//a" ⟨_, covers⟩ (by decide) (by
    rintro items same item member
    obtain rfl := Except.ok.inj (evaluated.symm.trans same)
    rcases List.mem_pair.mp member with rfl | rfl <;> rfl)
  obtain ⟨values, applied, answered⟩ := taken _ evaluated
  have other : links.node? (.element 2) = some (.element 2 "a" []) := by cbv
  have nothing : Attribute.lookup? [] "HREF" = none := rfl
  have both : (Extraction.attr "HREF").apply links [.node (.element 1), .node (.element 2)]
      = .ok [.text "x"] := by
    unfold Extraction.apply
    simp only [List.mapM_cons, List.mapM_nil, Extraction.ofItem, ofNode_attr named.1,
      Document.attributes, known, other, address, nothing]
    rfl
  obtain rfl := Except.ok.inj (applied.symm.trans both)
  rw [answered] at same
  exact ⟨reachable, low, named, known, found, present, ⟨_, covers⟩, evaluated, answered, same.symm⟩

end Selection

end HtmlQuery
