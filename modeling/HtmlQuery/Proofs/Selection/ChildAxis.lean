import HtmlQuery.Proofs.Selection.AttributeReading

/-! A step to children, with its axis and without it. Behind the axis, the name `text` isn't a name: the
colons in front of it make it a suffix that is cut off the query.
-/

namespace HtmlQuery.Selection

open HtmlQuery.XPath

variable {document : Document} {name : String}

-----------------------------------------------------------------------------------------
-- The suffix for texts
-----------------------------------------------------------------------------------------

/-- Of all names, only `text` makes up the suffix for texts behind the colons of an axis. -/
theorem not_suffix_of_axis (named : Token.IsLexeme .name name.toList) (other : name ≠ "text")
    (front : List Char)
    : ¬"::text".toList <:+ front ++ "child::".toList ++ name.toList := by
  obtain ⟨-, -, -, noText⟩ := name_facts named
  have shape : front ++ "child::".toList ++ name.toList
      = front ++ "chil".toList ++ 'd' :: ':' :: ':' :: name.toList := by
    simp
  rw [shape]
  refine Extracting.not_suffix_append (by decide) fun suffix => ?_
  rcases List.suffix_cons_iff.mp suffix with same | suffix
  · exact other (String.toList_inj.mp (by simpa using same.symm))
  · rcases List.suffix_cons_iff.mp suffix with same | suffix
    · have colon : name.toList = ":text".toList := by simpa using same.symm
      have starts := Token.isNameStart_of_name named ':' (by simp [colon])
      cases starts
    · exact noText suffix

-----------------------------------------------------------------------------------------
-- Both steps
-----------------------------------------------------------------------------------------

/-- A query goes on with a step to elements of a name. -/
theorem value_xpath_named (reachable : document.Reachable) {selection : Selection}
    {query : String} {path : XPath.Path} (covers : path.Covers query)
    (named : Token.IsLexeme .name name.toList) {front : String} {axis : Axis}
    (goes
      : Separated (Token.scan (front ++ name))
        ∧ ∃ next : XPath.Path,
          next.Covers (front ++ name) ∧ next.steps = [⟨axis, .name name.lowered, []⟩])
    (noText : ¬"::text".toList <:+ (query ++ front ++ name).toList)
    : (xpath document selection (query ++ front ++ name)).value.map items
      = match path.select document (selection.contexts document) with
        | .error fault => .error (.path fault)
        | .ok items =>
            (Step.select document ⟨axis, .name name.lowered, []⟩ items).mapError .path := by
  obtain ⟨separated, next, covers', steps⟩ := goes
  have last := last_of_name named (query ++ front)
  rw [String.append_assoc] at noText last ⊢
  rw [value_xpath_next reachable covers covers' separated noText last]
  cases path.select document (selection.contexts document) with
  | error fault => rfl
  | ok found =>
      simp only [Path.select, steps, Path.selectSteps]
      cases Step.select document ⟨axis, .name name.lowered, []⟩ found <;> rfl

/-- Behind an expression that is read to its end, the suffix for texts is found. -/
theorem split_text_of_covers {query : String} {path : XPath.Path} (covers : path.Covers query)
    : Extracting.split (query ++ "::text") = ⟨query.trimmed, .text⟩ := by
  obtain ⟨c, member, visible⟩ := covers.exists_visible
  obtain ⟨front, text, back, shape, blank, between, begun, unpadded⟩ :=
    Text.exists_unpadded member visible
  have whole : query ++ "::text"
      = String.ofList (front ++ ((text ++ (back ++ "::text".toList)) ++ [])) := by
    rw [← String.toList_inj, String.toList_ofList]
    simp [shape]
  have inner := Extracting.unpadded_text unpadded begun back
  rw [whole, Extracting.split_padded inner (by simp [begun]) blank (by simp),
    Extracting.split_text unpadded begun between, String.trimmed, shape,
    unpadded.trim_padded begun blank between]

/-- Behind an expression, a step along the axis to `text` is a step to `child` and the suffix. -/
theorem value_xpath_text {selection : Selection} {query : String} {path : XPath.Path}
    (covers : path.Covers query)
    : (xpath document selection (query ++ "/child::text")).value.map items
      = (xpath document selection (query ++ "/child")).value.bind fun found =>
          take document .text found.items := by
  have text : Token.IsLexeme .name "text".toList := Token.isLexeme_of_isPlainName (by decide)
  have child : Token.IsLexeme .name "child".toList := Token.isLexeme_of_isPlainName (by decide)
  have slash : "/" ++ "child" = "/child" := rfl
  have axis : "/" ++ (Axis.child.name ++ "::" ++ "text") = "/child::text" := rfl
  have suffix : query ++ "/child::text" = query ++ "/child" ++ "::text" := by
    simp [← String.toList_inj]
  obtain ⟨separated, next, covers', -⟩ := Path.exists_covers_next_axis .child text
  obtain ⟨separated', next', covers'', -⟩ := Path.exists_covers_next_name child
  rw [axis] at separated covers'
  rw [slash] at separated' covers''
  obtain ⟨whole, complete, -⟩ := Path.covers_append covers covers' separated
  obtain ⟨inner, shorter, -⟩ := Path.covers_append covers covers'' separated'
  obtain ⟨trimmed, shortest, steps⟩ := shorter.trimmed
  have taken := split_text_of_covers shorter
  rw [← suffix] at taken
  have noText : ¬"::text".toList <:+ (query ++ "/child").toList := by
    obtain ⟨-, -, -, noText⟩ := name_facts child
    rw [String.toList_append]
    exact Extracting.not_suffix_append (by decide) noText
  have last := last_of_name child (query ++ "/")
  rw [String.append_assoc, slash] at last
  rw [value_xpath_taken complete taken shortest, Path.select, steps, ← Path.select,
    value_xpath_plain shorter noText last]
  cases inner.select document (selection.contexts document) with
  | error fault => rfl
  | ok selected =>
      simp only [Except.bind]
      cases take document .text selected <;> rfl

/--
Behind an expression that is read to its end, a step to the children of a name leads to the same with
its axis as without it, unless the name is `text`. That one is taken for the suffix behind a step to
children named `child`.
-/
theorem child_axis_redundant (reachable : document.Reachable) (selection : Selection)
    {query : String} (complete : ∃ path : XPath.Path, path.Covers query)
    (named : Token.IsLexeme .name name.toList)
    : (name ≠ "text" →
        (xpath document selection (query ++ "/child::" ++ name)).value.map items
          = (xpath document selection (query ++ "/" ++ name)).value.map items)
      ∧ (xpath document selection (query ++ "/child::text")).value.map items
        = (xpath document selection (query ++ "/child")).value.bind fun found =>
            take document .text found.items := by
  obtain ⟨path, covers⟩ := complete
  refine ⟨fun other => ?_, value_xpath_text covers⟩
  obtain ⟨-, -, -, noText⟩ := name_facts named
  have explicit : "/child::" ++ name = "/" ++ (Axis.child.name ++ "::" ++ name) := by
    simp [← String.toList_inj, Axis.name]
  have behindAxis := Path.exists_covers_next_axis .child named
  rw [← explicit] at behindAxis
  rw [value_xpath_named reachable covers named behindAxis ?axis,
    value_xpath_named reachable covers named (Path.exists_covers_next_name named) ?slash]
  case axis => simpa using not_suffix_of_axis named other (query.toList ++ ['/'])
  case slash =>
    have shape : (query ++ "/" ++ name).toList = query.toList ++ '/' :: name.toList := by simp
    rw [shape]
    exact Extracting.not_suffix_append (by decide) noText

/-- A list with an item and an element named like the axis. -/
def itemized : Document :=
  .fragment [.element "ul" [] [.element "li" [] [.text "a"], .element "child" [] [.text "b"]]]

theorem child_axis_redundant_items
    : itemized.Reachable
      ∧ (∃ path : XPath.Path, path.Covers " ul")
      ∧ Token.IsLexeme .name "li".toList
      ∧ (xpath itemized start " ul/li").value.map items = .ok [.node (.element 2)]
      ∧ (xpath itemized start " ul/child::li").value.map items = .ok [.node (.element 2)]
      ∧ (xpath itemized start " ul/child::text").value.map items = .ok [.text "b"] := by
  have reachable : itemized.Reachable := .fragment _
  have named : Token.IsLexeme .name "li".toList := Token.isLexeme_of_isPlainName (by decide)
  have list : XPath.Path.Covers ⟨[⟨.child, .name "ul", []⟩], "", []⟩ " ul" :=
    ⟨by decide +kernel, by decide⟩
  obtain ⟨same, text⟩ := child_axis_redundant reachable start ⟨_, list⟩ named
  have item : XPath.Path.Covers ⟨[⟨.child, .name "ul", []⟩, ⟨.child, .name "li", []⟩], "", []⟩
      " ul/li" :=
    ⟨by decide +kernel, by decide⟩
  have child
      : XPath.Path.Covers ⟨[⟨.child, .name "ul", []⟩, ⟨.child, .name "child", []⟩], "", []⟩
          " ul/child" :=
    ⟨by decide +kernel, by decide⟩
  have top : XPath.Axis.child.nodes itemized .document = [.element 1 "ul" []] := by cbv
  have below : XPath.Axis.child.nodes itemized (.element 1)
      = [.element 2 "li" [], .element 3 "child" []] := by
    cbv
  have lists : XPath.Step.select itemized ⟨.child, .name "ul", []⟩ [.node .document]
      = .ok [.node (.element 1)] := by
    rw [XPath.Step.select_node itemized (by decide), top]
    decide +kernel
  have points : XPath.Step.select itemized ⟨.child, .name "li", []⟩ [.node (.element 1)]
      = .ok [.node (.element 2)] := by
    rw [XPath.Step.select_node itemized (by decide), below]
    decide +kernel
  have nested : XPath.Step.select itemized ⟨.child, .name "child", []⟩ [.node (.element 1)]
      = .ok [.node (.element 3)] := by
    rw [XPath.Step.select_node itemized (by decide), below]
    decide +kernel
  have items' : (xpath itemized start " ul/li").value = .ok ⟨[.node (.element 2)], " ul/li"⟩ := by
    rw [value_xpath_plain item (by decide) (by rintro c ⟨⟩; decide), contexts_start]
    simp only [XPath.Path.select, XPath.Path.selectSteps, lists, points, bind, Except.bind]
  have children
      : (xpath itemized start " ul/child").value = .ok ⟨[.node (.element 3)], " ul/child"⟩ := by
    rw [value_xpath_plain child (by decide) (by rintro c ⟨⟩; decide), contexts_start]
    simp only [XPath.Path.select, XPath.Path.selectSteps, lists, nested, bind, Except.bind]
  have inside : [Item.node (.element 3)].mapM (Extraction.text.ofItem itemized) = .ok [some "b"] := by
    cbv
  have texts : take itemized .text [.node (.element 3)] = .ok [.text "b"] :=
    take_eq_ok.mpr (by simp [Extraction.apply, inside, Except.map])
  have short : (xpath itemized start (" ul" ++ "/" ++ "li")).value = _ := items'
  have short' : (xpath itemized start (" ul" ++ "/child")).value = _ := children
  rw [short] at same
  rw [short'] at text
  exact ⟨reachable, ⟨_, list⟩, named, congrArg _ items', same (by decide),
    text.trans texts⟩

/-- An element named `text` is a child of that name, but not behind the axis. -/
theorem child_axis_text
    : (∃ path : XPath.Path, path.Covers ".")
      ∧ Token.IsLexeme .name "text".toList
      ∧ (xpath (.fragment [.element "text" [] []]) start ("." ++ "/child::" ++ "text")).value
        = .ok ⟨[], "./child::text"⟩
      ∧ (xpath (.fragment [.element "text" [] []]) start ("." ++ "/" ++ "text")).value
        = .ok ⟨[.node (.element 1)], "./text"⟩ := by
  have dot : XPath.Path.Covers ⟨[⟨.self, .anyNode, []⟩], "", []⟩ "." :=
    ⟨by decide +kernel, by decide⟩
  have text : XPath.Path.Covers ⟨[⟨.child, .name "text", []⟩], "", []⟩ "./text" :=
    ⟨by decide +kernel, by decide⟩
  have text' : XPath.Path.Covers ⟨[⟨.child, .name "text", []⟩], "", []⟩ "./child::text" :=
    ⟨by decide +kernel, by decide⟩
  have child : XPath.Path.Covers ⟨[⟨.child, .name "child", []⟩], "", []⟩ "./child" :=
    ⟨by decide +kernel, by decide⟩
  have taken : Extracting.split "./child::text" = ⟨"./child", .text⟩ := by decide +kernel
  have top : XPath.Axis.child.nodes (.fragment [.element "text" [] []]) .document
      = [.element 1 "text" []] := by
    cbv
  have nothing : [Node.element 1 "text" []].filter (XPath.NodeTest.name "child").accepts = [] := by
    decide +kernel
  have named : [Node.element 1 "text" []].filter (XPath.NodeTest.name "text").accepts
      = [.element 1 "text" []] := by
    decide +kernel
  refine ⟨⟨_, dot⟩, Token.isLexeme_of_isPlainName (by decide), ?_, ?_⟩
  · refine (value_xpath_taken text' taken child).trans ?_
    rw [contexts_start, XPath.Path.select_step, XPath.Step.select_node _ (by decide), top, nothing]
    rfl
  · refine (value_xpath_plain text (by decide) (by rintro c ⟨⟩; decide)).trans ?_
    rw [contexts_start, XPath.Path.select_step, XPath.Step.select_node _ (by decide), top, named]
    rfl

end HtmlQuery.Selection
