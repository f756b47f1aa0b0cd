import Mathlib.Algebra.Group.Nat.Defs
import HtmlQuery.Proofs.XPath.Concatenation
import HtmlQuery.Proofs.XPath.LexicalRow
import HtmlQuery.Proofs.XPath.OppositeAxes
import HtmlQuery.Proofs.XPath.PathSpelling

/-! Positions in brackets. On the axes to siblings and children, they are offsets among the children
of one parent; the axis to preceding siblings counts backwards.
-/

namespace HtmlQuery.XPath

open HtmlQuery.Tree

-----------------------------------------------------------------------------------------
-- Candidates at a position
-----------------------------------------------------------------------------------------

theorem Relation.holds_equal (position value : Nat)
    : Relation.equal.holds position (.finite value 0) = (position == value) := by
  rw [Bool.eq_iff_iff]
  simp [holds, admits, Decimal.Magnitude.compareNat, Decimal.twoToThe]

/-- Of some candidates, the one at a position is kept, by induction on the candidates. -/
theorem keepFrom_position (document : Document) (size number position : Nat) (nodes : List Node)
    : keepFrom document (.position .equal (.finite number 0)) size position nodes
      = .ok (if position ≤ number then nodes[number - position]?.toList else []) := by
  induction nodes generalizing position with
  | nil => simp [keepFrom]
  | cons node rest ih =>
      simp only [keepFrom, Predicate.holds, Relation.holds_equal, ih, bind, Except.bind]
      rcases Nat.lt_trichotomy position number with early | rfl | late
      · obtain ⟨offset, rfl⟩ := Nat.exists_eq_add_of_lt early
        simp [Nat.add_assoc, Nat.add_sub_add_left]
      · have beyond : ¬position + 1 ≤ position := Nat.not_succ_le_self position
        simp only [le_refl, beq_self_eq_true, if_true, beyond, if_false, Nat.sub_self]
        rfl
      · simp [late.ne', late.not_ge, (late.trans (Nat.lt_succ_self position)).not_ge]

/-- Of some candidates, the last one is kept, by induction on the candidates. -/
theorem keepFrom_last (document : Document) {size position : Nat} {nodes : List Node}
    (counts : position + nodes.length = size + 1)
    : keepFrom document .last size position nodes = .ok nodes.getLast?.toList := by
  induction nodes generalizing position with
  | nil => rfl
  | cons node rest ih =>
      rw [List.length_cons] at counts
      have counts' : position + 1 + rest.length = size + 1 := by omega
      simp only [keepFrom, Predicate.holds, ih counts', bind, Except.bind]
      cases rest with
      | nil =>
          obtain rfl : position = size := by simpa using counts
          simp
      | cons other rest =>
          have front : position ≠ size := by
            rw [List.length_cons] at counts
            omega
          simp [front]

-----------------------------------------------------------------------------------------
-- Steps with a single predicate
-----------------------------------------------------------------------------------------

/-- How a step to the nodes on an axis is written with something in brackets. -/
def filtered (axis : Axis) (inner : String) : String :=
  axis.name ++ "::node()[" ++ inner ++ "]"

namespace Token

/-- A parenthesis and a bracket prolong no token. -/
theorem ends_group {c : Char} (mark : c = '(' ∨ c = ']') (kind : TokenKind)
    (text rest : List Char)
    : Ends kind text (c :: rest) := by
  rcases mark with rfl | rfl <;>
    exact ends_apart (by decide) (by decide) (by decide) (by decide) (by decide) kind text rest

theorem laid_closeBracket (start : Nat) : Laid start [⟨start, .closeBracket, "]"⟩] [']'] := by
  have bracket : IsLexeme .closeBracket [']'] := rfl
  have closed : Laid start _ ([']'] ++ []) := .lexeme bracket trivial (.done (by simp))
  exact closed

end Token

section

variable {axis : Axis} {predicate : Predicate} {inner : String}

/-- A predicate that is laid out in front of a closing bracket makes a step. -/
theorem written_filtered {row : List Token} (nodes : axis ≠ .attributes)
    (spelled : predicate.Spelled .disjunction row)
    (laid : ∀ start, ∃ tokens,
      Token.Laid start tokens (inner.toList ++ [']'])
      ∧ tokens.map (Token.placed fun _ => 0) = row ++ [Token.mark .closeBracket])
    : Steps.Written [⟨axis, .anyNode, [predicate]⟩] (filtered axis inner) := by
  have named : Token.IsLexeme .name axis.name.toList :=
    Token.isLexeme_of_isPlainName (by cases axis <;> rfl)
  have node : Token.IsLexeme .name "node".toList := Token.isLexeme_of_isPlainName rfl
  have separated (rest : List Char) : Token.Ends .name axis.name.toList (':' :: ':' :: rest) :=
    (Token.ends_nil .name _).append_colons rest
  have colons : Token.IsLexeme .doubleColon [':', ':'] := rfl
  have opens : Token.IsLexeme .openParen ['('] := rfl
  have closes : Token.IsLexeme .closeParen [')'] := rfl
  have bracket : Token.IsLexeme .openBracket ['['] := rfl
  choose tokens within same using laid
  have groups (start : Nat)
      : Token.Laid start _ (['('] ++ ([')'] ++ (['['] ++ (inner.toList ++ [']'])))) :=
    .lexeme opens trivial (.lexeme closes trivial (.lexeme bracket trivial (within _)))
  have whole
      : Token.Laid 0 _
          (axis.name.toList
            ++ ([':', ':'] ++ ("node".toList ++ ('(' :: ')' :: '[' :: (inner.toList ++ [']']))))) :=
    .lexeme named (separated _)
      (.lexeme colons trivial (.lexeme node (Token.ends_group (.inl rfl) _ _ _) (groups _)))
  have step : Step.Spelled ⟨axis, .anyNode, [predicate]⟩ _ :=
    .step .anyNode (.cons spelled .nil) fun attributes => (nodes attributes).elim
  have shape : (filtered axis inner).toList
      = axis.name.toList
        ++ ([':', ':'] ++ ("node".toList ++ ('(' :: ')' :: '[' :: (inner.toList ++ [']'])))) := by
    simp [filtered]
  rw [← shape] at whole
  refine ⟨_, whole, Eq.subst (motive := Steps.Spelled _) ?_ (.single step)⟩
  simp [same, Token.placed, Token.word, Token.mark, Token.call, TokenKind.sign]

/-- Such a step results in what its predicate keeps of the nodes on the axis. -/
theorem outcome_filtered (nodes : axis ≠ .attributes)
    (written : Steps.Written [⟨axis, .anyNode, [predicate]⟩] (filtered axis inner))
    (document : Document) {ref : NodeRef} {kept : List Node}
    (keeps : keepFrom document predicate (axis.nodes document ref).length 1
      (axis.nodes document ref) = .ok kept)
    : outcome document (filtered axis inner) [.node ref]
      = .ok ((kept.map Node.ref).map Item.node) := by
  have covers : Path.Covers ⟨[⟨axis, .anyNode, [predicate]⟩], "", []⟩ (filtered axis inner) :=
    ⟨written.read, rfl⟩
  have all : (axis.nodes document ref).filter NodeTest.anyNode.accepts
      = axis.nodes document ref :=
    List.filter_eq_self.mpr fun node _ => by cases node <;> rfl
  rw [outcome_of_covers covers, Path.select_step, Step.select_node document nodes, all]
  simp [keepAll, keeps, bind, Except.bind, Except.map, Except.mapError]

variable (axis) (document : Document) (ref : NodeRef)

/-- A number in brackets selects the node at that place on the axis, counting from one. -/
theorem outcome_number (nodes : axis ≠ .attributes) {digits : String} {number : Nat}
    (decimal : IsDecimal digits number) (positive : 1 ≤ number) (short : number ≤ 2 ^ 53)
    : outcome document (filtered axis digits) [.node ref]
      = .ok ((axis.refs document ref)[number - 1]?.toList.map .node) := by
  have literal : (Literal.number (.finite number 0)).Spelled ⟨0, .number, digits⟩ :=
    .number decimal.isLexeme (decimal.read (Decimal.representable_of_le short))
  have laid (start : Nat) : Token.Laid start _ (digits.toList ++ [']']) :=
    .lexeme decimal.isLexeme (Token.ends_group (.inr rfl) _ _ _) (Token.laid_closeBracket _)
  have written := written_filtered nodes (.conjunction (.operand (.number literal)))
    fun start => ⟨_, laid start, by simp [Token.placed, Token.mark, TokenKind.sign]⟩
  rw [outcome_filtered nodes written document (keepFrom_position document _ number 1 _),
    if_pos positive, Axis.refs, List.getElem?_map]
  cases (axis.nodes document ref)[number - 1]? <;> rfl

/-- The last node on an axis is selected by the function of that name. -/
theorem outcome_last (nodes : axis ≠ .attributes)
    : outcome document (filtered axis "last()") [.node ref]
      = .ok ((axis.refs document ref).getLast?.toList.map .node) := by
  have named : Token.IsLexeme .name "last".toList := Token.isLexeme_of_isPlainName rfl
  have opens : Token.IsLexeme .openParen ['('] := rfl
  have closes : Token.IsLexeme .closeParen [')'] := rfl
  have laid (start : Nat) : Token.Laid start _ ("last".toList ++ (['('] ++ ([')'] ++ [']']))) :=
    .lexeme named (Token.ends_group (.inl rfl) _ _ _)
      (.lexeme opens trivial (.lexeme closes trivial (Token.laid_closeBracket _)))
  have written : Steps.Written [⟨axis, .anyNode, [.last]⟩] (filtered axis "last()") :=
    written_filtered nodes (.conjunction (.operand .last)) fun start => ⟨_, laid start, rfl⟩
  rw [outcome_filtered nodes written document (keepFrom_last document (Nat.add_comm 1 _)),
    Axis.refs, List.getLast?_map]
  cases (axis.nodes document ref).getLast? <;> rfl

end

-----------------------------------------------------------------------------------------
-- Siblings among the children of their parent
-----------------------------------------------------------------------------------------

section

variable {document : Document} {around : Place Node}

/-- The names of the children of a node of the tree. -/
theorem refs_child_eq (sound : document.Sound) (member : around ∈ document.tree.places)
    : Axis.child.refs document around.label.ref = around.children.map Node.ref := by
  rw [Axis.refs, Axis.nodes, Document.along_of_place? (Document.place?_of_mem_places sound member)]

/-- Behind a child are the children with greater indices, before it those with smaller ones, nearest
first.
-/
theorem siblings_of_child (sound : document.Sound) (member : around ∈ document.tree.places)
    {index : Nat} {child : NodeRef}
    (found : (Axis.child.refs document around.label.ref)[index]? = some child)
    : Axis.followingSibling.refs document child
        = (Axis.child.refs document around.label.ref).drop (index + 1)
      ∧ Axis.precedingSibling.refs document child
        = ((Axis.child.refs document around.label.ref).take index).reverse := by
  have distinct := Axis.nodup_refs sound member .child
  rw [refs_child_eq sound member] at found distinct ⊢
  obtain ⟨label, inside, rfl⟩ := List.mem_map.mp (List.mem_of_getElem? found)
  obtain ⟨place, within, rfl, up⟩ := exists_place_of_mem_children member inside
  have row : around.children.map Node.ref
      = (place.precedingSiblings.map Node.ref).reverse
        ++ place.label.ref :: place.followingSiblings.map Node.ref := by
    simp [Place.children_of_up? up]
  -- names occur once, so the index of the child is the number of those before it
  obtain rfl : index = (place.precedingSiblings.map Node.ref).reverse.length := by
    obtain ⟨bound, -⟩ := List.getElem?_eq_some_iff.mp found
    refine (List.getElem?_inj bound distinct).mp (found.trans ?_)
    rw [row, List.getElem?_append_right le_rfl, Nat.sub_self, List.getElem?_cons_zero]
  have place? := Document.place?_of_mem_places sound within
  simp only [Axis.refs, Axis.nodes, Document.along_of_place? place?]
  constructor
  · rw [row, List.append_cons, List.drop_left' (by simp)]
  · rw [row, List.take_left, List.reverse_reverse]

/-- The parent of an attached node is in the tree, and the node is among its children. -/
theorem exists_place_of_parent? (sound : document.Sound) {node above : NodeRef}
    (isNode : document.IsNode node) (attached : document.isAttached node = true)
    (parent : document.parent? node = some above)
    : ∃ around ∈ document.tree.places,
      around.label.ref = above ∧ node ∈ Axis.child.refs document above := by
  obtain ⟨place, within, rfl⟩ := exists_place_of_isAttached sound isNode attached
  rw [Document.parent?, Document.place?_of_mem_places sound within, Option.bind_some] at parent
  rcases up?_of_mem_places within with rfl | ⟨around, member, up⟩
  · cases parent
  · rw [Place.parent?_of_up? up, Option.map_some, Option.some.injEq] at parent
    refine ⟨around, member, parent, ?_⟩
    rw [← parent, refs_child_eq sound member]
    exact List.mem_map_of_mem (Place.label_mem_children_of_up? up)

end

-----------------------------------------------------------------------------------------
-- Positions and indices
-----------------------------------------------------------------------------------------

/-- The node at an index as a result; there is none behind the last one. -/
def itemAt (nodes : List NodeRef) (index : Nat) : List Item :=
  nodes[index]?.toList.map .node

/-- Counting backwards from an index, starting with one in front of it. -/
theorem getElem?_reverse_take {α : Type} {row : List α} {index number : Nat}
    (within : index ≤ row.length) (positive : 1 ≤ number)
    : (row.take index).reverse[number - 1]?
      = if number ≤ index then row[index - number]? else none := by
  have length : (row.take index).length = index := List.length_take_of_le within
  split
  · rw [List.getElem?_reverse (by omega), length, List.getElem?_take_of_lt (by omega)]
    congr 1
    omega
  · exact List.getElem?_eq_none (by rw [List.length_reverse]; omega)

/--
For an attached node with a parent, and each child of that: a number in brackets selects, on the axis
of following siblings, the child so many indices further on, on the axis of preceding siblings, the
child so many indices before, and on the axis of children, the child at that place, counting from one.
Where there is no such child, nothing is selected. The last ones on these axes are the last child, the
first child and again the last child, unless there is none.
-/
theorem positions_among_children {document : Document} (reachable : document.Reachable)
    {node above : NodeRef} (isNode : document.IsNode node)
    (attached : document.isAttached node = true) (parent : document.parent? node = some above)
    : let children := Axis.child.refs document above
      node ∈ children
      ∧ (∀ digits number, IsDecimal digits number → 1 ≤ number → number ≤ 2 ^ 53 →
        (∀ index child, children[index]? = some child →
          outcome document ("following-sibling::node()[" ++ digits ++ "]") [.node child]
            = .ok (itemAt children (index + number))
          ∧ outcome document ("preceding-sibling::node()[" ++ digits ++ "]") [.node child]
            = .ok (if number ≤ index then itemAt children (index - number) else []))
        ∧ outcome document ("child::node()[" ++ digits ++ "]") [.node above]
          = .ok (itemAt children (number - 1)))
      ∧ (∀ index child, children[index]? = some child →
        outcome document "following-sibling::node()[last()]" [.node child]
          = .ok (if index + 1 < children.length then itemAt children (children.length - 1) else [])
        ∧ outcome document "preceding-sibling::node()[last()]" [.node child]
          = .ok (if 0 < index then itemAt children 0 else []))
      ∧ outcome document "child::node()[last()]" [.node above]
        = .ok (itemAt children (children.length - 1)) := by
  have sound := reachable.sound
  obtain ⟨around, member, rfl, inside⟩ := exists_place_of_parent? sound isNode attached parent
  intro children
  refine ⟨inside, fun digits number decimal positive short => ⟨fun index child found => ?_, ?_⟩,
    fun index child found => ?_, ?_⟩
  · obtain ⟨following, preceding⟩ := siblings_of_child sound member found
    obtain ⟨bound, -⟩ := List.getElem?_eq_some_iff.mp found
    have behind := outcome_number .followingSibling document child (by simp) decimal positive short
    have before := outcome_number .precedingSibling document child (by simp) decimal positive short
    rw [following, List.getElem?_drop, Nat.add_assoc, Nat.add_sub_of_le positive] at behind
    rw [preceding, getElem?_reverse_take bound.le positive] at before
    refine ⟨behind, before.trans ?_⟩
    split <;> rfl
  · exact outcome_number .child document _ (by simp) decimal positive short
  · obtain ⟨following, preceding⟩ := siblings_of_child sound member found
    have behind := outcome_last .followingSibling document child (by simp)
    have before := outcome_last .precedingSibling document child (by simp)
    rw [following, List.getLast?_drop, List.getLast?_eq_getElem?] at behind
    rw [preceding, List.getLast?_reverse, List.head?_take, List.head?_eq_getElem?] at before
    refine ⟨behind.trans ?_, before.trans ?_⟩
    · rcases Nat.lt_or_ge (index + 1) children.length with further | final
      · rw [if_neg further.not_ge, if_pos further]
        rfl
      · rw [if_pos final, if_neg final.not_gt]
        rfl
    · cases index <;> rfl
  · have last := outcome_last .child document around.label.ref (by simp)
    rw [List.getLast?_eq_getElem?] at last
    exact last

/-- Two texts with an element between them: a number with a zero in front of it, and one that is too
large for one of the nodes.
-/
theorem positions_among_children_mixed
    : let document := Document.fragment [.text "a", .element "p" [] [], .text "b"]
      document.Reachable
      ∧ document.IsNode (.element 1)
      ∧ document.isAttached (.element 1) = true
      ∧ document.parent? (.element 1) = some .document
      ∧ outcome document "preceding-sibling::node()[01]" [.node (.text (.tail 1))]
        = .ok [.node (.element 1)]
      ∧ outcome document "following-sibling::node()[2]" [.node (.text (.lead 0))]
        = .ok [.node (.text (.tail 1))]
      ∧ outcome document "following-sibling::node()[2]" [.node (.element 1)] = .ok []
      ∧ outcome document "preceding-sibling::node()[last()]" [.node (.text (.tail 1))]
        = .ok [.node (.text (.lead 0))] := by
  intro document
  have reachable : document.Reachable := .fragment _
  have top : document.top.id = 0 := by cbv
  have isNode : document.IsNode (.element 1) := ⟨by cbv, by simp [top]⟩
  have attached : document.isAttached (.element 1) = true := by cbv
  have parent : document.parent? (.element 1) = some .document := by cbv
  have children : Axis.child.refs document .document
      = [.text (.lead 0), .element 1, .text (.tail 1)] := by
    cbv
  have digits : Text.isDigit '0' = true ∧ Text.isDigit '1' = true := by decide
  have zeros : IsDecimal "01" 1 := ⟨by decide, by simpa using digits, by decide⟩
  have two : IsDecimal "2" 2 := isDecimal_toString 2
  obtain ⟨-, numbered, last, -⟩ := positions_among_children reachable isNode attached parent
  rw [children] at numbered last
  have first := (numbered "01" 1 zeros (by decide) (by decide)).1
  have second := (numbered "2" 2 two (by decide) (by decide)).1
  exact ⟨reachable, isNode, attached, parent, (first 2 _ rfl).2, (second 0 _ rfl).1,
    (second 1 _ rfl).1, (last 2 _ rfl).2⟩

end HtmlQuery.XPath
