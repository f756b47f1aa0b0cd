import HtmlQuery.Proofs.XPath.Connectives
import HtmlQuery.Proofs.XPath.EmptyDelimiter

/-! Predicates behind one another against their conjunction. Each predicate numbers anew the nodes
that the ones before it kept, so all but the first must not look at positions.
-/

namespace HtmlQuery.XPath

variable {document : Document} {first second : Predicate}

-----------------------------------------------------------------------------------------
-- Predicates that look at positions
-----------------------------------------------------------------------------------------

namespace Predicate

/-- Whether a predicate looks at the position of its candidate or at the number of all, itself or in
an operand.
-/
def seesPosition : Predicate → Bool
  | position _ _ => true
  | last => true
  | not predicate => seesPosition predicate
  | join _ left right => seesPosition left || seesPosition right
  | _ => false

/-- All else that a predicate can look at is the node, by induction on the predicate. -/
theorem holds_moved {predicate : Predicate} (blind : predicate.seesPosition = false)
    (document : Document) (node : Node) (position size position' size' : Nat)
    : predicate.holds document ⟨node, position, size⟩
      = predicate.holds document ⟨node, position', size'⟩ := by
  induction predicate with
  | position relation value => simp [seesPosition] at blind
  | last => simp [seesPosition] at blind
  | not predicate ih => simp only [holds, ih blind]
  | join connective left right ofLeft ofRight =>
      obtain ⟨blindLeft, blindRight⟩ : left.seesPosition = false ∧ right.seesPosition = false := by
        simpa [seesPosition] using blind
      simp only [holds, ofLeft blindLeft, ofRight blindRight]
  | _ => rfl

/-- The operands of a connective can change places, even where one of them fails. -/
theorem holds_join_comm (connective : Connective) (left right : Predicate) (document : Document)
    (candidate : Candidate)
    : (join connective left right).holds document candidate
      = (join connective right left).holds document candidate := by
  simp only [holds]
  cases ofLeft : left.holds document candidate with
  | error fault =>
      obtain ⟨rfl, -⟩ := (holds_eq_error document candidate).mp ofLeft
      cases ofRight : right.holds document candidate with
      | error other =>
          obtain ⟨rfl, -⟩ := (holds_eq_error document candidate).mp ofRight
          rfl
      | ok value => rfl
  | ok value =>
      cases right.holds document candidate with
      | error fault => rfl
      | ok other =>
          cases connective
          · exact congrArg Except.ok (Bool.and_comm value other)
          · exact congrArg Except.ok (Bool.or_comm value other)

end Predicate

-----------------------------------------------------------------------------------------
-- Nodes that are kept
-----------------------------------------------------------------------------------------

theorem keepFrom_join_comm (connective : Connective) (left right : Predicate)
    (size position : Nat) (nodes : List Node)
    : keepFrom document (.join connective left right) size position nodes
      = keepFrom document (.join connective right left) size position nodes := by
  induction nodes generalizing position with
  | nil => rfl
  | cons node rest ih => simp only [keepFrom, ih, Predicate.holds_join_comm connective left right]

/-- What satisfies both of two predicates is what satisfies the second one among the nodes that the
first one keeps, by induction on the nodes. They are numbered anew, which the second one can't tell.
-/
theorem keepFrom_join_and (blind : second.seesPosition = false) {size position : Nat}
    {nodes result : List Node}
    (found : keepFrom document (.join .and first second) size position nodes = .ok result)
    : ∃ kept,
      keepFrom document first size position nodes = .ok kept
      ∧ ∀ size' position', keepFrom document second size' position' kept = .ok result := by
  induction nodes generalizing position result with
  | nil => exact ⟨[], rfl, fun _ _ => found⟩
  | cons node rest ih =>
      simp only [keepFrom, bind_eq_ok, Predicate.holds_join_eq_ok] at found
      obtain ⟨_, ⟨a, b, ofFirst, ofSecond, rfl⟩, others, later, found⟩ := found
      obtain ⟨kept, keeps, keeps'⟩ := ih later
      refine ⟨if a then node :: kept else kept, ?_, fun size' position' => ?_⟩
      · simp only [keepFrom, bind_eq_ok]
        exact ⟨a, ofFirst, kept, keeps, rfl⟩
      · cases a with
        | false =>
            obtain rfl : others = result := by simpa [Connective.combine] using found
            exact keeps' size' position'
        | true =>
            have moved : second.holds document ⟨node, position', size'⟩ = .ok b := by
              rw [← ofSecond]
              exact Predicate.holds_moved blind ..
            simp only [if_true, keepFrom, bind_eq_ok]
            exact ⟨b, moved, others, keeps' size' (position' + 1), found⟩

/-- A conjunction may be taken apart among any other predicates, by induction on those in front of
it.
-/
theorem keepAll_stacked (blind : second.seesPosition = false) {known later : List Predicate}
    {nodes result : List Node}
    (found : keepAll document (known ++ .join .and first second :: later) nodes = .ok result)
    : keepAll document (known ++ first :: second :: later) nodes = .ok result := by
  induction known generalizing nodes with
  | nil =>
      obtain ⟨kept, joined, found⟩ := bind_eq_ok.mp found
      obtain ⟨middle, keeps, keeps'⟩ := keepFrom_join_and blind joined
      exact bind_eq_ok.mpr ⟨middle, keeps, bind_eq_ok.mpr ⟨kept, keeps' _ _, found⟩⟩
  | cons predicate known ih =>
      obtain ⟨kept, keeps, found⟩ := bind_eq_ok.mp found
      exact bind_eq_ok.mpr ⟨kept, keeps, ih found⟩

theorem keepAll_join_comm (connective : Connective) (left right : Predicate)
    (known later : List Predicate) (nodes : List Node)
    : keepAll document (known ++ .join connective left right :: later) nodes
      = keepAll document (known ++ .join connective right left :: later) nodes := by
  induction known generalizing nodes with
  | nil => simp only [List.nil_append, keepAll, keepFrom_join_comm connective left right]
  | cons predicate known ih => simp only [List.cons_append, keepAll, ih]

-----------------------------------------------------------------------------------------
-- Steps
-----------------------------------------------------------------------------------------

namespace Step

variable {axis : Axis} {test : NodeTest}

/-- A step selects the same by other predicates that keep the same nodes, by induction on the items.
-/
theorem select_of_keepAll {predicates predicates' : List Predicate}
    (keeps : ∀ nodes result,
      keepAll document predicates nodes = .ok result
      → keepAll document predicates' nodes = .ok result)
    {items selected : List Item}
    (found : select document ⟨axis, test, predicates⟩ items = .ok selected)
    : select document ⟨axis, test, predicates'⟩ items = .ok selected := by
  induction items generalizing selected with
  | nil => exact found
  | cons item rest ih =>
      cases item with
      | text value => exact ih found
      | node ref =>
          simp only [select, bind_eq_ok] at found ⊢
          obtain ⟨own, ofNode, others, ofRest, found⟩ := found
          refine ⟨own, ?_, others, ih ofRest, found⟩
          unfold selectFrom at ofNode ⊢
          split at ofNode
          · rename_i attributes
            rw [if_pos attributes]
            exact ofNode
          · rename_i nodes
            rw [if_neg nodes]
            simp only [bind_eq_ok] at ofNode ⊢
            obtain ⟨kept, keep, same⟩ := ofNode
            exact ⟨kept, keeps _ _ keep, same⟩

/--
A conjunction selects the same as its operands behind one another, whatever stands in front of them
and behind them, if the second operand looks at no position. If the first one doesn't either, the
operands can change places.
-/
theorem select_stacked (axis : Axis) (test : NodeTest) (known later : List Predicate)
    (blind : second.seesPosition = false) {items selected : List Item}
    (found : select document ⟨axis, test, known ++ .join .and first second :: later⟩ items
      = .ok selected)
    : select document ⟨axis, test, known ++ first :: second :: later⟩ items = .ok selected
      ∧ (first.seesPosition = false
        → select document ⟨axis, test, known ++ second :: first :: later⟩ items
          = .ok selected) := by
  refine ⟨select_of_keepAll (fun _ _ => keepAll_stacked blind) found, fun blindFirst => ?_⟩
  refine select_of_keepAll (fun nodes result keeps => ?_) found
  rw [keepAll_join_comm] at keeps
  exact keepAll_stacked blindFirst keeps

/-- Two elements, the second of which has a label. -/
def labelledSecond : Document :=
  .fragment [.element "b" [] [], .element "b" [⟨"class", "x", false⟩] []]

/-- The second element is the labelled one. The predicates can't change places here: the labelled one
is the first one of its kind.
-/
theorem select_stacked_second
    : Predicate.seesPosition (.hasAttribute "class") = false
      ∧ select labelledSecond
          ⟨.child, .anyName,
            [.join .and (.position .equal (.finite 2 0)) (.hasAttribute "class")]⟩
          [.node .document]
        = .ok [.node (.element 2)]
      ∧ select labelledSecond
          ⟨.child, .anyName, [.position .equal (.finite 2 0), .hasAttribute "class"]⟩
          [.node .document]
        = .ok [.node (.element 2)]
      ∧ Predicate.seesPosition (.position .equal (.finite 2 0)) = true
      ∧ select labelledSecond
          ⟨.child, .anyName, [.hasAttribute "class", .position .equal (.finite 2 0)]⟩
          [.node .document]
        = .ok [] := by
  have children : Axis.child.nodes labelledSecond .document
      = [.element 1 "b" [], .element 2 "b" [⟨"class", "x", false⟩]] := by
    cbv
  have joined : select labelledSecond
      ⟨.child, .anyName, [.join .and (.position .equal (.finite 2 0)) (.hasAttribute "class")]⟩
      [.node .document]
      = .ok [.node (.element 2)] := by
    rw [select_node labelledSecond (by decide), children]
    decide +kernel
  have stacked := (select_stacked .child .anyName [] [] rfl joined).1
  have swapped : select labelledSecond
      ⟨.child, .anyName, [.hasAttribute "class", .position .equal (.finite 2 0)]⟩
      [.node .document]
      = .ok [] := by
    rw [select_node labelledSecond (by decide), children]
    decide +kernel
  exact ⟨rfl, joined, stacked, rfl, swapped⟩

end Step

end HtmlQuery.XPath
