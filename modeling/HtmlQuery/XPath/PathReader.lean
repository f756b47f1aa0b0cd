import HtmlQuery.Text.Case
import HtmlQuery.XPath.PredicateReader
import HtmlQuery.XPath.Scan

/-!
Reading location paths. Steps are read from left to right until one can't be read; the expression
from there on is the remainder. A predicate without a known form is skipped and noted.
-/

namespace HtmlQuery.XPath

/-- The part of an expression from one position up to another one. -/
def excerpt (expression : String) (first last : Nat) : String :=
  String.ofList ((expression.toList.take last).drop first)

/-- The predicates behind a step: those that were understood and the extents of the others. -/
structure Predicates where
  known : List Predicate
  ignored : List (Nat × Nat)
  deriving DecidableEq, Repr

namespace Predicates

/-- Where a group lies that begins at a position and ends with the first of the given tokens. -/
def extent (start : Nat) (closing : List Token) : Nat × Nat :=
  (start, (closing.head?.map Token.position).getD start + 1)

/-- Reads the groups in brackets at the front, up to one that isn't closed. -/
def read (tokens : List Token) : Except Fault (Predicates × List Token) :=
  match tokens with
  | ⟨start, .openBracket, text⟩ :: rest =>
      match Token.closing? (⟨start, .openBracket, text⟩ :: rest) 0 with
      | none => .ok (⟨[], []⟩, ⟨start, .openBracket, text⟩ :: rest)
      | some closing =>
          match Predicate.read (rest.take (closing - 1)) with
          | .error (.fault fault) => .error fault
          | .ok predicate => do
              let (others, remaining) ← read (rest.drop closing)
              .ok ({ others with known := predicate :: others.known }, remaining)
          | .error .unsupported => do
              let (others, remaining) ← read (rest.drop closing)
              .ok ({ others with ignored := extent start (rest.drop (closing - 1)) :: others.ignored },
                remaining)
  | _ => .ok (⟨[], []⟩, tokens)
  termination_by tokens.length
  decreasing_by all_goals simp only [List.length_drop, List.length_cons]; omega

end Predicates

namespace Step

/-- What separates a step from the one before it and which axis that suggests; the first step needs
no separator.
-/
def separator? (isFirst : Bool) : List Token → Option (Axis × List Token)
  | ⟨_, .dot, _⟩ :: ⟨_, .doubleSlash, _⟩ :: rest => some (.descendant, rest)
  | ⟨_, .dot, _⟩ :: ⟨_, .slash, _⟩ :: rest => some (.child, rest)
  | ⟨_, .doubleSlash, _⟩ :: rest => some (.descendant, rest)
  | ⟨_, .slash, _⟩ :: rest => some (.child, rest)
  | tokens => if isFirst then some (.child, tokens) else none

/-- An axis that is named explicitly. -/
def axisName? : List Token → Option (Axis × List Token)
  | ⟨_, .name, name⟩ :: ⟨_, .doubleColon, _⟩ :: rest => (Axis.ofName? name).map fun axis => (axis, rest)
  | _ => none

/-- The test of a step that begins with the given axis, and the axis that it leads to. -/
def nodeTest? (axis : Axis) : List Token → Option (Axis × NodeTest × List Token)
  | ⟨_, .atSign, _⟩ :: ⟨_, .name, name⟩ :: rest => some (.attributes, .name name.lowered, rest)
  | ⟨_, .atSign, _⟩ :: ⟨_, .asterisk, _⟩ :: rest => some (.attributes, .anyName, rest)
  | ⟨_, .asterisk, _⟩ :: rest => some (axis, .anyName, rest)
  | ⟨_, .name, name⟩ :: rest =>
      match rest with
      | ⟨_, .openParen, _⟩ :: ⟨_, .closeParen, _⟩ :: rest =>
          if name = "node" then some (axis, .anyNode, rest)
          else if name = "text" then some (axis, .text, rest)
          else none
      | ⟨_, .openParen, _⟩ :: _ => none
      | ⟨_, .doubleColon, _⟩ :: _ => none
      | _ => some (axis, .name name.lowered, rest)
  | _ => none

/-- What was read of a step: the step, the extents of its skipped predicates and what follows. -/
structure Reading where
  step : Step
  ignored : List (Nat × Nat)
  rest : List Token
  deriving DecidableEq, Repr

/-- Reads one step at the front of the tokens, if there is one. -/
def read (isFirst : Bool) (tokens : List Token) : Except Fault (Option Reading) :=
  match separator? isFirst tokens with
  | none => .ok none
  | some (_, ⟨_, .doubleDot, _⟩ :: rest) => .ok (some ⟨⟨.parent, .anyNode, []⟩, [], rest⟩)
  | some (_, ⟨_, .dot, _⟩ :: rest) => .ok (some ⟨⟨.self, .anyNode, []⟩, [], rest⟩)
  | some (suggested, body) =>
      let (axis, body) := (axisName? body).getD (suggested, body)
      match nodeTest? axis body with
      | none => .ok none
      | some (axis, test, rest) =>
          if axis = .attributes then .ok (some ⟨⟨axis, test, []⟩, [], rest⟩)
          else do
            let (predicates, rest) ← Predicates.read rest
            .ok (some ⟨⟨axis, test, predicates.known⟩, predicates.ignored, rest⟩)

end Step

/-- The steps that could be read, the extents of skipped predicates and the tokens that are left. -/
structure Steps where
  steps : List Step
  ignored : List (Nat × Nat)
  rest : List Token
  deriving DecidableEq, Repr

namespace Predicates

theorem length_read {tokens rest : List Token} {predicates : Predicates}
    (h : read tokens = .ok (predicates, rest))
    : rest.length ≤ tokens.length := by
  fun_induction read tokens generalizing predicates rest with
  | case1 => cases h; exact Nat.le_refl _
  | case2 => cases h
  | case3 start text rest₀ closing _ predicate _ ih =>
      cases found : read (rest₀.drop closing) with
      | error fault => simp [found, bind, Except.bind] at h
      | ok pair =>
          obtain ⟨others, remaining⟩ := pair
          simp only [found, bind, Except.bind, Except.ok.injEq, Prod.mk.injEq] at h
          have := ih found
          simp only [List.length_drop] at this
          rw [← h.2]
          simp only [List.length_cons]
          omega
  | case4 start text rest₀ closing _ _ ih =>
      cases found : read (rest₀.drop closing) with
      | error fault => simp [found, bind, Except.bind] at h
      | ok pair =>
          obtain ⟨others, remaining⟩ := pair
          simp only [found, bind, Except.bind, Except.ok.injEq, Prod.mk.injEq] at h
          have := ih found
          simp only [List.length_drop] at this
          rw [← h.2]
          simp only [List.length_cons]
          omega
  | case5 => cases h; exact Nat.le_refl _

end Predicates

namespace Step

theorem length_separator? {isFirst : Bool} {tokens rest : List Token} {axis : Axis}
    (h : separator? isFirst tokens = some (axis, rest))
    : rest.length ≤ tokens.length := by
  unfold separator? at h
  split at h
  case h_5 =>
    split at h
    · cases h; exact Nat.le_refl _
    · cases h
  all_goals
    cases h
    simp only [List.length_cons]
    omega

theorem length_axisName? {tokens rest : List Token} {axis : Axis}
    (h : axisName? tokens = some (axis, rest))
    : rest.length ≤ tokens.length := by
  unfold axisName? at h
  split at h
  · simp only [Option.map_eq_some_iff, Prod.mk.injEq] at h
    obtain ⟨_, _, _, rfl⟩ := h
    simp only [List.length_cons]
    omega
  · cases h

theorem length_nodeTest? {tokens rest : List Token} {axis found : Axis} {test : NodeTest}
    (h : nodeTest? axis tokens = some (found, test, rest))
    : rest.length < tokens.length := by
  unfold nodeTest? at h
  split at h
  case h_4 =>
    split at h
    · split at h
      · cases h; simp only [List.length_cons]; omega
      · split at h
        · cases h; simp only [List.length_cons]; omega
        · cases h
    · cases h
    · cases h
    · cases h; simp only [List.length_cons]; omega
  case h_5 => cases h
  all_goals
    cases h
    simp only [List.length_cons]
    omega

/-- A step takes at least one token. -/
theorem length_read {isFirst : Bool} {tokens : List Token} {reading : Reading}
    (h : read isFirst tokens = .ok (some reading))
    : reading.rest.length < tokens.length := by
  unfold read at h
  split at h
  · cases h
  · rename_i separated
    cases h
    have := length_separator? separated
    simp only [List.length_cons] at this ⊢
    omega
  · rename_i separated
    cases h
    have := length_separator? separated
    simp only [List.length_cons] at this ⊢
    omega
  · rename_i suggested body _ _ separated
    have bound := length_separator? separated
    have named : ((axisName? body).getD (suggested, body)).snd.length ≤ body.length := by
      cases found : axisName? body with
      | none => simp
      | some pair =>
          obtain ⟨axis, inner⟩ := pair
          simpa using length_axisName? found
    revert h named
    generalize (axisName? body).getD (suggested, body) = pair
    obtain ⟨axis, inner⟩ := pair
    intro h named
    simp only at h named
    split at h
    · cases h
    · rename_i tested
      have shorter := length_nodeTest? tested
      split at h
      · cases h
        simp only
        omega
      · rename_i rest _
        cases found : Predicates.read rest with
        | error fault => simp [found, bind, Except.bind] at h
        | ok pair =>
            obtain ⟨predicates, remaining⟩ := pair
            simp only [found, bind, Except.bind, Except.ok.injEq, Option.some.injEq] at h
            have := Predicates.length_read found
            rw [← h]
            simp only
            omega

end Step

namespace Steps

/-- Reads steps until the tokens are used up or one can't be read. -/
def read (isFirst : Bool) (tokens : List Token) : Except Fault Steps :=
  if tokens = [] then .ok ⟨[], [], []⟩
  else
    match _ : Step.read isFirst tokens with
    | .error fault => .error fault
    | .ok none => .ok ⟨[], [], tokens⟩
    | .ok (some reading) => do
        let others ← read false reading.rest
        .ok ⟨reading.step :: others.steps, reading.ignored ++ others.ignored, others.rest⟩
  termination_by tokens.length
  decreasing_by exact Step.length_read ‹_›

end Steps

namespace Path

/-- Reads an expression as far as that is possible. -/
def read (expression : String) : Except Fault Path := do
  let reading ← Steps.read true (Token.scan expression)
  let remainder :=
    match reading.rest with
    | [] => ""
    | token :: _ => (excerpt expression token.position expression.length).trimmed
  .ok {
    steps := reading.steps
    remainder := remainder
    ignored := reading.ignored.map fun (first, last) => excerpt expression first last
  }

end Path

end HtmlQuery.XPath
