import HtmlQuery.XPath.PathReader

/-! How steps are read: what introduces a step, the test behind it, and the groups that follow one by
one. Nothing else needs to look into the recursions.
-/

namespace HtmlQuery.XPath

-----------------------------------------------------------------------------------------
-- Groups behind a step
-----------------------------------------------------------------------------------------

namespace Predicates

/-- The predicates of the groups behind a first one that was understood. -/
def learn (predicate : Predicate) (reading : Predicates × List Token) : Predicates × List Token :=
  ({ reading.fst with known := predicate :: reading.fst.known }, reading.snd)

/-- The predicates of the groups behind a first one that was skipped. -/
def skip (place : Nat × Nat) (reading : Predicates × List Token) : Predicates × List Token :=
  ({ reading.fst with ignored := place :: reading.fst.ignored }, reading.snd)

/-- Without a bracket at the front there is nothing to read. -/
theorem read_other {tokens : List Token}
    (other : tokens.head?.map Token.kind ≠ some .openBracket)
    : read tokens = .ok (⟨[], []⟩, tokens) := by
  rcases tokens with - | ⟨⟨start, kind, text⟩, rest⟩
  · rw [read]
    simp
  · cases kind
    case openBracket => exact (other rfl).elim
    all_goals
      rw [read]
      simp

/-- A group that is never closed ends the predicates. -/
theorem read_unclosed {start : Nat} {text : String} {rest : List Token}
    (unclosed : Token.closing? (⟨start, .openBracket, text⟩ :: rest) 0 = none)
    : read (⟨start, .openBracket, text⟩ :: rest)
      = .ok (⟨[], []⟩, ⟨start, .openBracket, text⟩ :: rest) := by
  rw [read, unclosed]

/-- What is read of a group that is closed, followed by what is read behind it. -/
theorem read_group {start : Nat} {text : String} {rest : List Token} {closing : Nat}
    (closes : Token.closing? (⟨start, .openBracket, text⟩ :: rest) 0 = some closing)
    : read (⟨start, .openBracket, text⟩ :: rest)
      = match Predicate.read (rest.take (closing - 1)) with
        | .ok predicate => (read (rest.drop closing)).map (learn predicate)
        | .error .unsupported =>
            (read (rest.drop closing)).map (skip (extent start (rest.drop (closing - 1))))
        | .error (.fault fault) => .error fault := by
  rw [read, closes]
  simp only
  cases Predicate.read (rest.take (closing - 1)) with
  | ok predicate =>
      simp only
      cases read (rest.drop closing) <;> rfl
  | error refusal =>
      cases refusal with
      | fault fault => rfl
      | unsupported =>
          simp only
          cases read (rest.drop closing) <;> rfl

end Predicates

-----------------------------------------------------------------------------------------
-- Steps
-----------------------------------------------------------------------------------------

/-- Axes are known by their names. -/
theorem Axis.ofName?_eq_some {text : String} {axis : Axis}
    : ofName? text = some axis ↔ text = axis.name := by
  constructor
  · intro found
    have same := List.find?_some found
    exact (beq_iff_eq.mp same).symm
  · rintro rfl
    cases axis <;> rfl

/-- A text is rejected as the name of an axis just if no axis has it. -/
theorem Axis.ofName_eq_error {text : String} {error : PathError}
    : ofName text = .error error ↔ error = .unknownAxis ∧ ∀ axis : Axis, text ≠ axis.name := by
  have unknown : ofName? text = none ↔ ∀ axis : Axis, text ≠ axis.name := by
    simp only [Option.eq_none_iff_forall_ne_some, ne_eq, ofName?_eq_some]
  rw [← unknown, ofName]
  cases ofName? text <;> simp [eq_comm]

namespace Step

/-- Reads the groups behind a test; behind an attribute there are none. -/
def readGroups (axis : Axis) (test : NodeTest) (rest : List Token)
    : Except Fault (Option Reading) :=
  if axis = .attributes then .ok (some ⟨⟨axis, test, []⟩, [], rest⟩)
  else
    (Predicates.read rest).map fun reading =>
      some ⟨⟨axis, test, reading.fst.known⟩, reading.fst.ignored, reading.snd⟩

/-- Reads a test with its groups, after an axis that may be named. -/
def readTest (suggested : Axis) (body : List Token) : Except Fault (Option Reading) :=
  let (axis, body) := (axisName? body).getD (suggested, body)
  match nodeTest? axis body with
  | none => .ok none
  | some (axis, test, rest) => readGroups axis test rest

/-- Reads what follows the separator in front of a step. -/
def readBody (suggested : Axis) : List Token → Except Fault (Option Reading)
  | ⟨_, .doubleDot, _⟩ :: rest => .ok (some ⟨⟨.parent, .anyNode, []⟩, [], rest⟩)
  | ⟨_, .dot, _⟩ :: rest => .ok (some ⟨⟨.self, .anyNode, []⟩, [], rest⟩)
  | body => readTest suggested body

/-- A step whose body begins with no dots has a test. -/
theorem readBody_other (suggested : Axis) {body : List Token}
    (other : ∀ token ∈ body.head?, token.kind ≠ .doubleDot ∧ token.kind ≠ .dot)
    : readBody suggested body = readTest suggested body := by
  rcases body with - | ⟨⟨start, kind, text⟩, body⟩
  · rfl
  · obtain ⟨noDoubleDot, noDot⟩ := other ⟨start, kind, text⟩ (by simp)
    cases kind
    case doubleDot => exact (noDoubleDot rfl).elim
    case dot => exact (noDot rfl).elim
    all_goals rfl

/-- A step is what follows its separator. -/
theorem read_eq (isFirst : Bool) (tokens : List Token)
    : read isFirst tokens
      = match separator? isFirst tokens with
        | none => .ok none
        | some (suggested, body) => readBody suggested body := by
  unfold read
  cases separator? isFirst tokens with
  | none => rfl
  | some separated =>
      obtain ⟨suggested, body⟩ := separated
      rcases body with - | ⟨⟨start, kind, text⟩, body⟩
      · rfl
      · cases kind
        case doubleDot => rfl
        case dot => rfl
        all_goals
          simp only [readBody, readTest]
          generalize nodeTest? _ _ = tested
          rcases tested with - | ⟨axis, test, rest⟩
          · rfl
          · simp only [readGroups]
            split
            · rfl
            · cases Predicates.read rest <;> rfl

end Step

/-- Without tokens there are no steps. -/
theorem Steps.read_nil (isFirst : Bool) : read isFirst [] = .ok ⟨[], [], []⟩ := by
  rw [read, if_pos rfl]

/-- Steps are read one by one until none can be read. -/
theorem Steps.read_cons (isFirst : Bool) (token : Token) (rest : List Token)
    : read isFirst (token :: rest)
      = match Step.read isFirst (token :: rest) with
        | .error fault => .error fault
        | .ok none => .ok ⟨[], [], token :: rest⟩
        | .ok (some reading) =>
            (read false reading.rest).map fun others =>
              ⟨reading.step :: others.steps, reading.ignored ++ others.ignored, others.rest⟩ := by
  rw [read, if_neg (by simp)]
  rcases Step.read isFirst (token :: rest) with fault | - | reading
  · rfl
  · rfl
  · simp only
    cases read false reading.rest <;> rfl

end HtmlQuery.XPath
