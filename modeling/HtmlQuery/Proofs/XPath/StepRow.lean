import HtmlQuery.Proofs.XPath.Nesting
import HtmlQuery.Proofs.XPath.StepCases

/-! Rows of tokens that are read step by step. What was read to the end is read likewise in front of
a further separator.
-/

namespace HtmlQuery.XPath

/-- What a result was before it was changed. -/
theorem ok_of_map {ε α β : Type} {f : α → β} {result : Except ε α} {value : β}
    (found : result.map f = .ok value)
    : ∃ inner, result = .ok inner ∧ f inner = value := by
  cases result with
  | error error => cases found
  | ok inner =>
      cases found
      exact ⟨inner, rfl, rfl⟩

/-- Tokens that begin with what separates two steps. -/
def Separated (tokens : List Token) : Prop :=
  ∃ token ∈ tokens.head?, token.kind = .slash ∨ token.kind = .doubleSlash

-----------------------------------------------------------------------------------------
-- Predicates
-----------------------------------------------------------------------------------------

namespace Predicates

/-- What a group at a place adds to the predicates behind it. -/
def readGroup (place : Nat × Nat) (inner : List Token) : Except Fault (Predicates → Predicates) :=
  match Predicate.read inner with
  | .ok predicate => .ok fun others => { others with known := predicate :: others.known }
  | .error .unsupported => .ok fun others => { others with ignored := place :: others.ignored }
  | .error (.fault fault) => .error fault

/-- A closed group is read up to its closer, and the others behind that. -/
theorem read_closed {start : Nat} {text : String} {inner after : List Token} {closer : Token}
    (closes : closer.kind = .closeBracket) (inside : Token.Balanced inner)
    : read (⟨start, .openBracket, text⟩ :: (inner ++ closer :: after))
      = readGroup (start, closer.position + 1) inner >>= fun extend =>
        (read after).map fun reading => (extend reading.fst, reading.snd) := by
  have closing
      : Token.closing? (⟨start, .openBracket, text⟩ :: (inner ++ closer :: after)) 0
        = some (inner.length + 1) := by
    refine Token.closing?_group ?_ inside after
    rw [closes]
    rfl
  have behind : (inner ++ closer :: after).drop (inner.length + 1) = after := by
    rw [← List.drop_drop, List.drop_left, List.drop_succ_cons, List.drop_zero]
  rw [read_group closing, Nat.add_sub_cancel, List.take_left, List.drop_left, behind, readGroup]
  rcases Predicate.read inner with (- | fault) | predicate
  · cases read after <;> rfl
  · rfl
  · cases read after <;> rfl

theorem read_closed_eq_ok {start : Nat} {text : String} {inner after rest : List Token}
    {closer : Token} {predicates : Predicates} (closes : closer.kind = .closeBracket)
    (inside : Token.Balanced inner)
    : read (⟨start, .openBracket, text⟩ :: (inner ++ closer :: after)) = .ok (predicates, rest)
      ↔ ∃ extend others,
        readGroup (start, closer.position + 1) inner = .ok extend
        ∧ read after = .ok (others, rest)
        ∧ extend others = predicates := by
  rw [read_closed closes inside]
  rcases readGroup (start, closer.position + 1) inner with fault | extend
  · simp [bind, Except.bind]
  · rcases read after with fault | ⟨others, left⟩
    · simp [bind, Except.bind, Except.map]
    · simp [bind, Except.bind, Except.map, and_assoc]
      exact and_comm

/-- How predicates are read group by group, up to tokens that begin with none or with one that is never
closed.
-/
inductive Run (rest : List Token) : List Token → Predicates → Prop
  | other (noBracket : rest.head?.map Token.kind ≠ some .openBracket) : Run rest rest ⟨[], []⟩
  | unclosed (bracket : rest.head?.map Token.kind = some .openBracket)
    (unclosed : Token.closing? rest 0 = none)
    : Run rest rest ⟨[], []⟩
  | group {start text inner closer after extend others} (closes : closer.kind = .closeBracket)
    (inside : Token.Balanced inner)
    (found : readGroup (start, closer.position + 1) inner = .ok extend)
    (more : Run rest after others)
    : Run rest (⟨start, .openBracket, text⟩ :: (inner ++ closer :: after)) (extend others)

/-- What is read is read group by group, by induction on the number of tokens. -/
theorem run_of_read {tokens rest : List Token} {predicates : Predicates}
    (found : read tokens = .ok (predicates, rest))
    : Run rest tokens predicates := by
  induction length : tokens.length using Nat.strongRecOn generalizing tokens predicates with
  | ind size ih =>
      by_cases bracket : tokens.head?.map Token.kind = some .openBracket
      · rcases tokens with - | ⟨⟨start, kind, text⟩, tokens⟩
        · cases bracket
        obtain rfl : kind = .openBracket := by simpa using bracket
        cases closes : Token.closing? (⟨start, .openBracket, text⟩ :: tokens) 0 with
        | none =>
            rw [read_unclosed closes] at found
            cases found
            exact .unclosed rfl closes
        | some closing =>
            obtain ⟨inner, closer, after, rfl, rfl, pair, inside⟩ :=
              Token.group_of_closing? rfl closes
            have kind : closer.kind = .closeBracket := (Option.some.inj pair).symm
            obtain ⟨extend, others, group, behind, rfl⟩ := (read_closed_eq_ok kind inside).mp found
            have shorter : after.length < size := by
              rw [← length, List.length_cons, List.length_append, List.length_cons]
              omega
            exact .group kind inside group (ih after.length shorter behind rfl)
      · rw [read_other bracket] at found
        cases found
        exact .other bracket

/-- A separator behind groups leaves them as they are, by induction on the groups. -/
theorem read_append {tokens rest more : List Token} {predicates : Predicates}
    (found : read tokens = .ok (predicates, rest))
    (ended : rest.head?.map Token.kind ≠ some .openBracket) (separated : Separated more)
    : read (tokens ++ more) = .ok (predicates, rest ++ more) := by
  have run := run_of_read found
  clear found
  induction run with
  | other =>
      refine read_other ?_
      cases rest with
      | nil =>
          obtain ⟨token, head, kind⟩ := separated
          obtain head : more.head? = some token := head
          rcases kind with kind | kind <;> simp [head, kind]
      | cons token tokens => exact ended
  | unclosed bracket => exact (ended bracket).elim
  | group closes inside group _ ih =>
      rw [List.cons_append, List.append_assoc, List.cons_append]
      exact (read_closed_eq_ok closes inside).mpr ⟨_, _, group, ih, rfl⟩

end Predicates

-----------------------------------------------------------------------------------------
-- Steps
-----------------------------------------------------------------------------------------

namespace Step

variable {more : List Token}

/-- What separates a step is found in front of any further text, unless it is a dot that the text
turns into a part of its own separator.
-/
theorem separator?_append (isFirst : Bool) {tokens : List Token} (nonempty : tokens ≠ [])
    (noDot : tokens.map Token.kind ≠ [.dot]) (more : List Token)
    : separator? isFirst (tokens ++ more)
      = (separator? isFirst tokens).map fun found => (found.fst, found.snd ++ more) := by
  rcases tokens with - | ⟨⟨start, kind, text⟩, - | ⟨⟨start', kind', text'⟩, rest⟩⟩
  · exact (nonempty rfl).elim
  · cases kind
    case dot => exact (noDot rfl).elim
    all_goals cases isFirst <;> rfl
  · cases kind
    case dot => cases kind' <;> cases isFirst <;> rfl
    all_goals cases isFirst <;> rfl

/-- A separator behind tokens names no axis. -/
theorem axisName?_append (tokens : List Token) (separated : Separated more)
    : axisName? (tokens ++ more)
      = (axisName? tokens).map fun found => (found.fst, found.snd ++ more) := by
  obtain ⟨⟨start, kind, text⟩, head, slash⟩ := separated
  obtain ⟨rest, rfl⟩ := List.head?_eq_some_iff.mp head
  rcases tokens with - | ⟨⟨start', kind', text'⟩, - | ⟨⟨start'', kind'', text''⟩, tokens⟩⟩
  · rcases slash with rfl | rfl <;> rfl
  · rcases slash with rfl | rfl <;> cases kind' <;> rfl
  · cases kind' <;> try rfl
    cases kind'' <;> try rfl
    simp only [List.cons_append, axisName?]
    cases Axis.ofName? text' <;> rfl

/-- A separator behind tokens belongs to no test. -/
theorem nodeTest?_append (axis : Axis) (tokens : List Token) (separated : Separated more)
    : nodeTest? axis (tokens ++ more)
      = (nodeTest? axis tokens).map fun found =>
        (found.fst, found.snd.fst, found.snd.snd ++ more) := by
  obtain ⟨⟨start, kind, text⟩, head, slash⟩ := separated
  obtain ⟨rest, rfl⟩ := List.head?_eq_some_iff.mp head
  rcases tokens with - | ⟨⟨start', kind', text'⟩, tokens⟩
  · rcases slash with rfl | rfl <;> rfl
  · rcases tokens with - | ⟨⟨start'', kind'', text''⟩, tokens⟩
    · rcases slash with rfl | rfl <;> cases kind' <;> rfl
    · cases kind' <;> try rfl
      case atSign => cases kind'' <;> rfl
      case name =>
        cases kind'' <;> try rfl
        rcases tokens with - | ⟨⟨start'', kind'', text''⟩, tokens⟩
        · rcases slash with rfl | rfl <;> rfl
        · cases kind'' <;> try rfl
          simp only [List.cons_append, nodeTest?]
          split
          · rfl
          · split <;> rfl

/-- The reading of a step in front of further tokens. -/
def Reading.before (reading : Reading) (more : List Token) : Reading :=
  { reading with rest := reading.rest ++ more }

/-- A separator behind the groups of a step leaves the step as it is. -/
theorem readGroups_append {axis : Axis} {test : NodeTest} {rest : List Token} {reading : Reading}
    (found : readGroups axis test rest = .ok (some reading))
    (ended : reading.rest.head?.map Token.kind ≠ some .openBracket) (separated : Separated more)
    : readGroups axis test (rest ++ more) = .ok (some (reading.before more)) := by
  unfold readGroups at found ⊢
  split at found
  · rename_i attributes
    cases found
    rw [if_pos attributes]
    rfl
  · rename_i attributes
    rw [if_neg attributes]
    rcases groups : Predicates.read rest with fault | ⟨predicates, behind⟩
    · simp [groups, Except.map] at found
    · rw [groups] at found
      cases found
      rw [Predicates.read_append groups ended separated]
      rfl

/-- A separator behind a test and its groups leaves them as they are. -/
theorem readTest_append {suggested : Axis} {body : List Token} {reading : Reading}
    (found : readTest suggested body = .ok (some reading))
    (ended : reading.rest.head?.map Token.kind ≠ some .openBracket) (separated : Separated more)
    : readTest suggested (body ++ more) = .ok (some (reading.before more)) := by
  have named : (axisName? (body ++ more)).getD (suggested, body ++ more)
      = (((axisName? body).getD (suggested, body)).fst,
        ((axisName? body).getD (suggested, body)).snd ++ more) := by
    rw [axisName?_append body separated]
    cases axisName? body <;> rfl
  unfold readTest at found ⊢
  rw [named]
  generalize (axisName? body).getD (suggested, body) = chosen at found ⊢
  obtain ⟨axis, inner⟩ := chosen
  simp only at found ⊢
  rw [nodeTest?_append axis inner separated]
  rcases tested : nodeTest? axis inner with - | ⟨axis, test, rest⟩
  · simp [tested] at found
  · rw [tested] at found
    exact readGroups_append found ended separated

/-- A step that was read begins with two dots or with one, or it has a test. -/
theorem cases_of_read {isFirst : Bool} {tokens : List Token} {reading : Reading}
    (found : read isFirst tokens = .ok (some reading))
    : ∃ suggested body,
        separator? isFirst tokens = some (suggested, body)
        ∧ ((∃ dots rest, (dots.kind = .doubleDot ∨ dots.kind = .dot) ∧ body = dots :: rest
            ∧ reading.rest = rest
            ∧ ∀ more, readBody suggested (body ++ more) = .ok (some (reading.before more)))
          ∨ (∀ token ∈ body.head?, token.kind ≠ .doubleDot ∧ token.kind ≠ .dot)
            ∧ body ≠ []
            ∧ readTest suggested body = .ok (some reading)) := by
  rw [read_eq] at found
  generalize separator? isFirst tokens = front at found ⊢
  rcases front with - | ⟨suggested, body⟩
  · cases found
  · refine ⟨suggested, body, rfl, ?_⟩
    simp only at found
    rcases body with - | ⟨⟨start, kind, text⟩, rest⟩
    · cases found
    · by_cases dots : kind = .doubleDot ∨ kind = .dot
      · refine .inl ⟨_, rest, dots, rfl, ?_⟩
        rcases dots with rfl | rfl
        all_goals
          cases found
          exact ⟨rfl, fun _ => rfl⟩
      · obtain ⟨noDoubleDot, noDot⟩ := not_or.mp dots
        have other : ∀ token ∈ (⟨start, kind, text⟩ :: rest : List Token).head?,
            token.kind ≠ .doubleDot ∧ token.kind ≠ .dot := by
          rintro token ⟨rfl⟩
          exact ⟨noDoubleDot, noDot⟩
        exact .inr ⟨other, by simp, (readBody_other suggested other).symm.trans found⟩

/-- Dots are a step that neither asks for a name nor has predicates, whatever follows. -/
theorem parts_of_dots {suggested : Axis} {dots : Token} {rest : List Token} {reading : Reading}
    (kind : dots.kind = .doubleDot ∨ dots.kind = .dot)
    (found : readBody suggested (dots :: rest) = .ok (some reading))
    : reading.step.test = .anyNode
      ∧ reading.step.predicates = []
      ∧ reading.ignored = []
      ∧ ∀ more, readBody suggested (dots :: more) = .ok (some ⟨reading.step, [], more⟩) := by
  obtain ⟨start, dots, text⟩ := dots
  rcases kind with kind | kind
  all_goals
    cases kind
    cases found
    exact ⟨rfl, rfl, rfl, fun _ => rfl⟩

/-- A separator behind a step leaves the step as it is. -/
theorem read_append {isFirst : Bool} {tokens : List Token} {reading : Reading}
    (found : read isFirst tokens = .ok (some reading)) (nonempty : tokens ≠ [])
    (noDot : tokens.map Token.kind ≠ [.dot])
    (ended : reading.rest.head?.map Token.kind ≠ some .openBracket) (separated : Separated more)
    : read isFirst (tokens ++ more) = .ok (some (reading.before more)) := by
  obtain ⟨suggested, body, front, shape⟩ := cases_of_read found
  rw [read_eq, separator?_append isFirst nonempty noDot, front]
  rcases shape with ⟨_, _, -, -, -, further⟩ | ⟨other, some, tested⟩
  · exact further more
  · have longer : ∀ token ∈ (body ++ more).head?, token.kind ≠ .doubleDot ∧ token.kind ≠ .dot := by
      obtain ⟨token, rest, rfl⟩ := List.exists_cons_of_ne_nil some
      exact other
    exact (readBody_other suggested longer).trans (readTest_append tested ended separated)

end Step

/-- The first step takes a leading dot for a part of the separator behind it. -/
theorem Step.read_dot (start : Nat) (text : String) {more : List Token} (separated : Separated more)
    : read true (⟨start, .dot, text⟩ :: more) = read false more := by
  obtain ⟨⟨start', kind, text'⟩, head, slash⟩ := separated
  obtain ⟨rest, rfl⟩ := List.head?_eq_some_iff.mp head
  rw [read_eq, read_eq]
  rcases slash with rfl | rfl <;> rfl

-----------------------------------------------------------------------------------------
-- Paths
-----------------------------------------------------------------------------------------

namespace Steps

variable {more : List Token}

/-- A step is not the first one only if it has a separator. -/
theorem read_first (separated : Separated more) : read true more = read false more := by
  obtain ⟨⟨start, kind, text⟩, head, slash⟩ := separated
  obtain ⟨rest, rfl⟩ := List.head?_eq_some_iff.mp head
  simp only [read_cons, Step.read_eq]
  rcases slash with rfl | rfl <;> rfl

/-- A leading dot belongs to the separator behind it. -/
theorem read_dot {start : Nat} {text : String} {reading : Steps} (separated : Separated more)
    (found : read false more = .ok reading) (complete : reading.rest = [])
    : read true (⟨start, .dot, text⟩ :: more) = .ok reading := by
  obtain ⟨token, head, slash⟩ := separated
  obtain ⟨rest, rfl⟩ := List.head?_eq_some_iff.mp head
  have same := Step.read_dot start text ⟨token, head, slash⟩
  rw [read_cons] at found ⊢
  rw [same]
  rcases step : Step.read false (token :: rest) with fault | - | step
  · simp [step] at found
  · rw [step] at found
    cases found
    cases complete
  · rw [step] at found
    exact found

/-- What is read is nothing, or one step and what is read behind it. -/
theorem cases_of_read {isFirst : Bool} {tokens : List Token} {reading : Steps}
    (found : read isFirst tokens = .ok reading)
    : reading = ⟨[], [], tokens⟩ ∧ (tokens = [] ∨ Step.read isFirst tokens = .ok none)
      ∨ ∃ step others,
        Step.read isFirst tokens = .ok (some step)
        ∧ read false step.rest = .ok others
        ∧ reading = ⟨step.step :: others.steps, step.ignored ++ others.ignored, others.rest⟩ := by
  cases tokens with
  | nil =>
      rw [read, if_pos rfl] at found
      cases found
      exact .inl ⟨rfl, .inl rfl⟩
  | cons token rest =>
      rw [read_cons] at found
      rcases first : Step.read isFirst (token :: rest) with fault | - | step
      · simp [first] at found
      · rw [first] at found
        cases found
        exact .inl ⟨rfl, .inr rfl⟩
      · simp only [first] at found
        obtain ⟨others, behind, rfl⟩ := ok_of_map found
        exact .inr ⟨step, others, rfl, behind, rfl⟩

/-- How steps are read one by one, until the tokens are used up or begin with none. -/
inductive Run : Bool → List Token → Steps → Prop
  | done {isFirst tokens} (ended : tokens = [] ∨ Step.read isFirst tokens = .ok none)
    : Run isFirst tokens ⟨[], [], tokens⟩
  | step {isFirst tokens step others} (first : Step.read isFirst tokens = .ok (some step))
    (behind : read false step.rest = .ok others) (more : Run false step.rest others)
    : Run isFirst tokens
        ⟨step.step :: others.steps, step.ignored ++ others.ignored, others.rest⟩

/-- What is read is read step by step, by induction on the number of tokens. -/
theorem run_of_read {isFirst : Bool} {tokens : List Token} {reading : Steps}
    (found : read isFirst tokens = .ok reading)
    : Run isFirst tokens reading := by
  induction length : tokens.length using Nat.strongRecOn
    generalizing isFirst tokens reading with
  | ind size ih =>
      rcases cases_of_read found with ⟨rfl, ended⟩ | ⟨step, others, first, behind, rfl⟩
      · exact .done ended
      · have shorter := Step.length_read first
        exact .step first behind (ih step.rest.length (by omega) behind rfl)

/-- Steps begin with no bracket if they are read to their end. -/
theorem noBracket_of_read {tokens : List Token} {reading : Steps}
    (found : read false tokens = .ok reading) (complete : reading.rest = [])
    : tokens.head?.map Token.kind ≠ some .openBracket := by
  intro bracket
  rcases tokens with - | ⟨⟨start, kind, text⟩, rest⟩
  · cases bracket
  obtain rfl : kind = .openBracket := by simpa using bracket
  rw [read_cons, Step.read_eq] at found
  cases found
  cases complete

/-- Steps behind others. -/
def prepend (reading others : Steps) : Steps where
  steps := reading.steps ++ others.steps
  ignored := reading.ignored ++ others.ignored
  rest := others.rest

/-- What is read to its end is read alike in front of a separator, with the further steps behind it,
by induction on the steps.
-/
theorem read_append {isFirst : Bool} {tokens : List Token} {reading : Steps}
    (found : read isFirst tokens = .ok reading) (complete : reading.rest = [])
    (begun : isFirst = true → tokens ≠ []) (noDot : tokens.map Token.kind ≠ [.dot])
    (separated : Separated more)
    : read isFirst (tokens ++ more) = (read false more).map reading.prepend := by
  have run := run_of_read found
  clear found
  induction run with
  | @done isFirst tokens =>
      obtain rfl : tokens = [] := complete
      obtain rfl : isFirst = false := by simpa using begun
      rw [List.nil_append]
      cases read false more <;> rfl
  | @step isFirst tokens step others first behind _ ih =>
      have shorter := Step.length_read first
      have ended := noBracket_of_read behind complete
      have nonempty : tokens ≠ [] := by
        rintro rfl
        cases shorter
      have step_append := Step.read_append first nonempty noDot ended separated
      have later := ih complete (by simp) ?_
      · obtain ⟨token, rest, rfl⟩ := List.exists_cons_of_ne_nil nonempty
        rw [List.cons_append] at step_append ⊢
        rw [read_cons, step_append]
        simp only [Step.Reading.before, later]
        cases read false more <;> simp [Except.map, prepend]
      · intro dot
        obtain ⟨⟨start, kind, text⟩, single, rfl⟩ := List.map_eq_singleton_iff.mp dot
        rw [single, read_cons, Step.read_eq] at behind
        cases behind
        cases complete

end Steps

end HtmlQuery.XPath
