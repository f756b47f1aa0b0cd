import HtmlQuery.Proofs.XPath.Concatenation

/-! The part of an expression in front of the place that its error names is an expression of its own,
which is read to its end with the same result. Readers look ahead, but what they see behind the tokens
they take only matters as a reason to stop, and the end of the expression is one too.
-/

namespace HtmlQuery.XPath

open HtmlQuery.Text

-----------------------------------------------------------------------------------------
-- What readers take
-----------------------------------------------------------------------------------------

/-- A reader takes the tokens in front of others and does the same when less of the others is left.
Its result says what it leaves over, so it depends on that.
-/
def Takes {α : Type} (read result : List Token → α) (tokens rest : List Token) : Prop :=
  ∃ row, tokens = row ++ rest ∧ ∀ short, short <+: rest → read (row ++ short) = result short

namespace Takes

variable {α β : Type} {tokens middle rest : List Token}

/-- A reader that goes on with what another one leaves over takes what both of them take. -/
theorem trans {first found : List Token → α} {second whole result : List Token → β}
    (front : Takes first found tokens middle) (back : Takes second result middle rest)
    (goes : ∀ tokens middle, first tokens = found middle → whole tokens = second middle)
    : Takes whole result tokens rest := by
  obtain ⟨row, rfl, reads⟩ := front
  obtain ⟨others, rfl, further⟩ := back
  refine ⟨row ++ others, (List.append_assoc ..).symm, fun short within => ?_⟩
  rw [List.append_assoc, goes _ _ (reads _ ((List.prefix_append_right_inj others).mpr within))]
  exact further short within

/-- Readers that do the same with all shorter rows take the same. -/
theorem congr {read other result : List Token → α} (takes : Takes read result tokens rest)
    (same : ∀ short, short <+: tokens → other short = read short)
    : Takes other result tokens rest := by
  obtain ⟨row, rfl, reads⟩ := takes
  refine ⟨row, rfl, fun short within => ?_⟩
  rw [same _ ((List.prefix_append_right_inj row).mpr within), reads short within]

end Takes

/-- What begins a shorter row begins the longer one. -/
theorem head?_of_shorter {short tokens : List Token} {token : Token} (within : short <+: tokens)
    (head : token ∈ short.head?)
    : token ∈ tokens.head? := by
  obtain ⟨more, rfl⟩ := within
  obtain ⟨rest, rfl⟩ := List.head?_eq_some_iff.mp head
  rfl

-----------------------------------------------------------------------------------------
-- Predicates
-----------------------------------------------------------------------------------------

namespace Predicates

/-- A group that is never closed isn't closed in a shorter row either. -/
theorem read_of_unclosed {tokens short : List Token}
    (bracket : tokens.head?.map Token.kind = some .openBracket)
    (unclosed : Token.closing? tokens 0 = none) (within : short <+: tokens)
    : read short = .ok (⟨[], []⟩, short) := by
  obtain ⟨more, rfl⟩ := within
  rcases short with - | ⟨⟨start, kind, text⟩, short⟩
  · exact read_other (by simp)
  · obtain rfl : kind = .openBracket := by simpa using bracket
    cases closes : Token.closing? (⟨start, .openBracket, text⟩ :: short) 0 with
    | none => exact read_unclosed closes
    | some closing =>
        obtain ⟨inner, closer, after, rfl, -, pair, inside⟩ := Token.group_of_closing? rfl closes
        rw [List.cons_append, List.append_assoc, List.cons_append,
          Token.closing?_group pair inside] at unclosed
        cases unclosed

/-- Predicates take their groups, by induction on them. -/
theorem takes_of_read {tokens rest : List Token} {predicates : Predicates}
    (found : read tokens = .ok (predicates, rest))
    : Takes read (fun short => .ok (predicates, short)) tokens rest := by
  have run := run_of_read found
  clear found
  induction run with
  | other noBracket =>
      refine ⟨[], rfl, fun short within => read_other fun bracket => noBracket ?_⟩
      obtain ⟨token, head, kind⟩ := Option.map_eq_some_iff.mp bracket
      rw [head?_of_shorter within head, Option.map_some, kind]
  | unclosed bracket unclosed =>
      exact ⟨[], rfl, fun short within => read_of_unclosed bracket unclosed within⟩
  | @group start text inner closer after extend others closes inside group _ ih =>
      obtain ⟨row, rfl, reads⟩ := ih
      refine ⟨⟨start, .openBracket, text⟩ :: (inner ++ closer :: row), by simp, ?_⟩
      intro short within
      rw [List.cons_append, List.append_assoc, List.cons_append]
      exact (read_closed_eq_ok closes inside).mpr ⟨_, _, group, reads short within, rfl⟩

end Predicates

-----------------------------------------------------------------------------------------
-- Steps
-----------------------------------------------------------------------------------------

namespace Step

theorem takes_of_separator? {isFirst : Bool} {tokens body : List Token} {suggested : Axis}
    (found : separator? isFirst tokens = some (suggested, body))
    : Takes (separator? isFirst) (fun short => some (suggested, short)) tokens body := by
  have whole := found
  unfold separator? at found
  split at found
  case h_5 =>
    split at found
    · rename_i first
      cases found
      obtain rfl : isFirst = true := first
      refine ⟨[], rfl, fun short within => ?_⟩
      obtain ⟨more, rfl⟩ := within
      by_cases empty : short = []
      · rw [empty]
        rfl
      · by_cases dot : short.map Token.kind = [.dot]
        · obtain ⟨⟨start, kind, text⟩, rfl, rfl⟩ := List.map_eq_singleton_iff.mp dot
          rfl
        · rw [separator?_append true empty dot] at whole
          obtain ⟨⟨axis, left⟩, separated, same⟩ := Option.map_eq_some_iff.mp whole
          obtain ⟨rfl, same⟩ := Prod.mk.inj same
          obtain rfl : left = short := List.append_cancel_right same
          exact separated
    · cases found
  all_goals
    cases found
    first
      | exact ⟨[_, _], rfl, fun _ _ => rfl⟩
      | exact ⟨[_], rfl, fun _ _ => rfl⟩

theorem takes_of_axisName? {suggested axis : Axis} {tokens rest : List Token}
    (found : (axisName? tokens).getD (suggested, tokens) = (axis, rest))
    : Takes (fun tokens => (axisName? tokens).getD (suggested, tokens)) (fun short => (axis, short))
        tokens rest := by
  cases named : axisName? tokens with
  | none =>
      rw [named] at found
      cases found
      refine ⟨[], rfl, fun short within => ?_⟩
      obtain ⟨more, rfl⟩ := within
      have unnamed : axisName? short = none := by
        rcases short with - | ⟨⟨start, kind, text⟩, - | ⟨⟨start', kind', text'⟩, short⟩⟩
        · rfl
        · cases kind <;> rfl
        · cases kind <;> try rfl
          cases kind' <;> try rfl
          simpa [axisName?] using named
      simp only [List.nil_append, unnamed]
      rfl
  | some pair =>
      rw [named] at found
      obtain rfl : pair = (axis, rest) := found
      unfold axisName? at named
      split at named
      · obtain ⟨axis, known, same⟩ := Option.map_eq_some_iff.mp named
        cases same
        refine ⟨[_, _], rfl, fun short _ => ?_⟩
        simp only [List.cons_append, List.nil_append, axisName?, known]
        rfl
      · cases named

theorem takes_of_nodeTest? {axis found : Axis} {test : NodeTest} {tokens rest : List Token}
    (tested : nodeTest? axis tokens = some (found, test, rest))
    : Takes (nodeTest? axis) (fun short => some (found, test, short)) tokens rest := by
  unfold nodeTest? at tested
  split at tested
  · cases tested
    exact ⟨[_, _], rfl, fun _ _ => rfl⟩
  · cases tested
    exact ⟨[_, _], rfl, fun _ _ => rfl⟩
  · cases tested
    exact ⟨[_], rfl, fun _ _ => rfl⟩
  · split at tested
    · split at tested
      · rename_i node
        cases tested
        exact ⟨[_, _, _], rfl, fun _ _ => by simp [nodeTest?, node]⟩
      · split at tested
        · rename_i other text
          cases tested
          exact ⟨[_, _, _], rfl, fun _ _ => by simp [nodeTest?, text]⟩
        · cases tested
    · cases tested
    · cases tested
    · rename_i name rest noCall noParen noColons
      cases tested
      refine ⟨[_], rfl, fun short within => ?_⟩
      obtain ⟨more, rfl⟩ := within
      rcases short with - | ⟨⟨start, kind, text⟩, short⟩
      · rfl
      · cases kind
        case openParen => exact (noParen _ _ _ rfl).elim
        case doubleColon => exact (noColons _ _ _ rfl).elim
        all_goals rfl
  · cases tested

/-- The reading of a step that leaves other tokens over. -/
def Reading.leaving (reading : Reading) (rest : List Token) : Reading :=
  { reading with rest := rest }

theorem takes_of_readGroups {axis : Axis} {test : NodeTest} {tokens : List Token}
    {reading : Reading} (found : readGroups axis test tokens = .ok (some reading))
    : Takes (readGroups axis test) (fun short => .ok (some (reading.leaving short))) tokens
        reading.rest := by
  unfold readGroups at found
  split at found
  · rename_i attributes
    cases found
    refine ⟨[], rfl, fun short _ => ?_⟩
    rw [readGroups, if_pos attributes]
    rfl
  · rename_i nodes
    obtain ⟨⟨predicates, rest⟩, groups, same⟩ := ok_of_map found
    cases same
    obtain ⟨row, rfl, reads⟩ := Predicates.takes_of_read groups
    refine ⟨row, rfl, fun short within => ?_⟩
    rw [readGroups, if_neg nodes, reads short within]
    rfl

/-- Reads a test with its groups behind an axis that is known. -/
def readTested (axis : Axis) (tokens : List Token) : Except Fault (Option Reading) :=
  match nodeTest? axis tokens with
  | none => .ok none
  | some (axis, test, rest) => readGroups axis test rest

theorem takes_of_readTested {axis : Axis} {tokens : List Token} {reading : Reading}
    (found : readTested axis tokens = .ok (some reading))
    : Takes (readTested axis) (fun short => .ok (some (reading.leaving short))) tokens
        reading.rest := by
  rw [readTested] at found
  rcases tested : nodeTest? axis tokens with - | ⟨axis, test, rest⟩
  · simp [tested] at found
  · rw [tested] at found
    refine (takes_of_nodeTest? tested).trans (takes_of_readGroups found) ?_
    intro tokens middle same
    rw [readTested, same]

theorem takes_of_readTest {suggested : Axis} {body : List Token} {reading : Reading}
    (found : readTest suggested body = .ok (some reading))
    : Takes (readTest suggested) (fun short => .ok (some (reading.leaving short))) body
        reading.rest := by
  rcases named : (axisName? body).getD (suggested, body) with ⟨axis, inner⟩
  have tested : readTested axis inner = .ok (some reading) := by
    rw [readTest, named] at found
    exact found
  refine (takes_of_axisName? named).trans (takes_of_readTested tested) ?_
  intro tokens middle same
  rw [readTest, same]
  rfl

theorem takes_of_readBody {suggested : Axis} {body : List Token} {reading : Reading}
    (found : readBody suggested body = .ok (some reading))
    : Takes (readBody suggested) (fun short => .ok (some (reading.leaving short))) body
        reading.rest := by
  by_cases dots : ∃ token ∈ body.head?, token.kind = .doubleDot ∨ token.kind = .dot
  · obtain ⟨⟨start, kind, text⟩, head, dots⟩ := dots
    obtain ⟨rest, rfl⟩ := List.head?_eq_some_iff.mp head
    rcases dots with dots | dots
    all_goals
      cases dots
      cases found
      exact ⟨[_], rfl, fun _ _ => rfl⟩
  · have other : ∀ token ∈ body.head?, token.kind ≠ .doubleDot ∧ token.kind ≠ .dot := by
      intro token head
      exact not_or.mp fun kind => dots ⟨token, head, kind⟩
    rw [readBody_other suggested other] at found
    refine (takes_of_readTest found).congr fun short within => ?_
    exact readBody_other suggested fun token head => other token (head?_of_shorter within head)

/-- A step takes what introduces it, its test and its groups. -/
theorem takes_of_read {isFirst : Bool} {tokens : List Token} {reading : Reading}
    (found : read isFirst tokens = .ok (some reading))
    : Takes (read isFirst) (fun short => .ok (some (reading.leaving short))) tokens
        reading.rest := by
  rw [read_eq] at found
  rcases front : separator? isFirst tokens with - | ⟨suggested, body⟩
  · simp [front] at found
  · rw [front] at found
    refine (takes_of_separator? front).trans (takes_of_readBody found) fun tokens middle same => ?_
    rw [read_eq, same]

end Step

/-- Without the tokens that they leave over, the same steps are read, by induction on them. -/
theorem Steps.read_taken {isFirst : Bool} {tokens : List Token} {reading : Steps}
    (found : read isFirst tokens = .ok reading)
    : ∃ row,
        tokens = row ++ reading.rest
        ∧ read isFirst row = .ok ⟨reading.steps, reading.ignored, []⟩ := by
  have run := run_of_read found
  clear found
  induction run with
  | @done isFirst tokens => exact ⟨[], rfl, read_nil isFirst⟩
  | @step isFirst tokens step others first _ _ ih =>
      obtain ⟨taken, left, further⟩ := ih
      obtain ⟨row, rfl, reads⟩ := Step.takes_of_read first
      have again := reads taken ⟨others.rest, left.symm⟩
      have some : row ++ taken ≠ [] := by
        intro empty
        have shorter := Step.length_read again
        simp [empty] at shorter
      refine ⟨row ++ taken, by rw [left, List.append_assoc], ?_⟩
      obtain ⟨token, rest, whole⟩ := List.exists_cons_of_ne_nil some
      rw [whole] at again ⊢
      rw [read_cons, again]
      simp only [Step.Reading.leaving, further]
      rfl

-----------------------------------------------------------------------------------------
-- Skipped predicates
-----------------------------------------------------------------------------------------

/-- Each of some places ends with one of the tokens, which closes a group. -/
def ClosedBy (tokens : List Token) (places : List (Nat × Nat)) : Prop :=
  ∀ place ∈ places, ∃ closer ∈ tokens, place.snd = closer.position + 1

theorem ClosedBy.mono {tokens more : List Token} {places : List (Nat × Nat)}
    (closed : ClosedBy tokens places) (within : tokens ⊆ more)
    : ClosedBy more places := by
  intro place member
  obtain ⟨closer, inside, same⟩ := closed place member
  exact ⟨closer, within inside, same⟩

/-- Skipped groups end with their closers, by induction on the groups. -/
theorem Predicates.closedBy_of_read {tokens rest : List Token} {predicates : Predicates}
    (found : read tokens = .ok (predicates, rest))
    : ClosedBy tokens predicates.ignored := by
  have run := run_of_read found
  clear found
  induction run with
  | other | unclosed => simp [ClosedBy]
  | @group start text inner closer after extend others _ _ group _ ih =>
      have later : ClosedBy (⟨start, .openBracket, text⟩ :: (inner ++ closer :: after))
          others.ignored :=
        ih.mono fun token member => by simp [member]
      unfold readGroup at group
      split at group
      · cases group
        exact later
      · cases group
        exact List.forall_mem_cons.mpr ⟨⟨closer, by simp, rfl⟩, later⟩
      · cases group

namespace Step

theorem closedBy_of_readTested {axis : Axis} {tokens : List Token} {reading : Reading}
    (found : readTested axis tokens = .ok (some reading))
    : ClosedBy tokens reading.ignored := by
  rw [readTested] at found
  rcases tested : nodeTest? axis tokens with - | ⟨axis, test, rest⟩
  · simp [tested] at found
  · obtain ⟨row, rfl, -⟩ := test_of_nodeTest? tested
    simp only [tested, readGroups] at found
    split at found
    · cases found
      simp [ClosedBy]
    · obtain ⟨⟨predicates, rest⟩, groups, same⟩ := ok_of_map found
      cases same
      exact (Predicates.closedBy_of_read groups).mono (List.subset_append_right ..)

/-- Skipped groups of a step end with their closers. -/
theorem closedBy_of_read {isFirst : Bool} {tokens : List Token} {reading : Reading}
    (found : read isFirst tokens = .ok (some reading))
    : ClosedBy tokens reading.ignored := by
  obtain ⟨suggested, body, front, shape⟩ := cases_of_read found
  obtain ⟨marker, rfl, -⟩ := marker_of_separator? front
  refine ClosedBy.mono ?_ (List.subset_append_right ..)
  rcases shape with ⟨dots, rest, kind, rfl, -, further⟩ | ⟨-, -, tested⟩
  · obtain ⟨-, -, nothing, -⟩ := parts_of_dots kind (further [])
    have nothing : reading.ignored = [] := nothing
    simp [ClosedBy, nothing]
  · rcases named : (axisName? body).getD (suggested, body) with ⟨axis, inner⟩
    obtain ⟨_, naming, rfl, -, -⟩ := naming_of_axisName? named
    rw [readTest, named] at tested
    exact (closedBy_of_readTested tested).mono (List.subset_append_right ..)

end Step

/-- Skipped groups of steps end with their closers, by induction on the steps. -/
theorem Steps.closedBy_of_read {isFirst : Bool} {tokens : List Token} {reading : Steps}
    (found : read isFirst tokens = .ok reading)
    : ClosedBy tokens reading.ignored := by
  have run := run_of_read found
  clear found
  induction run with
  | done => simp [ClosedBy]
  | @step isFirst tokens step others first _ _ ih =>
      obtain ⟨row, rfl, -⟩ := Step.takes_of_read first
      intro place member
      rcases List.mem_append.mp member with member | member
      · exact Step.closedBy_of_read first place member
      · exact ih.mono (List.subset_append_right row step.rest) place member

-----------------------------------------------------------------------------------------
-- Expressions
-----------------------------------------------------------------------------------------

/-- What is shown of a text doesn't depend on what stands behind it. -/
theorem excerpt_of_front {expression : String} {front back : List Char}
    (shape : expression.toList = front ++ back) (first : Nat) {last : Nat}
    (within : last ≤ front.length)
    : excerpt (String.ofList front) first last = excerpt expression first last := by
  rw [excerpt, excerpt, String.toList_ofList, shape, List.take_append_of_le_length within]

/-- The text in front of the first token that is left over is read as the same steps. -/
theorem Steps.read_front {expression : String} {steps : List Step} {ignored : List (Nat × Nat)}
    {token : Token} {rest : List Token}
    (found : read true (Token.scan expression) = .ok ⟨steps, ignored, token :: rest⟩)
    : ∃ front c back,
        expression.toList = front ++ c :: back
        ∧ token.position = front.length
        ∧ isBlank c = false
        ∧ read true (Token.scan (String.ofList front)) = .ok ⟨steps, ignored, []⟩
        ∧ ∀ place ∈ ignored, place.snd ≤ front.length := by
  obtain ⟨row, scanned, taken⟩ := read_taken found
  obtain ⟨front, c, back, shape, place, visible, laid⟩ := Token.laid_of_scanFrom_append scanned
  refine ⟨front, c, back, shape, by omega, visible, ?_, ?_⟩
  · rw [Token.scan, String.toList_ofList, laid.scanFrom_eq]
    exact taken
  · intro extent member
    obtain ⟨closer, inside, last⟩ := closedBy_of_read taken extent member
    have before := laid.position_lt closer inside
    omega

namespace Path

/-- The place that the error names is the beginning of a token, what is left over begins there, and
what stands in front of it is read to its end as the same steps, with the same predicates skipped.
-/
theorem read_accepted_prefix {expression : String} {path : Path}
    (found : read expression = .ok path) (left : path.remainder ≠ "") (document : Document)
    (items : List Item)
    : ∃ error, ∃ token ∈ Token.scan expression,
        outcome document expression items = .error (.unreadable error)
        ∧ error.position = some (token.position : Int)
        ∧ (String.ofList (expression.toList.drop token.position)).trimmed = path.remainder
        ∧ read (String.ofList (expression.toList.take token.position))
          = .ok { path with remainder := "" } := by
  have unfinished : path.isComplete = false := by
    simp [isComplete, left]
  have rejected := outcome_of_incomplete found unfinished document items
  rcases reads : Steps.read true (Token.scan expression)
    with fault | ⟨steps, ignored, - | ⟨token, rest⟩⟩
  · rw [read, reads] at found
    cases found
  · rw [read_of_steps reads] at found
    cases found
    exact (left rfl).elim
  · obtain ⟨row, whole, -⟩ := Steps.read_taken reads
    obtain ⟨front, c, back, shape, place, visible, accepted, within⟩ := Steps.read_front reads
    have before : expression.toList.take token.position = front := by
      rw [place, shape, List.take_left]
    have behind : expression.toList.drop token.position = c :: back := by
      rw [place, shape, List.drop_left]
    have remainder : (excerpt expression token.position expression.length).trimmed
        = String.ofList (c :: trimEnd back) := by
      rw [place, excerpt_from shape, trimmed_visible back visible]
    rw [read_of_rest reads] at found
    obtain rfl := Except.ok.inj found
    refine ⟨_, token, by simp [whole], rejected, ?_, ?_, ?_⟩
    · simp only [incomplete, remainder]
      rw [shape, trimEnd_append_visible front back visible, place, String.length_ofList,
        List.length_append, Int.natCast_add, Int.add_sub_cancel]
    · rw [behind, trimmed_visible back visible]
      exact remainder.symm
    · rw [before, read_of_steps accepted]
      simp only [Except.ok.injEq, Path.mk.injEq, true_and]
      refine List.map_congr_left fun extent member => ?_
      exact excerpt_of_front shape extent.fst (within extent member)

/-- A bracket that is never closed is where an expression can't be read any further; up to there, it
has two steps and a predicate that is skipped.
-/
theorem read_before_bracket
    : read " p[b=c]/.. [2 "
        = .ok ⟨[⟨.child, .name "p", []⟩, ⟨.parent, .anyNode, []⟩], "[2", ["[b=c]"]⟩
      ∧ ∃ error,
        outcome (.fragment [.element "p" [] []]) " p[b=c]/.. [2 " [.node .document]
            = .error (.unreadable error)
          ∧ error.position = some 11
          ∧ read " p[b=c]/.. "
            = .ok ⟨[⟨.child, .name "p", []⟩, ⟨.parent, .anyNode, []⟩], "", ["[b=c]"]⟩ := by
  have scanned : Token.scan " p[b=c]/.. [2 "
      = [⟨1, .name, "p"⟩, ⟨2, .openBracket, "["⟩, ⟨3, .name, "b"⟩, ⟨4, .relation, "="⟩,
        ⟨5, .name, "c"⟩, ⟨6, .closeBracket, "]"⟩, ⟨7, .slash, "/"⟩, ⟨8, .doubleDot, ".."⟩,
        ⟨11, .openBracket, "["⟩, ⟨12, .number, "2"⟩] := by
    decide +kernel
  have found : read " p[b=c]/.. [2 "
      = .ok ⟨[⟨.child, .name "p", []⟩, ⟨.parent, .anyNode, []⟩], "[2", ["[b=c]"]⟩ := by
    rw [read, scanned, Steps.read_cons, Step.read_eq]
    decide +kernel
  refine ⟨found, ?_⟩
  obtain ⟨error, token, member, rejected, place, rest, accepted⟩ :=
    read_accepted_prefix found (by decide) (.fragment [.element "p" [] []]) [.node .document]
  have position : token.position = 11 := by
    rw [scanned] at member
    simp only [List.mem_cons, List.not_mem_nil, or_false] at member
    rcases member with rfl | rfl | rfl | rfl | rfl | rfl | rfl | rfl | rfl | rfl
    all_goals first | rfl | (revert rest; decide +kernel)
  rw [position] at place accepted
  exact ⟨error, rejected, place, accepted⟩

end Path

end HtmlQuery.XPath
