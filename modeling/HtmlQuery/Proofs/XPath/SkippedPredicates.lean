import HtmlQuery.Proofs.XPath.Lossless
import HtmlQuery.Proofs.XPath.PathSpelling

/-! Predicates that are skipped, and expressions without them. A skipped predicate is a group of its own
among the tokens, so it can be taken out of them, and a blank in its place keeps what it stood between
apart.
-/

namespace HtmlQuery.XPath

open Grammar

-----------------------------------------------------------------------------------------
-- Rows without their refused groups
-----------------------------------------------------------------------------------------

/-- A row of tokens, the extents of some refused groups in it, and what is left of it without them. -/
inductive Cleared : List Token → List (Nat × Nat) → List Token → Prop
  | none (row) : Cleared row [] row
  | group (front) {start text inner closer behind extents left}
    (closes : closer.kind = .closeBracket) (inside : Token.Balanced inner)
    (refused : Predicate.read inner = .error .unsupported) (more : Cleared behind extents left)
    : Cleared (front ++ ⟨start, .openBracket, text⟩ :: (inner ++ closer :: behind))
        ((start, closer.position + 1) :: extents) (front ++ left)

namespace Cleared

variable {tokens left : List Token} {extents : List (Nat × Nat)}

/-- Each extent is that of a refused group of the row, by induction on the groups. -/
theorem group_of_mem (cleared : Cleared tokens extents left) {extent : Nat × Nat}
    (member : extent ∈ extents)
    : ∃ front start sign inner closer behind,
        tokens = front ++ ⟨start, .openBracket, sign⟩ :: (inner ++ closer :: behind)
        ∧ extent = (start, closer.position + 1)
        ∧ closer.kind = .closeBracket
        ∧ Token.Balanced inner
        ∧ Predicate.read inner = .error .unsupported := by
  induction cleared with
  | none => cases member
  | @group front start sign inner closer behind extents left closes inside refused _ ih =>
      rcases List.mem_cons.mp member with rfl | member
      · exact ⟨front, start, sign, inner, closer, behind, rfl, rfl, closes, inside, refused⟩
      · obtain ⟨more, start', sign', inner', closer', behind', rfl, shape⟩ := ih member
        refine ⟨front ++ ⟨start, .openBracket, sign⟩ :: (inner ++ closer :: more), start', sign',
          inner', closer', behind', by simp, shape⟩

theorem prepend (row : List Token) (cleared : Cleared tokens extents left)
    : Cleared (row ++ tokens) extents (row ++ left) := by
  cases cleared with
  | none => exact .none _
  | group front closes inside refused more =>
      rw [← List.append_assoc, ← List.append_assoc]
      exact .group (row ++ front) closes inside refused more

/-- What is taken out of two rows one behind the other, by induction on the groups of the first. -/
theorem append {tokens' left' : List Token} {extents' : List (Nat × Nat)}
    (first : Cleared tokens extents left) (second : Cleared tokens' extents' left')
    : Cleared (tokens ++ tokens') (extents ++ extents') (left ++ left') := by
  induction first with
  | none row => exact second.prepend row
  | group front closes inside refused _ ih =>
      rw [List.append_assoc, List.append_assoc, List.cons_append, List.append_assoc,
        List.cons_append]
      exact .group front closes inside refused ih

end Cleared

/-- What is left of the groups behind a step is read as the same predicates, with none that is skipped,
by induction on the groups.
-/
theorem Predicates.cleared_of_read {tokens rest : List Token} {predicates : Predicates}
    (found : read tokens = .ok (predicates, rest))
    (ended : rest.head?.map Token.kind ≠ some .openBracket)
    : ∃ row left,
        tokens = row ++ rest
        ∧ Cleared row predicates.ignored left
        ∧ Groups left
        ∧ ∀ more : List Token, more.head?.map Token.kind ≠ some .openBracket →
          read (left ++ more) = .ok (⟨predicates.known, []⟩, more) := by
  have run := run_of_read found
  clear found
  induction run with
  | other => exact ⟨[], [], rfl, .none [], .nil, fun more other => read_other other⟩
  | unclosed bracket => exact (ended bracket).elim
  | @group start text inner closer after extend others closes inside group _ ih =>
      obtain ⟨row, left, rfl, cleared, grouped, reads⟩ := ih
      have shape (row : List Token) : ⟨start, .openBracket, text⟩ :: (inner ++ closer :: row)
          = (⟨start, .openBracket, text⟩ :: (inner ++ [closer])) ++ row := by
        simp
      unfold readGroup at group
      split at group
      · rename_i predicate known
        cases group
        refine ⟨⟨start, .openBracket, text⟩ :: (inner ++ closer :: row),
          ⟨start, .openBracket, text⟩ :: (inner ++ closer :: left), by simp, ?_,
          .cons rfl inside closes grouped, fun more other => ?_⟩
        · rw [shape row, shape left]
          exact cleared.prepend _
        · rw [List.cons_append, List.append_assoc, List.cons_append]
          refine (read_closed_eq_ok closes inside).mpr
            ⟨fun others => { others with known := predicate :: others.known }, _, ?_,
              reads more other, rfl⟩
          rw [readGroup, known]
      · rename_i refused
        cases group
        exact ⟨⟨start, .openBracket, text⟩ :: (inner ++ closer :: row), left, by simp,
          .group [] closes inside refused cleared, grouped, reads⟩
      · cases group

namespace Step

/-- A test stands behind no name of an axis. -/
theorem axisName?_of_nodeTest? {axis : Axis} {tokens : List Token}
    {result : Axis × NodeTest × List Token} (tested : nodeTest? axis tokens = some result)
    : axisName? tokens = none := by
  rcases tokens with - | ⟨⟨start, kind, text⟩, - | ⟨⟨start', kind', text'⟩, rest⟩⟩
  · rfl
  · cases kind <;> rfl
  · cases kind <;> try rfl
    cases kind' <;> try rfl
    cases tested

/-- A test is found in front of everything that does not change its name. -/
theorem nodeTest?_unbound {axis found : Axis} {tokens rest : List Token} {test : NodeTest}
    (tested : nodeTest? axis tokens = some (found, test, rest))
    : ∃ token row,
        tokens = token :: (row ++ rest)
        ∧ (token.kind = .name ∨ token.kind = .atSign ∨ token.kind = .asterisk)
        ∧ ∀ more, Unbound more →
          nodeTest? axis (token :: (row ++ more)) = some (found, test, more) := by
  unfold nodeTest? at tested
  split at tested
  · cases tested
    exact ⟨_, [_], rfl, by simp, fun more _ => rfl⟩
  · cases tested
    exact ⟨_, [_], rfl, by simp, fun more _ => rfl⟩
  · cases tested
    exact ⟨_, [], rfl, by simp, fun more _ => rfl⟩
  · split at tested
    · split at tested
      · rename_i node
        cases tested
        refine ⟨_, [_, _], rfl, by simp, fun more _ => ?_⟩
        simp [nodeTest?, node]
      · split at tested
        · rename_i other text
          cases tested
          refine ⟨_, [_, _], rfl, by simp, fun more _ => ?_⟩
          simp [nodeTest?, text]
        · cases tested
    · cases tested
    · cases tested
    · cases tested
      refine ⟨_, [], rfl, by simp, fun more unbound => ?_⟩
      rcases more with - | ⟨⟨start, kind, text⟩, more⟩
      · rfl
      · obtain ⟨noParen, noColons⟩ := unbound _ rfl
        cases kind
        case openParen => exact (noParen rfl).elim
        case doubleColon => exact (noColons rfl).elim
        all_goals rfl
  · cases tested

/-- What separates steps is found in front of everything that begins with the same token; behind a dot,
the next kind matters, too.
-/
theorem separator?_again {isFirst : Bool} {tokens body : List Token} {token : Token}
    {suggested : Axis} (found : separator? isFirst tokens = some (suggested, token :: body))
    : ∃ marker,
        tokens = marker ++ token :: body
        ∧ ∀ more : List Token,
          (token.kind = .dot → more.head?.map Token.kind = body.head?.map Token.kind) →
          separator? isFirst (marker ++ token :: more) = some (suggested, token :: more) := by
  obtain ⟨marker, rfl, ⟨rfl, rfl⟩ | marked⟩ := marker_of_separator? found
  · refine ⟨[], rfl, fun more same => ?_⟩
    obtain ⟨start, kind, text⟩ := token
    rw [List.nil_append] at found ⊢
    cases kind
    case dot =>
      -- only a slash behind the dot would make it part of a separator
      replace same := same rfl
      rcases body with - | ⟨⟨start', kind', text'⟩, body⟩
      · obtain rfl : more = [] := by simpa using same
        exact found
      · obtain ⟨⟨start'', kind'', text''⟩, head, kind⟩ := Option.map_eq_some_iff.mp same
        obtain ⟨rest, rfl⟩ := List.head?_eq_some_iff.mp head
        obtain rfl : kind'' = kind' := kind
        cases kind'' <;> cases found <;> rfl
    all_goals
      cases found
      try rfl
  · obtain ⟨axis, -, front⟩ := separator?_of_marker marked isFirst
    rw [front] at found
    cases found
    exact ⟨marker, rfl, fun more _ => front _⟩

theorem cleared_of_readGroups {axis : Axis} {test : NodeTest} {rest : List Token}
    {reading : Reading} (found : readGroups axis test rest = .ok (some reading))
    (ended : reading.rest.head?.map Token.kind ≠ some .openBracket)
    : ∃ row left,
        rest = row ++ reading.rest
        ∧ Cleared row reading.ignored left
        ∧ Groups left
        ∧ ∀ more : List Token, more.head?.map Token.kind ≠ some .openBracket →
          readGroups axis test (left ++ more) = .ok (some ⟨reading.step, [], more⟩) := by
  unfold readGroups at found ⊢
  split at found
  · rename_i attributes
    cases found
    exact ⟨[], [], rfl, .none [], .nil, fun more _ => by rw [if_pos attributes]; rfl⟩
  · rename_i nodes
    obtain ⟨⟨predicates, behind⟩, groups, same⟩ := ok_of_map found
    cases same
    obtain ⟨row, left, rfl, cleared, grouped, reads⟩ := Predicates.cleared_of_read groups ended
    refine ⟨row, left, rfl, cleared, grouped, fun more other => ?_⟩
    rw [if_neg nodes, reads more other]
    rfl

/-- The test of a step stays where it is when refused groups behind it are taken out. -/
theorem cleared_of_readTest {suggested : Axis} {body : List Token} {reading : Reading}
    (found : readTest suggested body = .ok (some reading)) (stops : Stops reading.rest)
    : ∃ token row left,
        body = token :: (row ++ reading.rest)
        ∧ (token.kind = .name ∨ token.kind = .atSign ∨ token.kind = .asterisk)
        ∧ Cleared row reading.ignored left
        ∧ ∀ more, Stops more →
          readTest suggested (token :: (left ++ more)) = .ok (some ⟨reading.step, [], more⟩) := by
  unfold readTest at found
  rcases front : (axisName? body).getD (suggested, body) with ⟨axis, inner⟩
  rw [front] at found
  obtain ⟨name, naming, rfl, named, rfl⟩ := naming_of_axisName? front
  simp only at found
  rcases test : nodeTest? (name.getD suggested) inner with - | ⟨axis, test, rest⟩
  · simp [test] at found
  · rw [test] at found
    obtain ⟨token, row, rfl, kind, again⟩ := nodeTest?_unbound test
    obtain ⟨groups, left, rfl, cleared, grouped, reads⟩ :=
      cleared_of_readGroups found stops.noBracket
    have tested (more : List Token) (stops : Stops more)
        : readTest suggested (naming ++ token :: (row ++ (left ++ more)))
          = .ok (some ⟨reading.step, [], more⟩) := by
      have test := again (left ++ more) (grouped.unbound stops.unbound)
      rw [readTest_of_naming named (axisName?_of_nodeTest? test), test]
      exact reads more stops.noBracket
    cases named with
    | none =>
        refine ⟨token, row ++ groups, row ++ left, by simp, kind, cleared.prepend row, ?_⟩
        intro more stops
        rw [List.append_assoc]
        exact tested more stops
    | @some axis name colons named text separated =>
        refine ⟨name, colons :: token :: (row ++ groups), colons :: token :: (row ++ left), by simp,
          .inl named, (cleared.prepend row).prepend [colons, token], ?_⟩
        intro more stops
        have whole := tested more stops
        simpa using whole

/-- A step is read again when its refused groups are taken out and something like before follows. -/
theorem cleared_of_read {isFirst : Bool} {tokens : List Token} {reading : Reading}
    (found : read isFirst tokens = .ok (some reading)) (stops : Stops reading.rest)
    : ∃ first row left,
        tokens = first :: (row ++ reading.rest)
        ∧ Cleared row reading.ignored left
        ∧ ∀ more, Stops more →
          more.head?.map Token.kind = reading.rest.head?.map Token.kind →
          read isFirst (first :: (left ++ more)) = .ok (some ⟨reading.step, [], more⟩) := by
  have front_cons (marker : List Token) (token : Token)
      : ∃ first others, ∀ row, marker ++ token :: row = first :: (others ++ row) := by
    cases marker with
    | nil => exact ⟨token, [], fun _ => rfl⟩
    | cons first others => exact ⟨first, others ++ [token], fun row => by simp⟩
  obtain ⟨suggested, body, front, ⟨dots, rest, kind, rfl, left, reads⟩ | ⟨-, -, tested⟩⟩ :=
    cases_of_read found
  · obtain ⟨marker, rfl, again⟩ := separator?_again front
    obtain ⟨first, others, whole⟩ := front_cons marker dots
    obtain ⟨-, -, ignored, behind⟩ := parts_of_dots kind (reads [])
    have ignored : reading.ignored = [] := ignored
    rw [ignored, left]
    refine ⟨first, others, others, whole rest, .none others, fun more _ same => ?_⟩
    rw [← whole, read_eq, again more fun _ => same]
    exact behind more
  · obtain ⟨token, row, left, rfl, kind, cleared, reads⟩ := cleared_of_readTest tested stops
    obtain ⟨marker, rfl, again⟩ := separator?_again front
    obtain ⟨first, others, whole⟩ := front_cons marker token
    have noDots : token.kind ≠ .doubleDot ∧ token.kind ≠ .dot := by
      rcases kind with kind | kind | kind <;> simp [kind]
    refine ⟨first, others ++ row, others ++ left, ?_, cleared.prepend others, ?_⟩
    · rw [whole, List.append_assoc]
    · intro more stops _
      rw [List.append_assoc, ← whole, read_eq, again _ fun dot => (noDots.2 dot).elim]
      have other : ∀ first ∈ (token :: (left ++ more)).head?,
          first.kind ≠ .doubleDot ∧ first.kind ≠ .dot := by
        rintro first ⟨⟩
        exact noDots
      exact (readBody_other suggested other).trans (reads more stops)

end Step

/-- Which tokens may follow a step only depends on their kind. -/
theorem Grammar.Stops.of_kinds {rest more : List Token} (stops : Stops rest)
    (same : more.head?.map Token.kind = rest.head?.map Token.kind)
    : Stops more := by
  intro token head
  rw [Option.mem_def.mp head] at same
  obtain ⟨other, first, kind⟩ := Option.map_eq_some_iff.mp same.symm
  have known := stops other first
  rwa [kind] at known

namespace Steps

/-- Steps that are read to the end are read again when their refused groups are taken out, by induction
on the steps.
-/
theorem cleared_of_read {isFirst : Bool} {tokens : List Token} {reading : Steps}
    (found : read isFirst tokens = .ok reading) (complete : reading.rest = [])
    : ∃ left,
        Cleared tokens reading.ignored left
        ∧ left.head?.map Token.kind = tokens.head?.map Token.kind
        ∧ read isFirst left = .ok ⟨reading.steps, [], []⟩ := by
  have run := run_of_read found
  clear found
  induction run with
  | @done isFirst tokens =>
      obtain rfl : tokens = [] := complete
      exact ⟨[], .none [], rfl, read_nil isFirst⟩
  | @step isFirst tokens step others first behind _ ih =>
      obtain ⟨left, cleared, same, reads⟩ := ih complete
      have stops : Stops step.rest := by
        obtain ⟨row, whole, following⟩ := following_of_read behind
        have complete : others.rest = [] := complete
        rw [whole, complete, List.append_nil]
        exact following.stops
      obtain ⟨token, row, front, rfl, cleared', again⟩ := Step.cleared_of_read first stops
      -- the next step may lose groups, too, but never the token it begins with
      refine ⟨token :: (front ++ left), (cleared'.append cleared).prepend [token], rfl, ?_⟩
      exact read_of_step (again left (stops.of_kinds same) same) reads

/-- Positions don't matter to steps that are all read without skipping anything. -/
theorem read_alike {isFirst : Bool} {tokens others : List Token} {steps : List Step}
    (same : others.map (Token.placed fun _ => 0) = tokens.map (Token.placed fun _ => 0))
    (found : read isFirst tokens = .ok ⟨steps, [], []⟩)
    : read isFirst others = .ok ⟨steps, [], []⟩ := by
  have placed := read_placed (fun _ => 0) isFirst tokens
  rw [found] at placed
  obtain ⟨⟨steps', ignored, rest⟩, reads, outline⟩ := ok_of_map placed
  simp only [Steps.outline, Prod.mk.injEq, List.length_nil, List.length_eq_zero_iff,
    List.map_nil] at outline
  obtain ⟨rfl, rfl, rfl⟩ := outline
  rw [← same] at reads
  exact read_of_placed _ reads

end Steps

-----------------------------------------------------------------------------------------
-- Texts of rows
-----------------------------------------------------------------------------------------

namespace Token

open HtmlQuery.Text

/-- The text in front of a token and the text from it on, each with its own tokens. -/
theorem Laid.split {start : Nat} {before after : List Token} {token : Token} {text : List Char}
    (laid : Laid start (before ++ token :: after) text)
    : ∃ front back,
        text = front ++ back
        ∧ token.position = start + front.length
        ∧ Laid start before front
        ∧ Laid token.position (token :: after) back := by
  obtain ⟨front, c, back, rfl, place, -, laid'⟩ := laid_of_scanFrom_append laid.scanFrom_eq
  obtain ⟨front', back', shape, place', behind⟩ := scanFrom_behind laid.scanFrom_eq
  obtain ⟨rfl, rfl⟩ : front = front' ∧ c :: back = back' :=
    List.append_inj shape (by omega)
  refine ⟨front, c :: back, rfl, place, laid', scanFrom_eq_iff.mp ⟨behind, ?_⟩⟩
  exact fun other member => laid.readable other (List.mem_append_right _ member)

/-- The same text may begin at another place, which moves all its tokens. -/
theorem Laid.placed {start : Nat} {tokens : List Token} {text : List Char}
    (laid : Laid start tokens text) (start' : Nat)
    : Laid start' (tokens.map (Token.placed fun token => token.position - start + start'))
        text := by
  refine scanFrom_eq_iff.mp ⟨?_, ?_⟩
  · have here : scanFrom (start + 0) text = tokens := laid.scanFrom_eq
    have there : scanFrom (start' + 0) text = scanFrom start' text := rfl
    rw [scanFrom_add] at here there
    rw [← here, ← there, List.map_map]
    refine List.map_congr_left fun token _ => ?_
    simp only [moved, Token.placed, Function.comp_apply, Token.mk.injEq, and_true]
    omega
  · intro token member
    obtain ⟨original, inside, rfl⟩ := List.mem_map.mp member
    exact laid.readable original inside

/-- A token of one character only, and the text behind it. -/
theorem Laid.mark {token : Token} {after : List Token} {text : List Char} {mark : Char}
    (laid : Laid token.position (token :: after) text)
    (alone : ∀ lexeme, IsLexeme token.kind lexeme → lexeme = [mark])
    : ∃ next,
        text = mark :: next
        ∧ Laid token.position [token] [mark]
        ∧ Laid (token.position + 1) after next := by
  generalize place : token.position = start at laid
  cases laid with
  | @token _ gap kind text _ next blank lexeme ends more =>
      obtain rfl : gap = [] := List.length_eq_zero_iff.mp (by simpa using place)
      obtain rfl : text = [mark] := alone text lexeme
      exact ⟨next, rfl, .token blank lexeme (Ends.of_append ends) (.done (by simp)), more⟩

/-- The text of a group, up to its closing bracket, and the text behind it. -/
theorem Laid.group {opener closer : Token} {inner after : List Token} {text : List Char}
    (laid : Laid opener.position (opener :: (inner ++ closer :: after)) text)
    (closes : closer.kind = .closeBracket)
    : ∃ slice back,
        text = slice ++ ']' :: back
        ∧ closer.position = opener.position + slice.length
        ∧ Laid opener.position (opener :: (inner ++ [closer])) (slice ++ [']'])
        ∧ Laid (closer.position + 1) after back := by
  rw [← List.cons_append] at laid
  obtain ⟨slice, _, rfl, place, before, behind⟩ := laid.split
  obtain ⟨back, rfl, last, after⟩ := behind.mark fun _ lexeme => by rwa [closes] at lexeme
  rw [place] at last
  have detached : Detached ((opener :: inner).getLast?.map Token.kind) [']'] :=
    .of_apart (by decide +kernel) (by decide +kernel) (by decide) (by decide) (by simp) []
  exact ⟨slice, back, rfl, place, before.append detached last, after⟩

end Token

-----------------------------------------------------------------------------------------
-- Blanks in place of groups
-----------------------------------------------------------------------------------------

/-- A text that begins at a position, with a blank in place of each of the given extents. -/
def blanked (start : Nat) (text : List Char) : List (Nat × Nat) → List Char
  | [] => text
  | (first, last) :: others =>
      text.take (first - start) ++ ' ' :: blanked last (text.drop (last - start)) others

namespace Cleared

variable {tokens left : List Token} {extents : List (Nat × Nat)} {start : Nat} {text : List Char}

/-- A blank in place of each refused group gives a text of what is left, by induction on the groups. -/
theorem laid_blanked (cleared : Cleared tokens extents left) (laid : Token.Laid start tokens text)
    (start' : Nat)
    : ∃ others,
        Token.Laid start' others (blanked start text extents)
        ∧ others.map (Token.placed fun _ => 0) = left.map (Token.placed fun _ => 0) := by
  induction cleared generalizing start text start' with
  | none row =>
      refine ⟨_, laid.placed start', ?_⟩
      rw [List.map_map]
      rfl
  | @group front place sign inner closer behind extents left closes inside refused _ ih =>
      obtain ⟨before, _, rfl, first, ahead, rest⟩ := laid.split
      obtain ⟨slice, back, rfl, last, -, rest⟩ := rest.group closes
      simp only at first last
      obtain ⟨others, behind, same⟩ := ih rest (start' + before.length + 1)
      have cut : blanked start (before ++ (slice ++ ']' :: back))
          ((place, closer.position + 1) :: extents)
          = before ++ ' ' :: blanked (closer.position + 1) back extents := by
        have here : place - start = before.length := by omega
        have there : closer.position + 1 - start = (before ++ (slice ++ [']'])).length := by
          simp only [List.length_append, List.length_singleton]
          omega
        have whole : before ++ (slice ++ ']' :: back) = before ++ (slice ++ [']']) ++ back := by
          simp
        rw [blanked, here, there, List.take_left, whole, List.drop_left]
      have blank : HtmlQuery.Text.isBlank ' ' = true := by decide
      -- a blank goes on with no token, so those in front of the group end where they did
      have apart (last : Option TokenKind) (text : List Char) : Token.Detached last (' ' :: text) :=
        .of_apart (by decide +kernel) (by decide +kernel) (by decide) (by decide) (by simp) text
      rw [cut]
      refine ⟨_, (ahead.placed start').append (apart _ _) (.blank blank behind), ?_⟩
      rw [List.map_append, List.map_append, same, List.map_map]
      rfl

/-- No refused group begins in front of the text or of the end of the one before it. -/
theorem ordered (cleared : Cleared tokens extents left) (laid : Token.Laid start tokens text)
    : (∀ extent ∈ extents, start ≤ extent.fst)
      ∧ extents.Pairwise fun first second => first.snd ≤ second.fst := by
  induction cleared generalizing start text with
  | none => simp
  | @group front place sign inner closer behind extents left closes inside refused _ ih =>
      obtain ⟨before, _, rfl, first, -, rest⟩ := laid.split
      obtain ⟨slice, back, rfl, last, -, rest⟩ := rest.group closes
      simp only at first last
      obtain ⟨later, ordered⟩ := ih rest
      refine ⟨List.forall_mem_cons.mpr ⟨by simp only; omega, fun extent member => ?_⟩,
        .cons later ordered⟩
      have after := later extent member
      omega

end Cleared

-----------------------------------------------------------------------------------------
-- A refused group on its own
-----------------------------------------------------------------------------------------

/-- The positions of tokens don't matter to which groups are closed, by induction on the row. -/
theorem Token.Nested.balanced_placed {isSeparator : Token → Bool} {row : List Token}
    (nested : Nested isSeparator row) (place : Token → Nat)
    : Balanced (row.map (placed place)) := by
  induction nested with
  | nil => exact .nil
  | plain noOpener noCloser _ _ ih => exact .plain noOpener noCloser rfl ih
  | group pair _ _ inside ih =>
      rw [List.map_cons, List.map_append, List.map_cons]
      exact .group pair inside ih

/-- Any element, with no predicate that is understood. -/
def anyChild : Step :=
  ⟨.child, .anyName, []⟩

/-- A refused group at the front is all that is skipped behind a star. -/
theorem Steps.read_star {place : Nat} {star sign : String} {inner : List Token} {closer : Token}
    (closes : closer.kind = .closeBracket) (inside : Token.Balanced inner)
    (refused : Predicate.read inner = .error .unsupported)
    : read true (⟨0, .asterisk, star⟩ :: ⟨place, .openBracket, sign⟩ :: (inner ++ [closer]))
      = .ok ⟨[anyChild], [(place, closer.position + 1)], []⟩ := by
  have groups : Predicates.read (⟨place, .openBracket, sign⟩ :: (inner ++ closer :: []))
      = .ok (⟨[], [(place, closer.position + 1)]⟩, []) := by
    refine (Predicates.read_closed_eq_ok closes inside).mpr
      ⟨fun others => { others with ignored := (place, closer.position + 1) :: others.ignored },
        ⟨[], []⟩, ?_, Predicates.read_other (by simp), rfl⟩
    rw [Predicates.readGroup, refused]
  have first : Step.read true
      (⟨0, .asterisk, star⟩ :: ⟨place, .openBracket, sign⟩ :: (inner ++ [closer]))
      = .ok (some ⟨anyChild, [(place, closer.position + 1)], []⟩) := by
    have body : Step.readGroups .child .anyName (⟨place, .openBracket, sign⟩ :: (inner ++ [closer]))
        = .ok (some ⟨anyChild, [(place, closer.position + 1)], []⟩) := by
      rw [Step.readGroups, if_neg (by decide), groups]
      rfl
    rw [Step.read_eq, ← body]
    rfl
  rw [read_cons, first]
  simp only [read_nil]
  rfl

namespace Path

/-- Behind a star, a refused group is skipped as a whole. -/
theorem covers_star {opener closer : Token} {inner : List Token} {slice : List Char}
    (opens : opener.kind = .openBracket) (closes : closer.kind = .closeBracket)
    (inside : Token.Balanced inner) (refused : Predicate.read inner = .error .unsupported)
    (laid : Token.Laid opener.position (opener :: (inner ++ [closer])) (slice ++ [']']))
    (last : closer.position = opener.position + slice.length)
    : Covers ⟨[anyChild], "", [String.ofList (slice ++ [']'])]⟩
        ("*" ++ String.ofList (slice ++ [']'])) := by
  let place (token : Token) : Nat := token.position - opener.position + 1
  have scanned : Token.scan ("*" ++ String.ofList (slice ++ [']']))
      = ⟨0, .asterisk, String.ofList ['*']⟩ :: ⟨1, .openBracket, opener.text⟩
        :: (inner.map (Token.placed place) ++ [closer.placed place]) := by
    have behind := laid.placed 1
    rw [List.map_cons, List.map_append, List.map_singleton, Token.placed, opens, Nat.sub_self,
      Nat.zero_add] at behind
    have whole := @Token.Laid.token 0 [] .asterisk ['*'] _ _ (by simp) rfl trivial behind
    rw [Token.scan, String.toList_append, @String.toList_ofList (slice ++ [']'])]
    exact whole.scanFrom_eq
  have steps : Steps.read true (Token.scan ("*" ++ String.ofList (slice ++ [']'])))
      = .ok ⟨[anyChild], [(1, (closer.placed place).position + 1)], []⟩ := by
    rw [scanned]
    exact Steps.read_star closes (inside.balanced_placed place)
      ((Predicate.read_placed place inner).trans refused)
  have extent : (closer.placed place).position + 1 = ('*' :: (slice ++ [']'])).length := by
    simp only [Token.placed, place, List.length_cons, List.length_append, List.length_nil]
    omega
  have text : excerpt ("*" ++ String.ofList (slice ++ [']'])) 1 ((closer.placed place).position + 1)
      = String.ofList (slice ++ [']']) := by
    rw [excerpt, String.toList_append, @String.toList_ofList (slice ++ [']']), extent]
    exact congrArg (fun front => String.ofList (front.drop 1)) List.take_length
  refine covers_iff.mpr ⟨by simp, _, steps, ?_⟩
  rw [List.map_singleton, text]

/-- The text of a refused group begins and ends with its brackets, and can stand behind a star. -/
theorem covers_star_of_group {expression : String} {front inner behind : List Token}
    {opener closer : Token}
    (laid : Token.Laid 0 (front ++ opener :: (inner ++ closer :: behind)) expression.toList)
    (opens : opener.kind = .openBracket) (closes : closer.kind = .closeBracket)
    (inside : Token.Balanced inner) (refused : Predicate.read inner = .error .unsupported)
    : ∃ text,
        excerpt expression opener.position (closer.position + 1) = text
        ∧ (∃ between, text.toList = '[' :: (between ++ [']']))
        ∧ Covers ⟨[anyChild], "", [text]⟩ ("*" ++ text) := by
  obtain ⟨before, _, whole, first, -, rest⟩ := laid.split
  obtain ⟨slice, back, rfl, last, group, -⟩ := rest.group closes
  refine ⟨String.ofList (slice ++ [']']), ?_, ?_,
    covers_star opens closes inside refused group last⟩
  · have start : opener.position = before.length := by omega
    have stop : closer.position + 1 = (before ++ (slice ++ [']'])).length := by
      simp only [List.length_append, List.length_singleton]
      omega
    have shape : expression.toList = before ++ (slice ++ [']']) ++ back := by
      rw [whole]
      simp
    rw [excerpt, stop, start, shape, List.take_left, List.drop_left]
  · obtain ⟨next, bracket, -⟩ := group.mark fun _ lexeme => by rwa [opens] at lexeme
    rw [String.toList_ofList]
    cases slice with
    | nil => cases bracket
    | cons c between =>
        obtain ⟨rfl, -⟩ := List.cons.inj bracket
        exact ⟨between, rfl⟩

/-- Where the predicates lie that an expression's path skips. -/
def skipped (expression : String) : List (Nat × Nat) :=
  match Steps.read true (Token.scan expression) with
  | .ok reading => reading.ignored
  | .error _ => []

/-- An expression with a blank in place of each predicate that its path skips. -/
def withoutSkipped (expression : String) : String :=
  String.ofList (blanked 0 expression.toList (skipped expression))

/--
A predicate that is skipped can be erased. In an expression that a path covers, the skipped predicates
lie one behind the other, and the path notes what the expression shows there. With a blank in place of
each of them, the expression is covered by the same steps, and nothing is skipped. Each of them is put
in brackets, and it is all that is skipped behind a star.
-/
theorem covers_withoutSkipped {path : Path} {expression : String} (covers : path.Covers expression)
    : (skipped expression).Pairwise (fun first second => first.snd ≤ second.fst)
      ∧ path.ignored
        = (skipped expression).map (fun extent => excerpt expression extent.fst extent.snd)
      ∧ Covers ⟨path.steps, "", []⟩ (withoutSkipped expression)
      ∧ ∀ text ∈ path.ignored,
        (∃ between, text.toList = '[' :: (between ++ [']']))
        ∧ Covers ⟨[anyChild], "", [text]⟩ ("*" ++ text) := by
  obtain ⟨some, ignored, found, shape⟩ := covers_iff.mp covers
  obtain ⟨readable, -⟩ := Token.readable_of_steps found rfl
  have laid : Token.Laid 0 (Token.scan expression) expression.toList :=
    Token.laid_of_scanFrom readable
  have skips : skipped expression = ignored := by
    rw [skipped, found]
  have noted : path.ignored
      = ignored.map (fun extent => excerpt expression extent.fst extent.snd) :=
    congrArg Path.ignored shape
  obtain ⟨left, cleared, -, reads⟩ := Steps.cleared_of_read found rfl
  rw [skips]
  refine ⟨(cleared.ordered laid).2, noted, ?_, ?_⟩
  · obtain ⟨others, laid', same⟩ := cleared.laid_blanked laid 0
    have scanned : Token.scan (withoutSkipped expression) = others := by
      rw [withoutSkipped, skips, Token.scan, String.toList_ofList]
      exact laid'.scanFrom_eq
    have steps := Steps.read_alike same reads
    rw [← scanned] at steps
    exact covers_iff.mpr ⟨some, [], steps, rfl⟩
  · intro text member
    rw [noted] at member
    obtain ⟨extent, listed, rfl⟩ := List.mem_map.mp member
    obtain ⟨front, start, sign, inner, closer, behind, whole, rfl, closes, inside, refused⟩ :=
      cleared.group_of_mem listed
    rw [whole] at laid
    obtain ⟨text, rfl, shape⟩ := covers_star_of_group laid rfl closes inside refused
    exact shape

/-- Two predicates are skipped, and the one between them is kept. -/
theorem covers_withoutSkipped_twice
    : withoutSkipped "p[b=c][1]//q[r[2]]/@s" = "p [1]//q /@s"
      ∧ ∃ path : Path,
        path.Covers "p[b=c][1]//q[r[2]]/@s"
        ∧ path.ignored = ["[b=c]", "[r[2]]"]
        ∧ Covers ⟨path.steps, "", []⟩ "p [1]//q /@s"
        ∧ Covers ⟨[anyChild], "", ["[r[2]]"]⟩ "*[r[2]]" := by
  have blank : withoutSkipped "p[b=c][1]//q[r[2]]/@s" = "p [1]//q /@s" := by decide +kernel
  have covers : Covers
      ⟨[⟨.child, .name "p", [.position .equal (.finite 1 0)]⟩, ⟨.descendant, .name "q", []⟩,
        ⟨.attributes, .name "s", []⟩], "", ["[b=c]", "[r[2]]"]⟩ "p[b=c][1]//q[r[2]]/@s" :=
    ⟨by decide +kernel, by decide⟩
  obtain ⟨-, -, without, groups⟩ := covers_withoutSkipped covers
  rw [blank] at without
  exact ⟨blank, _, covers, rfl, without, (groups "[r[2]]" (by simp)).2⟩

end Path

end HtmlQuery.XPath
