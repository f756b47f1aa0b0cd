import HtmlQuery.Proofs.XPath.AcceptedPrefix
import HtmlQuery.Proofs.XPath.NumberedSiblings
import HtmlQuery.Proofs.XPath.PathOverflow
import HtmlQuery.Proofs.XPath.SkippedPredicates
import HtmlQuery.Proofs.XPath.Surroundings

/-! A further predicate behind an expression that may be followed by one. What stands in front of it is
read as before; the last step gets the predicate, or one more that is skipped.
-/

namespace HtmlQuery.XPath

open Grammar

-----------------------------------------------------------------------------------------
-- Reading up to the last test
-----------------------------------------------------------------------------------------

namespace Grammar

/-- The test of a step of nodes is no dot. -/
theorem Open.separator? {step : List Token} (opened : Open step) (rest : List Token)
    : Step.separator? true (step ++ rest) = some (.child, step ++ rest) := by
  rcases opened.body.separator? rest with front | ⟨⟨start, text, dot⟩, -⟩
  · exact front
  · obtain @⟨axis, naming, test, groups, named, -, tested, -⟩ := opened
    cases named <;> cases tested <;> simp_all

/-- A path behind which a predicate may stand is a single step of nodes, or one behind others. A dot in
front of a slash introduces a step.
-/
theorem Extensible.cases {path : List Token} (extensible : Extensible path)
    : (∃ marker step, path = marker ++ step ∧ (marker = [] ∨ Marker marker) ∧ Open step)
      ∨ ∃ introduction body following marker step,
        path = introduction ++ (body ++ (following ++ (marker ++ step)))
        ∧ Body body
        ∧ Following following
        ∧ Marker marker
        ∧ Open step
        ∧ (Marker introduction
          ∨ introduction = [] ∧ ∀ more,
            Step.separator? true (body ++ (following ++ (marker ++ more)))
              = some (.child, body ++ (following ++ (marker ++ more)))) := by
  cases extensible with
  | first marked opened => exact .inl ⟨_, _, rfl, marked, opened⟩
  | @behind path marker step derives marked opened =>
      obtain @⟨introduction, body, following, rfl | introduced, step', more⟩ := derives
      · rcases step'.head with ⟨⟨start, kind, text⟩, dot, rfl⟩
          | ⟨⟨start, kind, text⟩, behind, rfl, noDot, noSlash, noDoubleSlash⟩
        · obtain rfl : kind = .dot := dot
          cases more with
          | nil =>
              cases marked with
              | plain slashes =>
                  exact .inl ⟨[_, _], step, rfl, .inr (.dotted rfl slashes), opened⟩
              | @dotted before slash dotted slashes =>
                  refine .inr ⟨[], [_], [], [before, slash], step, by simp, step', .nil,
                    .dotted dotted slashes, opened, .inr ⟨rfl, fun more => ?_⟩⟩
                  obtain ⟨start', kind', text'⟩ := before
                  cases dotted
                  rfl
          | @cons marker' body rest marked' step'' more =>
              cases marked' with
              | @plain slash slashes =>
                  exact .inr ⟨[⟨start, .dot, text⟩, slash], body, rest, marker, step, by simp, step'',
                    more, marked, opened, .inl (.dotted rfl slashes)⟩
              | @dotted before slash dotted slashes =>
                  refine .inr ⟨[], [_], [before, slash] ++ (body ++ rest), marker, step, by simp,
                    step', .cons (.dotted dotted slashes) step'' more, marked, opened,
                    .inr ⟨rfl, fun more => ?_⟩⟩
                  obtain ⟨start', kind', text'⟩ := before
                  cases dotted
                  rfl
        · refine .inr ⟨[], _, following, marker, step, by simp, step', more, marked, opened,
            .inr ⟨rfl, fun more => ?_⟩⟩
          cases kind
          case dot => exact (noDot rfl).elim
          case slash => exact (noSlash rfl).elim
          case doubleSlash => exact (noDoubleSlash rfl).elim
          all_goals rfl
      · exact .inr ⟨introduction, body, following, marker, step, by simp, step', more, marked, opened,
          .inl introduced⟩

theorem Following.stops_append {path rest : List Token} (following : Following path)
    (stops : Stops rest)
    : Stops (path ++ rest) := by
  cases following with
  | nil => exact stops
  | cons marked _ _ =>
      rw [List.append_assoc]
      exact marked.stops _

end Grammar

namespace Step

/-- What an introduced step is read as doesn't depend on what follows it. -/
theorem read_marked_stops {marker body : List Token} (marked : Marker marker) (step : Body body)
    (isFirst : Bool)
    : ∃ result : Except Fault (Step × List (Nat × Nat)), ∀ rest, Stops rest →
        read isFirst (marker ++ (body ++ rest))
          = result.map fun found => some ⟨found.fst, found.snd, rest⟩ := by
  obtain ⟨suggested, nodes, front⟩ := separator?_of_marker marked isFirst
  obtain ⟨result, reads⟩ := readBody_stops step nodes
  refine ⟨result, fun rest stops => ?_⟩
  rw [read_eq, front]
  exact reads rest stops

/-- Behind the test of a step of nodes, its groups are read with all that follows. -/
theorem readBody_open {step : List Token} (opened : Open step) {suggested : Axis}
    (nodes : suggested ≠ .attributes)
    : ∃ axis test groups,
        axis ≠ .attributes
        ∧ Groups groups
        ∧ ∀ more, Unbound more →
          readBody suggested (step ++ more) = readGroups axis test (groups ++ more) := by
  obtain @⟨axis, naming, test, groups, named, other, tested, grouped⟩ := opened
  obtain ⟨found, reads⟩ := readBody_nodes named tested suggested
  refine ⟨axis.getD suggested, found, groups, ?_, grouped, fun more unbound => ?_⟩
  · cases axis with
    | none => exact nodes
    | some axis => exact fun same => other (congrArg some same)
  · rw [List.append_assoc, List.append_assoc, reads _ (grouped.unbound unbound)]

end Step

namespace Steps

/-- A step, with the extents of its skipped predicates, in front of others. -/
def cons (found : Step × List (Nat × Nat)) (others : Steps) : Steps where
  steps := found.fst :: others.steps
  ignored := found.snd ++ others.ignored
  rest := others.rest

/-- The groups behind the test of a step, and the steps behind them. -/
def readBehind (axis : Axis) (test : NodeTest) (row : List Token) : Except Fault Steps :=
  Predicates.read row >>= fun found =>
    (read false found.snd).map (cons (⟨axis, test, found.fst.known⟩, found.fst.ignored))

/-- A step whose groups are read is followed by the steps behind them. -/
theorem read_of_readGroups {isFirst : Bool} {tokens row : List Token} {axis : Axis}
    {test : NodeTest} (nonempty : tokens ≠ []) (nodes : axis ≠ .attributes)
    (first : Step.read isFirst tokens = Step.readGroups axis test row)
    : read isFirst tokens = readBehind axis test row := by
  obtain ⟨token, rest, rfl⟩ := List.exists_cons_of_ne_nil nonempty
  rw [read_cons, first, Step.readGroups, if_neg nodes, readBehind]
  rcases Predicates.read row with fault | ⟨predicates, behind⟩ <;> rfl

/-- A step that is read up to the rest is followed by the steps there. -/
theorem read_of_map {isFirst : Bool} {tokens rest : List Token}
    {result : Except Fault (Step × List (Nat × Nat))} (nonempty : tokens ≠ [])
    (first : Step.read isFirst tokens
      = result.map fun found => some ⟨found.fst, found.snd, rest⟩)
    : read isFirst tokens = result >>= fun found => (read false rest).map (cons found) := by
  obtain ⟨token, tokens, rfl⟩ := List.exists_cons_of_ne_nil nonempty
  rw [read_cons, first]
  rcases result with fault | found <;> rfl

/-- A step in front of two rows of steps stands in front of the first one. -/
theorem bind_prepend (result : Except Fault (Step × List (Nat × Nat)))
    (front behind : Except Fault Steps)
    : (result >>= fun found => (front >>= fun front => behind.map front.prepend).map (cons found))
      = (result >>= fun found => front.map (cons found)) >>= fun front =>
        behind.map front.prepend := by
  rcases result with fault | found
  · rfl
  · rcases front with fault | front
    · rfl
    · cases behind <;> simp [bind, Except.bind, Except.map, prepend, cons]

/-- What steps are read as doesn't depend on what follows them, by induction on the steps. -/
theorem read_following {path : List Token} (following : Following path)
    : ∃ front : Except Fault Steps, ∀ rest, Stops rest →
        read false (path ++ rest) = front >>= fun front => (read false rest).map front.prepend := by
  induction following with
  | nil =>
      refine ⟨.ok ⟨[], [], []⟩, fun rest _ => ?_⟩
      rw [List.nil_append]
      cases read false rest <;> rfl
  | @cons marker body path marked step more ih =>
      obtain ⟨front, reads⟩ := ih
      obtain ⟨result, first⟩ := Step.read_marked_stops marked step false
      refine ⟨result >>= fun found => front.map (cons found), fun rest stops => ?_⟩
      have stops' : Stops (path ++ rest) := more.stops_append stops
      have nonempty : marker ++ (body ++ (path ++ rest)) ≠ [] := by
        cases marked <;> simp
      rw [List.append_assoc, List.append_assoc, read_of_map nonempty (first _ stops'),
        reads rest stops, bind_prepend]

/-- Behind what introduces it, a step of nodes is read as a test, and then its groups are read. -/
theorem read_open {isFirst : Bool} {marker step : List Token} {suggested : Axis}
    (opened : Open step) (nodes : suggested ≠ .attributes)
    (front : ∀ more,
      Step.separator? isFirst (marker ++ (step ++ more)) = some (suggested, step ++ more))
    : ∃ axis test groups,
        axis ≠ .attributes
        ∧ Groups groups
        ∧ ∀ more, Unbound more →
          read isFirst (marker ++ (step ++ more)) = readBehind axis test (groups ++ more) := by
  obtain ⟨axis, test, groups, nodes', grouped, reads⟩ := Step.readBody_open opened nodes
  refine ⟨axis, test, groups, nodes', grouped, fun more unbound => ?_⟩
  have nonempty : marker ++ (step ++ more) ≠ [] := by
    obtain @⟨axis, naming, test, groups, -, -, tested, -⟩ := opened
    cases tested <;> simp
  refine read_of_readGroups nonempty nodes' ?_
  rw [Step.read_eq, front]
  exact reads more unbound

/-- A path of a single step is read as a test, and then its groups are read. -/
theorem read_alone {marker step : List Token} (marked : marker = [] ∨ Marker marker)
    (opened : Open step)
    : ∃ axis test groups,
        axis ≠ .attributes
        ∧ Groups groups
        ∧ ∀ more, Unbound more →
          read true (marker ++ (step ++ more)) = readBehind axis test (groups ++ more) := by
  rcases marked with rfl | marked
  · exact read_open opened (by simp : Axis.child ≠ .attributes) opened.separator?
  · obtain ⟨suggested, nodes, front⟩ := Step.separator?_of_marker marked true
    exact read_open opened nodes fun more => front (step ++ more)

/-- The first step of a path, be it introduced or not, is read apart from those behind it. -/
theorem read_begun {introduction body following marker : List Token} (step : Body body)
    (behind : Following following) (marked : Marker marker)
    (begins : Marker introduction
      ∨ introduction = [] ∧ ∀ more,
        Step.separator? true (body ++ (following ++ (marker ++ more)))
          = some (.child, body ++ (following ++ (marker ++ more))))
    : ∃ result : Except Fault (Step × List (Nat × Nat)), ∀ more,
        Step.read true (introduction ++ (body ++ (following ++ (marker ++ more))))
          = result.map fun found => some ⟨found.fst, found.snd, following ++ (marker ++ more)⟩ := by
  have stops (more : List Token) : Stops (following ++ (marker ++ more)) :=
    behind.stops_append (marked.stops more)
  rcases begins with introduced | ⟨rfl, begins⟩
  · obtain ⟨result, reads⟩ := Step.read_marked_stops introduced step true
    exact ⟨result, fun more => reads _ (stops more)⟩
  · obtain ⟨result, reads⟩ := Step.readBody_stops step (by simp : Axis.child ≠ .attributes)
    refine ⟨result, fun more => ?_⟩
    rw [Step.read_eq, List.nil_append, begins more]
    exact reads _ (stops more)

/-- In front of the groups of its last step, a path is read as some steps and a test. -/
theorem read_extensible {path : List Token} (extensible : Extensible path)
    : ∃ (front : Except Fault Steps) (axis : Axis) (test : NodeTest) (groups : List Token),
        axis ≠ .attributes
        ∧ Groups groups
        ∧ ∀ more, Unbound more →
          read true (path ++ more)
            = front >>= fun front => (readBehind axis test (groups ++ more)).map front.prepend := by
  rcases extensible.cases with ⟨marker, step, rfl, marked, opened⟩
    | ⟨introduction, body, following, marker, step, rfl, step', behind, marked, opened, begins⟩
  · obtain ⟨axis, test, groups, nodes, grouped, reads⟩ := read_alone marked opened
    refine ⟨.ok ⟨[], [], []⟩, axis, test, groups, nodes, grouped, fun more unbound => ?_⟩
    rw [List.append_assoc, reads more unbound]
    cases readBehind axis test (groups ++ more) <;> rfl
  · obtain ⟨suggested, nodes, separates⟩ := Step.separator?_of_marker marked false
    obtain ⟨axis, test, groups, nodes, grouped, reads⟩ :=
      read_open opened nodes fun more => separates (step ++ more)
    obtain ⟨front, others⟩ := read_following behind
    obtain ⟨result, first⟩ := read_begun step' behind marked begins
    refine ⟨result >>= fun found => front.map (cons found), axis, test, groups, nodes, grouped, ?_⟩
    intro more unbound
    have nonempty : introduction ++ (body ++ (following ++ (marker ++ (step ++ more)))) ≠ [] := by
      rcases step'.head with ⟨dot, -, rfl⟩ | ⟨token, rest, rfl, -⟩ <;> simp
    simp only [List.append_assoc]
    rw [read_of_map nonempty (first _), others _ (marked.stops _), reads more unbound, bind_prepend]

/-- Further groups belong to the last step of a path, and nothing else of it changes. -/
theorem read_further {path row : List Token} {steps : List Step} {ignored : List (Nat × Nat)}
    {more : Predicates} (extensible : Extensible path)
    (found : read true path = .ok ⟨steps, ignored, []⟩)
    (further : Predicates.read row = .ok (more, []))
    : ∃ front axis test known,
        axis ≠ .attributes
        ∧ steps = front ++ [⟨axis, test, known⟩]
        ∧ read true (path ++ row)
          = .ok ⟨front ++ [⟨axis, test, known ++ more.known⟩], ignored ++ more.ignored, []⟩ := by
  obtain ⟨front, axis, test, groups, nodes, grouped, reads⟩ := read_extensible extensible
  have short := reads [] (by simp [Unbound])
  have long := reads row (by
    obtain ⟨row, rfl, grouped⟩ := Predicates.groups_of_read further
    exact grouped.unbound (by simp [Unbound]))
  have ended : (([] : List Token).head?).map Token.kind ≠ some .openBracket := by simp
  rw [List.append_nil, found, readBehind, Predicates.read_groups_before grouped ended] at short
  rw [readBehind, Predicates.read_groups_append grouped, further] at long
  rcases front with fault | front
  · cases short
  · rcases own : Predicates.read groups with fault | ⟨predicates, left⟩
    · simp [own, bind, Except.bind, Except.map] at short
    · simp only [own, bind, Except.bind, Except.map, read_nil, cons, prepend, List.append_nil,
        Predicates.append, Except.ok.injEq, Steps.mk.injEq, and_true] at short long
      obtain ⟨rfl, rfl⟩ := short
      refine ⟨front.steps, axis, test, predicates.known, nodes, rfl, ?_⟩
      rw [long, List.append_assoc]

end Steps

-----------------------------------------------------------------------------------------
-- Brackets behind an expression
-----------------------------------------------------------------------------------------

/-- An expression with something in brackets behind it. -/
def predicated (expression inner : String) : String :=
  expression ++ "[" ++ inner ++ "]"

theorem toList_predicated (expression inner : String)
    : (predicated expression inner).toList
      = expression.toList ++ ('[' :: (inner.toList ++ [']'])) := by
  simp [predicated]

namespace Token

/-- The tokens of an expression in brackets. -/
def bracketed (start : Nat) (inner : String) : List Token :=
  ⟨start, .openBracket, "["⟩ :: ((scan inner).map (moved (start + 1))
    ++ [⟨start + 1 + inner.toList.length, .closeBracket, "]"⟩])

/-- Brackets prolong no token. -/
theorem detached_bracket {c : Char} (bracket : c = '[' ∨ c = ']') (last : Option TokenKind)
    (rest : List Char)
    : Detached last (c :: rest) := by
  rcases bracket with rfl | rfl <;>
    exact .of_apart (by decide +kernel) (by decide +kernel) (by decide) (by decide) (by simp) rest

theorem laid_bracketed {inner : String} (readable : ∀ token ∈ scan inner, token.kind ≠ .error)
    (start : Nat)
    : Laid start (bracketed start inner) ('[' :: (inner.toList ++ [']'])) := by
  have opens : IsLexeme .openBracket ['['] := rfl
  have moves : scanFrom (start + 1) inner.toList = (scan inner).map (moved (start + 1)) :=
    scanFrom_add (start + 1) 0 inner.toList
  have inside : Laid (start + 1) ((scan inner).map (moved (start + 1))) inner.toList := by
    rw [← moves]
    apply laid_of_scanFrom
    rw [moves]
    intro token member
    obtain ⟨original, within, rfl⟩ := List.mem_map.mp member
    exact readable original within
  have group := inside.append (detached_bracket (.inr rfl) _ _)
    (laid_closeBracket (start + 1 + inner.toList.length))
  have whole : Laid start _ (['['] ++ (inner.toList ++ [']'])) := .lexeme opens trivial group
  exact whole

/-- The tokens of an expression, and those of a group behind it. -/
theorem scan_predicated {expression inner : String}
    (laid : Laid 0 (scan expression) expression.toList)
    (readable : ∀ token ∈ scan inner, token.kind ≠ .error)
    : scan (predicated expression inner)
      = scan expression ++ bracketed expression.toList.length inner := by
  have behind := laid_bracketed readable (0 + expression.toList.length)
  rw [scan, toList_predicated, (laid.append (detached_bracket (.inl rfl) _ _) behind).scanFrom_eq,
    Nat.zero_add]

end Token

/-- A group on its own, from its bracket to behind its bracket. -/
theorem Predicates.read_bracketed {inner : String} (inside : Token.Balanced (Token.scan inner))
    (start : Nat)
    : read (Token.bracketed start inner)
      = (readGroup (start, start + 1 + inner.toList.length + 1) (Token.scan inner)).map fun extend =>
        (extend ⟨[], []⟩, []) := by
  have moved : Token.Balanced ((Token.scan inner).map (Token.moved (start + 1))) :=
    inside.balanced_placed _
  have same : readGroup (start, start + 1 + inner.toList.length + 1)
      ((Token.scan inner).map (Token.moved (start + 1)))
      = readGroup (start, start + 1 + inner.toList.length + 1) (Token.scan inner) := by
    have placed := Predicate.read_placed (fun token => start + 1 + token.position)
      (Token.scan inner)
    unfold readGroup
    rw [← placed]
    rfl
  have none : read [] = .ok (⟨[], []⟩, []) := read_other (by simp)
  rw [Token.bracketed, read_closed rfl moved, same, none]
  rcases readGroup (start, start + 1 + inner.toList.length + 1) (Token.scan inner) <;> rfl

namespace Path

variable {path : Path} {expression inner : String}

/-- Predicates in brackets behind an expression are added to those of its last step. -/
theorem exists_covers_predicated {more : Predicates} (covers : path.Covers expression)
    (extensible : Extensible (Token.scan expression))
    (readable : ∀ token ∈ Token.scan inner, token.kind ≠ .error)
    (group : Predicates.read (Token.bracketed expression.toList.length inner) = .ok (more, []))
    : ∃ front axis test known, ∃ further : Path,
        axis ≠ .attributes
        ∧ path.steps = front ++ [⟨axis, test, known⟩]
        ∧ further.Covers (predicated expression inner)
        ∧ further.steps = front ++ [⟨axis, test, known ++ more.known⟩]
        ∧ further.ignored = path.ignored ++ more.ignored.map fun place =>
          excerpt (predicated expression inner) place.fst place.snd := by
  obtain ⟨-, ignored, found, shape⟩ := covers_iff.mp covers
  obtain ⟨front, axis, test, known, nodes, steps, reads⟩ :=
    Steps.read_further extensible found group
  rw [← Token.scan_predicated covers.laid readable] at reads
  have noted : path.ignored = ignored.map fun place => excerpt expression place.fst place.snd :=
    congrArg Path.ignored shape
  refine ⟨front, axis, test, known, ⟨_, "", _⟩, nodes, steps,
    covers_iff.mpr ⟨by simp, _, reads, rfl⟩, rfl, ?_⟩
  rw [noted]
  refine List.map_append.trans (congrArg (· ++ _) (List.map_congr_left fun place member => ?_))
  obtain ⟨closer, within, last⟩ := Steps.closedBy_of_read found place member
  have before := covers.laid.position_lt closer within
  have inFront : place.snd ≤ expression.toList.length := by omega
  have whole := excerpt_of_front (toList_predicated expression inner) place.fst inFront
  rw [← whole, String.ofList_toList]

/-- A predicate that is understood is the last one of the last step, and no further one is skipped. -/
theorem covers_understood {predicate : Predicate} (covers : path.Covers expression)
    (extensible : Extensible (Token.scan expression))
    (readable : ∀ token ∈ Token.scan inner, token.kind ≠ .error)
    (inside : Token.Balanced (Token.scan inner))
    (found : Predicate.read (Token.scan inner) = .ok predicate)
    : ∃ front axis test known, ∃ further : Path,
        axis ≠ .attributes
        ∧ path.steps = front ++ [⟨axis, test, known⟩]
        ∧ further.Covers (predicated expression inner)
        ∧ further.steps = front ++ [⟨axis, test, known ++ [predicate]⟩]
        ∧ further.ignored = path.ignored := by
  have group : Predicates.read (Token.bracketed expression.toList.length inner)
      = .ok (⟨[predicate], []⟩, []) := by
    rw [Predicates.read_bracketed inside, Predicates.readGroup, found]
    rfl
  simpa using exists_covers_predicated covers extensible readable group

/-- A predicate that is refused is one more that is skipped, and the steps stay as they are. -/
theorem covers_refused (covers : path.Covers expression)
    (extensible : Extensible (Token.scan expression))
    (readable : ∀ token ∈ Token.scan inner, token.kind ≠ .error)
    (inside : Token.Balanced (Token.scan inner))
    (refused : Predicate.read (Token.scan inner) = .error .unsupported)
    : ∃ further : Path,
        further.Covers (predicated expression inner)
        ∧ further.steps = path.steps
        ∧ further.ignored = path.ignored ++ ["[" ++ inner ++ "]"] := by
  have group : Predicates.read (Token.bracketed expression.toList.length inner)
      = .ok (⟨[], [(expression.toList.length,
        expression.toList.length + 1 + inner.toList.length + 1)]⟩, []) := by
    rw [Predicates.read_bracketed inside, Predicates.readGroup, refused]
    rfl
  obtain ⟨front, axis, test, known, further, -, steps, covers', steps', ignored⟩ :=
    exists_covers_predicated covers extensible readable group
  refine ⟨further, covers', ?_, ?_⟩
  · rw [steps, steps', List.append_nil]
  · have shape := toList_predicated expression inner
    have whole : expression.toList.length + 1 + inner.toList.length + 1
        = (predicated expression inner).length := by
      rw [← String.length_toList, shape]
      simp only [List.length_append, List.length_cons, List.length_nil]
      omega
    have text : String.ofList ('[' :: (inner.toList ++ [']'])) = "[" ++ inner ++ "]" := by
      rw [← String.toList_inj]
      simp
    rw [ignored, List.map_singleton, whole, excerpt_from shape, text]

end Path

end HtmlQuery.XPath
