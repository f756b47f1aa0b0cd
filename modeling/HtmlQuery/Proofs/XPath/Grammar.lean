import HtmlQuery.Proofs.XPath.StepRow

/-! The grammar of location paths, as rows of tokens. Steps are read from the left without ever looking
back, and still a row is read to its end just if the grammar derives it.
-/

namespace HtmlQuery.XPath

open Token (Balanced)

-----------------------------------------------------------------------------------------
-- The grammar
-----------------------------------------------------------------------------------------

namespace Grammar

/-- What introduces a step: one slash or two, also behind a dot. -/
inductive Marker : List Token → Prop
  | plain {slash} (slashes : slash.kind = .slash ∨ slash.kind = .doubleSlash) : Marker [slash]
  | dotted {dot slash} (before : dot.kind = .dot)
    (slashes : slash.kind = .slash ∨ slash.kind = .doubleSlash)
    : Marker [dot, slash]

/-- The name of an axis and the colons behind it, which may be missing. -/
inductive Naming : Option Axis → List Token → Prop
  | none : Naming none []
  | some {axis name colons} (named : name.kind = .name) (text : name.text = axis.name)
    (separated : colons.kind = .doubleColon)
    : Naming (some axis) [name, colons]

/-- What a step demands of attributes. -/
inductive AttributeTest : List Token → Prop
  | mk {sign name} (signed : sign.kind = .atSign) (named : name.kind = .name ∨ name.kind = .asterisk)
    : AttributeTest [sign, name]

/-- What a step demands of nodes. -/
inductive Test : List Token → Prop
  | name {token} (named : token.kind = .name ∨ token.kind = .asterisk) : Test [token]
  | call {function opener closer} (named : function.kind = .name)
    (known : function.text = "text" ∨ function.text = "node") (opens : opener.kind = .openParen)
    (closes : closer.kind = .closeParen)
    : Test [function, opener, closer]

/-- Predicates one behind the other; all that matters of them is that they are closed. -/
inductive Groups : List Token → Prop
  | nil : Groups []
  | cons {opener inner closer rest} (opens : opener.kind = .openBracket) (inside : Balanced inner)
    (closes : closer.kind = .closeBracket) (more : Groups rest)
    : Groups (opener :: (inner ++ closer :: rest))

/-- A step without what introduces it. Attributes have no predicates, however they are named. -/
inductive Body : List Token → Prop
  | dots {token} (dots : token.kind = .doubleDot ∨ token.kind = .dot) : Body [token]
  | attributes {axis naming test} (named : Naming axis naming) (tested : AttributeTest test)
    : Body (naming ++ test)
  | nodes {axis naming test groups} (named : Naming axis naming) (tested : Test test)
    (grouped : Groups groups) (bare : axis = some .attributes → groups = [])
    : Body (naming ++ (test ++ groups))

/-- All steps behind the first one. -/
inductive Following : List Token → Prop
  | nil : Following []
  | cons {marker body rest} (marked : Marker marker) (step : Body body) (more : Following rest)
    : Following (marker ++ (body ++ rest))

/-- A location path; its first step needs no introduction. -/
inductive Derives : List Token → Prop
  | mk {marker body rest} (marked : marker = [] ∨ Marker marker) (step : Body body)
    (more : Following rest)
    : Derives (marker ++ (body ++ rest))

end Grammar

open Grammar

-----------------------------------------------------------------------------------------
-- What is read is derived
-----------------------------------------------------------------------------------------

/-- The groups that are read make up a row of groups, by induction on them. -/
theorem Predicates.groups_of_read {tokens rest : List Token} {predicates : Predicates}
    (found : read tokens = .ok (predicates, rest))
    : ∃ row, tokens = row ++ rest ∧ Groups row := by
  have run := run_of_read found
  clear found
  induction run with
  | other | unclosed => exact ⟨[], rfl, .nil⟩
  | @group start text inner closer after extend others closes inside _ _ ih =>
      obtain ⟨row, rfl, more⟩ := ih
      refine ⟨⟨start, .openBracket, text⟩ :: (inner ++ closer :: row), by simp, ?_⟩
      exact .cons rfl inside closes more

namespace Step

theorem marker_of_separator? {isFirst : Bool} {tokens body : List Token} {suggested : Axis}
    (found : separator? isFirst tokens = some (suggested, body))
    : ∃ marker, tokens = marker ++ body ∧ (isFirst = true ∧ marker = [] ∨ Marker marker) := by
  unfold separator? at found
  split at found
  · cases found
    exact ⟨[_, _], rfl, .inr (.dotted rfl (.inr rfl))⟩
  · cases found
    exact ⟨[_, _], rfl, .inr (.dotted rfl (.inl rfl))⟩
  · cases found
    exact ⟨[_], rfl, .inr (.plain (.inr rfl))⟩
  · cases found
    exact ⟨[_], rfl, .inr (.plain (.inl rfl))⟩
  · split at found
    · rename_i first
      cases found
      exact ⟨[], rfl, .inl ⟨first, rfl⟩⟩
    · cases found

theorem naming_of_axisName? {tokens rest : List Token} {suggested axis : Axis}
    (found : (axisName? tokens).getD (suggested, tokens) = (axis, rest))
    : ∃ named naming,
        tokens = naming ++ rest ∧ Naming named naming ∧ axis = named.getD suggested := by
  cases name : axisName? tokens with
  | none =>
      rw [name] at found
      cases found
      exact ⟨none, [], rfl, .none, rfl⟩
  | some pair =>
      rw [name] at found
      obtain rfl : pair = (axis, rest) := found
      unfold axisName? at name
      split at name
      · obtain ⟨axis, known, same⟩ := Option.map_eq_some_iff.mp name
        cases same
        exact ⟨some axis, [_, _], rfl, .some rfl (Axis.ofName?_eq_some.mp known) rfl, rfl⟩
      · cases name

theorem test_of_nodeTest? {axis found : Axis} {tokens rest : List Token} {test : NodeTest}
    (tested : nodeTest? axis tokens = some (found, test, rest))
    : ∃ row,
        tokens = row ++ rest
        ∧ (AttributeTest row ∧ found = .attributes ∨ Test row ∧ found = axis) := by
  unfold nodeTest? at tested
  split at tested
  · cases tested
    exact ⟨[_, _], rfl, .inl ⟨.mk rfl (.inl rfl), rfl⟩⟩
  · cases tested
    exact ⟨[_, _], rfl, .inl ⟨.mk rfl (.inr rfl), rfl⟩⟩
  · cases tested
    exact ⟨[_], rfl, .inr ⟨.name (.inr rfl), rfl⟩⟩
  · split at tested
    · split at tested
      · rename_i node
        cases tested
        exact ⟨[_, _, _], rfl, .inr ⟨.call rfl (.inr node) rfl rfl, rfl⟩⟩
      · split at tested
        · rename_i text
          cases tested
          exact ⟨[_, _, _], rfl, .inr ⟨.call rfl (.inl text) rfl rfl, rfl⟩⟩
        · cases tested
    · cases tested
    · cases tested
    · cases tested
      exact ⟨[_], rfl, .inr ⟨.name (.inl rfl), rfl⟩⟩
  · cases tested

theorem groups_of_readGroups {axis : Axis} {test : NodeTest} {rest : List Token} {reading : Reading}
    (found : readGroups axis test rest = .ok (some reading))
    : ∃ groups,
        rest = groups ++ reading.rest ∧ Groups groups ∧ (axis = .attributes → groups = []) := by
  unfold readGroups at found
  split at found
  · cases found
    exact ⟨[], rfl, .nil, fun _ => rfl⟩
  · rename_i nodes
    obtain ⟨⟨predicates, behind⟩, groups, same⟩ := ok_of_map found
    cases same
    obtain ⟨row, rfl, grouped⟩ := Predicates.groups_of_read groups
    exact ⟨row, rfl, grouped, fun attributes => (nodes attributes).elim⟩

theorem body_of_readTest {suggested : Axis} {body : List Token} {reading : Reading}
    (found : readTest suggested body = .ok (some reading))
    : ∃ row, body = row ++ reading.rest ∧ Body row := by
  unfold readTest at found
  rcases front : (axisName? body).getD (suggested, body) with ⟨axis, inner⟩
  rw [front] at found
  obtain ⟨name, naming, rfl, named, rfl⟩ := naming_of_axisName? front
  simp only at found
  rcases test : nodeTest? (name.getD suggested) inner with - | ⟨axis, test, rest⟩
  · simp [test] at found
  · rw [test] at found
    obtain ⟨groups, rfl, grouped, bare⟩ := groups_of_readGroups found
    obtain ⟨row, rfl, ⟨tested, rfl⟩ | ⟨tested, rfl⟩⟩ := test_of_nodeTest? test
    · cases bare rfl
      exact ⟨naming ++ row, by simp, .attributes named tested⟩
    · refine ⟨naming ++ (row ++ groups), by simp, .nodes named tested grouped ?_⟩
      rintro rfl
      exact bare rfl

/-- What is read as a step is what introduces it and its body. -/
theorem body_of_read {isFirst : Bool} {tokens : List Token} {reading : Reading}
    (found : read isFirst tokens = .ok (some reading))
    : ∃ marker body,
        tokens = marker ++ (body ++ reading.rest)
        ∧ (isFirst = true ∧ marker = [] ∨ Marker marker)
        ∧ Body body := by
  obtain ⟨suggested, body, front, shape⟩ := cases_of_read found
  obtain ⟨marker, rfl, marked⟩ := marker_of_separator? front
  rcases shape with ⟨dots, rest, kind, rfl, left, -⟩ | ⟨-, -, tested⟩
  · exact ⟨marker, [dots], by rw [left]; rfl, marked, .dots kind⟩
  · obtain ⟨row, rfl, body⟩ := body_of_readTest tested
    exact ⟨marker, row, rfl, marked, body⟩

end Step

namespace Steps

/-- Steps that are read behind others are derived, by induction on them. -/
theorem following_of_read {tokens : List Token} {reading : Steps}
    (found : read false tokens = .ok reading)
    : ∃ row, tokens = row ++ reading.rest ∧ Following row := by
  have run := run_of_read found
  clear found
  generalize behind : false = isFirst at run
  induction run with
  | done => exact ⟨[], rfl, .nil⟩
  | step first _ _ ih =>
      obtain ⟨row, left, more⟩ := ih rfl
      obtain ⟨marker, body, rfl, ⟨first, -⟩ | marked, step⟩ := Step.body_of_read first
      · simp [first] at behind
      · rw [left]
        exact ⟨marker ++ (body ++ row), by simp, .cons marked step more⟩

/-- Steps that are read are derived, unless there is none. -/
theorem derives_of_read {tokens : List Token} {reading : Steps}
    (found : read true tokens = .ok reading) (some : reading.steps ≠ [])
    : ∃ row, tokens = row ++ reading.rest ∧ Derives row := by
  rcases cases_of_read found with ⟨rfl, -⟩ | ⟨step, others, first, behind, rfl⟩
  · exact (some rfl).elim
  · obtain ⟨row, left, more⟩ := following_of_read behind
    obtain ⟨marker, body, rfl, marked, step⟩ := Step.body_of_read first
    rw [left]
    exact ⟨marker ++ (body ++ row), by simp, .mk (marked.imp_left And.right) step more⟩

end Steps

-----------------------------------------------------------------------------------------
-- What is derived is read
-----------------------------------------------------------------------------------------

namespace Grammar

/-- What may follow a step within a path. -/
def Stops (rest : List Token) : Prop :=
  ∀ token ∈ rest.head?, token.kind = .slash ∨ token.kind = .doubleSlash ∨ token.kind = .dot

theorem Marker.stops {marker : List Token} (marked : Marker marker) (rest : List Token)
    : Stops (marker ++ rest) := by
  cases marked with
  | plain slashes =>
      rintro token ⟨⟩
      exact slashes.imp_right .inl
  | dotted before _ =>
      rintro token ⟨⟩
      exact .inr (.inr before)

theorem Following.stops {rest : List Token} (following : Following rest) : Stops rest := by
  cases following with
  | nil => simp [Stops]
  | cons marked _ _ => exact marked.stops _

theorem Stops.noBracket {rest : List Token} (stops : Stops rest)
    : rest.head?.map Token.kind ≠ some .openBracket := by
  intro bracket
  obtain ⟨token, head, kind⟩ := Option.map_eq_some_iff.mp bracket
  have other := stops token head
  simp [kind] at other

/-- What changes nothing about a name in front of it. -/
def Unbound (rest : List Token) : Prop :=
  ∀ token ∈ rest.head?, token.kind ≠ .openParen ∧ token.kind ≠ .doubleColon

theorem Stops.unbound {rest : List Token} (stops : Stops rest) : Unbound rest := by
  intro token head
  rcases stops token head with kind | kind | kind <;> simp [kind]

theorem Groups.unbound {row rest : List Token} (grouped : Groups row) (unbound : Unbound rest)
    : Unbound (row ++ rest) := by
  cases grouped with
  | nil => exact unbound
  | cons opens =>
      rintro token ⟨⟩
      simp [opens]

theorem Body.head {body : List Token} (step : Body body)
    : (∃ dot, dot.kind = .dot ∧ body = [dot])
      ∨ ∃ token rest,
        body = token :: rest
        ∧ token.kind ≠ .dot ∧ token.kind ≠ .slash ∧ token.kind ≠ .doubleSlash := by
  cases step with
  | dots dots =>
      rcases dots with doubleDot | dot
      · exact .inr ⟨_, _, rfl, by simp [doubleDot]⟩
      · exact .inl ⟨_, dot, rfl⟩
  | attributes named tested =>
      obtain ⟨signed, -⟩ := tested
      cases named with
      | none => exact .inr ⟨_, _, rfl, by simp [signed]⟩
      | some named => exact .inr ⟨_, _, rfl, by simp [named]⟩
  | nodes named tested =>
      cases named with
      | none =>
          cases tested with
          | name named =>
              refine .inr ⟨_, _, rfl, ?_⟩
              rcases named with named | named <;> simp [named]
          | call named => exact .inr ⟨_, _, rfl, by simp [named]⟩
      | some named => exact .inr ⟨_, _, rfl, by simp [named]⟩

/-- A first step needs no introduction, but a dot is taken for one in front of a slash. -/
theorem Body.separator? {body : List Token} (step : Body body) (rest : List Token)
    : Step.separator? true (body ++ rest) = some (.child, body ++ rest)
      ∨ (∃ start text, body = [⟨start, .dot, text⟩]) ∧ Separated rest := by
  rcases step.head with ⟨⟨start, kind, text⟩, dot, rfl⟩
    | ⟨⟨start, kind, text⟩, behind, rfl, noDot, noSlash, noDoubleSlash⟩
  · cases dot
    rcases rest with - | ⟨⟨start', kind', text'⟩, rest⟩
    · exact .inl rfl
    · by_cases slash : kind' = .slash ∨ kind' = .doubleSlash
      · exact .inr ⟨⟨start, text, rfl⟩, _, rfl, slash⟩
      · left
        cases kind' <;> simp at slash <;> rfl
  · left
    cases kind
    case dot => exact (noDot rfl).elim
    case slash => exact (noSlash rfl).elim
    case doubleSlash => exact (noDoubleSlash rfl).elim
    all_goals rfl

/-- A path begins with what introduces its first step, or else nothing is taken for that. -/
theorem Derives.cases {tokens : List Token} (derives : Derives tokens)
    : ∃ marker body rest,
        tokens = marker ++ (body ++ rest)
        ∧ Body body
        ∧ Following rest
        ∧ (Marker marker
          ∨ marker = [] ∧ Step.separator? true (body ++ rest) = some (.child, body ++ rest)) := by
  obtain @⟨marker, body, rest, rfl | marked, step, more⟩ := derives
  · rcases step.separator? rest with front | ⟨⟨start, text, rfl⟩, separated⟩
    · exact ⟨[], body, rest, rfl, step, more, .inr ⟨rfl, front⟩⟩
    · obtain ⟨slash, head, slashes⟩ := separated
      cases more with
      | nil => cases head
      | @cons _ body rest marked next more =>
          cases marked with
          | plain slashes =>
              exact ⟨[_, _], body, rest, rfl, next, more, .inl (.dotted rfl slashes)⟩
          | dotted before _ =>
              cases head
              simp [before] at slashes
  · exact ⟨_, _, _, rfl, step, more, .inl marked⟩

end Grammar

/-- Predicates with others behind them. -/
def Predicates.append (first second : Predicates) : Predicates where
  known := first.known ++ second.known
  ignored := first.ignored ++ second.ignored

theorem Predicates.readGroup_append {place : Nat × Nat} {inner : List Token}
    {extend : Predicates → Predicates} (found : readGroup place inner = .ok extend)
    (first second : Predicates)
    : extend (first.append second) = (extend first).append second := by
  unfold readGroup at found
  split at found <;> cases found <;> rfl

/-- Groups are read one row behind the other, by induction on the first ones. -/
theorem Predicates.read_groups_append {row : List Token} (grouped : Groups row)
    (rest : List Token)
    : read (row ++ rest)
      = read row >>= fun first =>
        (read rest).map fun second => (first.fst.append second.fst, second.snd) := by
  induction grouped with
  | nil =>
      have none : read [] = .ok (⟨[], []⟩, []) := read_other (by simp)
      rw [List.nil_append, none]
      cases read rest <;> rfl
  | @cons opener inner closer more opens inside closes _ ih =>
      obtain ⟨start, kind, text⟩ := opener
      obtain rfl : kind = .openBracket := opens
      rw [List.cons_append, List.append_assoc, List.cons_append, read_closed closes inside,
        read_closed closes inside, ih]
      cases group : readGroup (start, closer.position + 1) inner with
      | error fault => rfl
      | ok extend =>
          cases read more with
          | error fault => rfl
          | ok first =>
              cases read rest with
              | error fault => rfl
              | ok second =>
                  simp [bind, Except.bind, Except.map, readGroup_append group]

/-- Groups are read up to what follows them. -/
theorem Predicates.read_groups_before {row rest : List Token} (grouped : Groups row)
    (ended : rest.head?.map Token.kind ≠ some .openBracket)
    : read (row ++ rest) = (read row).map fun reading => (reading.fst, rest) := by
  rw [read_groups_append grouped, read_other ended]
  rcases read row with fault | ⟨⟨known, ignored⟩, left⟩
  · rfl
  · simp [bind, Except.bind, Except.map, append]

namespace Step

theorem separator?_of_marker {marker : List Token} (marked : Marker marker) (isFirst : Bool)
    : ∃ suggested,
        suggested ≠ .attributes
        ∧ ∀ body, separator? isFirst (marker ++ body) = some (suggested, body) := by
  cases marked with
  | @plain slash slashes =>
      obtain ⟨start, kind, text⟩ := slash
      rcases slashes with slashes | slashes
      all_goals
        cases slashes
        exact ⟨_, by simp, fun _ => rfl⟩
  | @dotted dot slash before slashes =>
      obtain ⟨start, kind, text⟩ := dot
      obtain ⟨start', kind', text'⟩ := slash
      cases before
      rcases slashes with slashes | slashes
      all_goals
        cases slashes
        exact ⟨_, by simp, fun _ => rfl⟩

/-- Behind the name of an axis, or without one, a test is read. -/
theorem readTest_of_naming {axis : Option Axis} {naming rest : List Token}
    (named : Naming axis naming) (unnamed : axisName? rest = none) (suggested : Axis)
    : readTest suggested (naming ++ rest)
      = match nodeTest? (axis.getD suggested) rest with
        | none => .ok none
        | some (axis, test, rest) => readGroups axis test rest := by
  cases named with
  | none =>
      rw [List.nil_append, readTest, unnamed]
      rfl
  | @some axis name colons named text separated =>
      obtain ⟨start, kind, text⟩ := name
      obtain ⟨start', kind', text'⟩ := colons
      cases named
      cases separated
      rw [readTest]
      simp only [List.cons_append, List.nil_append, axisName?, Axis.ofName?_eq_some.mpr text]
      rfl

theorem readBody_of_naming {axis : Option Axis} {naming rest : List Token}
    (named : Naming axis naming) (unnamed : axisName? rest = none)
    (noDots : ∀ token ∈ rest.head?, token.kind ≠ .doubleDot ∧ token.kind ≠ .dot) (suggested : Axis)
    : readBody suggested (naming ++ rest)
      = match nodeTest? (axis.getD suggested) rest with
        | none => .ok none
        | some (axis, test, rest) => readGroups axis test rest := by
  rw [← readTest_of_naming named unnamed suggested]
  refine readBody_other suggested ?_
  cases named with
  | none => exact noDots
  | some named => simp [named]

/-- A test of attributes has no groups. -/
theorem readBody_attributes {axis : Option Axis} {naming test : List Token}
    (named : Naming axis naming) (tested : AttributeTest test) (suggested : Axis)
    : ∃ found, ∀ rest,
        readBody suggested (naming ++ (test ++ rest))
          = .ok (some ⟨⟨.attributes, found, []⟩, [], rest⟩) := by
  obtain @⟨⟨start, kind, sign⟩, ⟨start', kind', name⟩, signed, either⟩ := tested
  cases signed
  rcases either with either | either
  all_goals
    cases either
    exact ⟨_, fun rest => readBody_of_naming named rfl (by simp) suggested⟩

/-- Groups stand behind a test of nodes. -/
theorem readBody_nodes {axis : Option Axis} {naming test : List Token}
    (named : Naming axis naming) (tested : Test test) (suggested : Axis)
    : ∃ found, ∀ rest, Unbound rest →
        readBody suggested (naming ++ (test ++ rest))
          = readGroups (axis.getD suggested) found rest := by
  cases tested with
  | @name token named' =>
      obtain ⟨start, kind, text⟩ := token
      rcases named' with named' | named'
      · cases named'
        refine ⟨.name text.lowered, fun rest unbound => ?_⟩
        rcases rest with - | ⟨⟨start', kind', text'⟩, rest⟩
        · exact readBody_of_naming named rfl (by simp) suggested
        · obtain ⟨noParen, noColons⟩ := unbound _ rfl
          cases kind'
          case openParen => exact (noParen rfl).elim
          case doubleColon => exact (noColons rfl).elim
          all_goals exact readBody_of_naming named rfl (by simp) suggested
      · cases named'
        exact ⟨_, fun rest _ => readBody_of_naming named rfl (by simp) suggested⟩
  | @call function opener closer named' known opens closes =>
      obtain ⟨start, kind, text⟩ := function
      obtain ⟨start', kind', text'⟩ := opener
      obtain ⟨start'', kind'', text''⟩ := closer
      cases named'
      cases opens
      cases closes
      rcases known with known | known
      all_goals
        cases known
        exact ⟨_, fun rest _ => readBody_of_naming named rfl (by simp) suggested⟩

/-- What the body of a step is read as doesn't depend on what follows it. -/
theorem readBody_stops {body : List Token} (step : Body body) {suggested : Axis}
    (nodes : suggested ≠ .attributes)
    : ∃ result : Except Fault (Step × List (Nat × Nat)), ∀ rest, Stops rest →
        readBody suggested (body ++ rest)
          = result.map fun found => some ⟨found.fst, found.snd, rest⟩ := by
  cases step with
  | @dots token dots =>
      obtain ⟨start, kind, text⟩ := token
      rcases dots with dots | dots
      all_goals
        cases dots
        exact ⟨.ok (_, []), fun _ _ => rfl⟩
  | @attributes axis naming test named tested =>
      obtain ⟨found, reads⟩ := readBody_attributes named tested suggested
      refine ⟨.ok (⟨.attributes, found, []⟩, []), fun rest _ => ?_⟩
      rw [List.append_assoc, reads]
      rfl
  | @nodes axis naming test groups named tested grouped bare =>
      obtain ⟨found, reads⟩ := readBody_nodes named tested suggested
      by_cases attributes : axis.getD suggested = .attributes
      · have named : axis = some .attributes := by
          cases axis with
          | none => exact (nodes attributes).elim
          | some axis => exact congrArg some attributes
        obtain rfl := bare named
        refine ⟨.ok (⟨.attributes, found, []⟩, []), fun rest stops => ?_⟩
        rw [List.append_nil, List.append_assoc, reads rest stops.unbound, readGroups,
          if_pos attributes, attributes]
        rfl
      · refine ⟨(Predicates.read groups).map fun reading =>
          (⟨axis.getD suggested, found, reading.fst.known⟩, reading.fst.ignored), ?_⟩
        intro rest stops
        rw [List.append_assoc, List.append_assoc, reads _ (grouped.unbound stops.unbound),
          readGroups, if_neg attributes, Predicates.read_groups_before grouped stops.noBracket]
        cases Predicates.read groups <;> rfl

/-- The body of a step is read up to what follows it. -/
theorem rest_of_body {body rest : List Token} (step : Body body) (stops : Stops rest)
    {suggested : Axis} (nodes : suggested ≠ .attributes) {result : Option Reading}
    (found : readBody suggested (body ++ rest) = .ok result)
    : ∃ reading, result = some reading ∧ reading.rest = rest := by
  obtain ⟨read, reads⟩ := readBody_stops step nodes
  rw [reads rest stops] at found
  obtain ⟨inner, -, rfl⟩ := ok_of_map found
  exact ⟨_, rfl, rfl⟩

/-- A step is read up to what follows it. -/
theorem rest_of_marked {isFirst : Bool} {marker body rest : List Token} (marked : Marker marker)
    (step : Body body) (stops : Stops rest) {result : Option Reading}
    (found : read isFirst (marker ++ (body ++ rest)) = .ok result)
    : ∃ reading, result = some reading ∧ reading.rest = rest := by
  obtain ⟨suggested, nodes, front⟩ := separator?_of_marker marked isFirst
  rw [read_eq, front] at found
  exact rest_of_body step stops nodes found

end Step

namespace Steps

/-- Steps that are derived are read up to their end, by induction on their number. -/
theorem rest_of_following {tokens : List Token} (following : Following tokens) {reading : Steps}
    (found : read false tokens = .ok reading)
    : reading.rest = [] := by
  induction following generalizing reading with
  | nil =>
      rw [read_nil] at found
      cases found
      rfl
  | @cons marker body rest marked step more ih =>
      rcases cases_of_read found with ⟨rfl, empty | none⟩ | ⟨head, others, first, behind, rfl⟩
      · exact empty
      · obtain ⟨reading, some, -⟩ := Step.rest_of_marked marked step more.stops none
        cases some
      · obtain ⟨reading, same, left⟩ := Step.rest_of_marked marked step more.stops first
        cases same
        rw [left] at behind
        have ended := ih behind
        exact ended

/-- A path that is derived is read up to its end. -/
theorem rest_of_derives {tokens : List Token} (derives : Derives tokens) {reading : Steps}
    (found : read true tokens = .ok reading)
    : reading.steps ≠ [] ∧ reading.rest = [] := by
  obtain ⟨marker, body, rest, rfl, step, more, marked⟩ := derives.cases
  have first {result : Option Step.Reading}
      (found : Step.read true (marker ++ (body ++ rest)) = .ok result)
      : ∃ reading, result = some reading ∧ reading.rest = rest := by
    rcases marked with marked | ⟨rfl, front⟩
    · exact Step.rest_of_marked marked step more.stops found
    · rw [Step.read_eq, List.nil_append, front] at found
      exact Step.rest_of_body step more.stops (by simp) found
  rcases cases_of_read found with ⟨rfl, empty | none⟩ | ⟨head, others, reads, behind, rfl⟩
  · rcases step.head with ⟨dot, -, rfl⟩ | ⟨token, behind, rfl, -⟩ <;> simp at empty
  · obtain ⟨reading, some, -⟩ := first none
    cases some
  · obtain ⟨reading, same, left⟩ := first reads
    cases same
    rw [left] at behind
    have ended := rest_of_following more behind
    exact ⟨by simp, ended⟩

end Steps

-----------------------------------------------------------------------------------------
-- What a step ends with
-----------------------------------------------------------------------------------------

namespace Token

/-- The tokens left over behind others, the last of which ends a step: it is readable and no slash.
-/
def Leaves (tokens rest : List Token) : Prop :=
  ∃ before last, tokens = before ++ last :: rest ∧ last.kind ≠ .error ∧ last.kind ≠ .slash

theorem Leaves.single {last : Token} (readable : last.kind ≠ .error) (other : last.kind ≠ .slash)
    (rest : List Token)
    : Leaves (last :: rest) rest :=
  ⟨[], last, rfl, readable, other⟩

theorem Leaves.cons {tokens rest : List Token} (leaves : Leaves tokens rest) (token : Token)
    : Leaves (token :: tokens) rest := by
  obtain ⟨before, last, rfl, readable, other⟩ := leaves
  exact ⟨token :: before, last, rfl, readable, other⟩

theorem Leaves.prepend {tokens rest : List Token} (leaves : Leaves tokens rest)
    (before : List Token)
    : Leaves (before ++ tokens) rest := by
  induction before with
  | nil => exact leaves
  | cons token before ih => exact ih.cons token

theorem Leaves.trans {tokens middle rest : List Token} (first : Leaves tokens middle)
    (second : Leaves middle rest)
    : Leaves tokens rest := by
  obtain ⟨before, last, rfl, -, -⟩ := first
  exact (second.cons last).prepend before

end Token

namespace Grammar

theorem Groups.leaves {groups : List Token} (grouped : Groups groups) (rest : List Token)
    : groups = [] ∨ Token.Leaves (groups ++ rest) rest := by
  induction grouped with
  | nil => exact .inl rfl
  | @cons opener inner closer more opens inside closes _ ih =>
      right
      rw [List.cons_append, List.append_assoc, List.cons_append]
      refine Token.Leaves.cons (Token.Leaves.prepend ?_ inner) opener
      rcases ih with rfl | leaves
      · exact .single (by simp [closes]) (by simp [closes]) rest
      · exact leaves.cons closer

theorem Test.leaves {test : List Token} (tested : Test test) (rest : List Token)
    : Token.Leaves (test ++ rest) rest := by
  cases tested with
  | name named =>
      rcases named with named | named
      all_goals exact .single (by simp [named]) (by simp [named]) rest
  | call _ _ _ closes =>
      exact ((Token.Leaves.single (by simp [closes]) (by simp [closes]) rest).cons _).cons _

theorem Body.leaves {body : List Token} (step : Body body) (rest : List Token)
    : Token.Leaves (body ++ rest) rest := by
  cases step with
  | dots dots =>
      rcases dots with dots | dots
      all_goals exact .single (by simp [dots]) (by simp [dots]) rest
  | attributes _ tested =>
      obtain ⟨-, named⟩ := tested
      rw [List.append_assoc]
      refine Token.Leaves.prepend (Token.Leaves.cons ?_ _) _
      rcases named with named | named
      all_goals exact .single (by simp [named]) (by simp [named]) rest
  | @nodes axis naming test groups _ tested grouped =>
      rw [List.append_assoc, List.append_assoc]
      refine Token.Leaves.prepend ?_ naming
      rcases grouped.leaves rest with rfl | leaves
      · exact tested.leaves rest
      · exact leaves.prepend test

end Grammar

/-- A step ends with a readable token that is no slash. -/
theorem Step.leaves_of_read {isFirst : Bool} {tokens : List Token} {reading : Reading}
    (found : read isFirst tokens = .ok (some reading))
    : Token.Leaves tokens reading.rest := by
  obtain ⟨marker, body, rfl, -, step⟩ := body_of_read found
  exact (step.leaves reading.rest).prepend marker

/-- What steps leave over stands behind a readable token that is no slash, by induction on them. -/
theorem Steps.leaves_of_read {isFirst : Bool} {tokens : List Token} {reading : Steps}
    (found : read isFirst tokens = .ok reading)
    : reading.rest = tokens ∨ Token.Leaves tokens reading.rest := by
  have run := run_of_read found
  clear found
  induction run with
  | done => exact .inl rfl
  | step first _ _ ih =>
      have leaves := Step.leaves_of_read first
      rcases ih with left | further
      · exact .inr (left ▸ leaves)
      · exact .inr (leaves.trans further)

/-- What steps leave over are tokens that they were read from. -/
theorem Steps.rest_subset_of_read {isFirst : Bool} {tokens : List Token} {reading : Steps}
    (found : read isFirst tokens = .ok reading)
    : reading.rest ⊆ tokens := by
  rcases leaves_of_read found with whole | ⟨before, last, whole, -, -⟩
  · exact whole ▸ List.Subset.refl tokens
  · intro token member
    rw [whole]
    exact List.mem_append_right _ (List.mem_cons_of_mem _ member)

end HtmlQuery.XPath
