import HtmlQuery.Proofs.XPath.CompletePath
import HtmlQuery.Proofs.XPath.PredicateOverflow

/-! Expressions that can't be read, not even in part. All that leads to that is an integer too large in
a predicate at which reading arrives.
-/

namespace HtmlQuery.XPath

open Token (Balanced)

namespace Grammar

/-- Steps of nodes, without what introduces them: a further predicate may stand behind. -/
inductive Open : List Token → Prop
  | mk {axis naming test groups} (named : Naming axis naming) (nodes : axis ≠ some .attributes)
    (tested : Test test) (grouped : Groups groups)
    : Open (naming ++ (test ++ groups))

/-- Paths behind which a further predicate may stand. -/
inductive Extensible : List Token → Prop
  | first {marker step} (marked : marker = [] ∨ Marker marker) (opened : Open step)
    : Extensible (marker ++ step)
  | behind {path marker step} (derives : Derives path) (marked : Marker marker) (opened : Open step)
    : Extensible (path ++ (marker ++ step))

/-- What may follow is a predicate that is a fault, with anything behind it. -/
inductive Faulty (fault : Fault) : List Token → Prop
  | mk {opener inner closer rest} (opens : opener.kind = .openBracket) (inside : Balanced inner)
    (closes : closer.kind = .closeBracket) (fails : Predicate.read inner = .error (.fault fault))
    : Faulty fault (opener :: (inner ++ closer :: rest))

end Grammar

open Grammar

variable {fault : Fault}

-----------------------------------------------------------------------------------------
-- A fault has its place
-----------------------------------------------------------------------------------------

theorem Predicates.readGroup_eq_error {place : Nat × Nat} {inner : List Token}
    : readGroup place inner = .error fault ↔ Predicate.read inner = .error (.fault fault) := by
  rw [readGroup]
  rcases Predicate.read inner with (- | other) | predicate <;> simp

/-- A fault behind a test is one of a predicate behind others, by induction on the number of tokens. -/
theorem Predicates.faulty_of_read {tokens : List Token} (found : read tokens = .error fault)
    : ∃ groups more, tokens = groups ++ more ∧ Groups groups ∧ Faulty fault more := by
  induction length : tokens.length using Nat.strongRecOn generalizing tokens with
  | ind size ih =>
      by_cases bracket : tokens.head?.map Token.kind = some .openBracket
      · rcases tokens with - | ⟨⟨start, kind, text⟩, tokens⟩
        · cases bracket
        obtain rfl : kind = .openBracket := by simpa using bracket
        cases closing : Token.closing? (⟨start, .openBracket, text⟩ :: tokens) 0 with
        | none =>
            rw [read_unclosed closing] at found
            cases found
        | some offset =>
            obtain ⟨inner, closer, after, rfl, -, pair, inside⟩ := Token.group_of_closing? rfl closing
            have closes : closer.kind = .closeBracket := (Option.some.inj pair).symm
            rw [read_closed closes inside] at found
            rcases bind_eq_error.mp found with fails | ⟨extend, -, later⟩
            · exact ⟨[], _, rfl, .nil, .mk rfl inside closes (readGroup_eq_error.mp fails)⟩
            · have shorter : after.length < size := by
                rw [← length, List.length_cons, List.length_append, List.length_cons]
                omega
              obtain ⟨groups, more, rfl, grouped, faulty⟩ :=
                ih after.length shorter (map_eq_error.mp later) rfl
              refine ⟨⟨start, .openBracket, text⟩ :: (inner ++ closer :: groups), more, by simp, ?_,
                faulty⟩
              exact .cons rfl inside closes grouped
      · rw [read_other bracket] at found
        cases found

/-- A fault of a step is one of a predicate behind it. -/
theorem Step.faulty_of_read {isFirst : Bool} {tokens : List Token}
    (found : read isFirst tokens = .error fault)
    : ∃ marker step more,
        tokens = marker ++ (step ++ more)
        ∧ (isFirst = true ∧ marker = [] ∨ Marker marker)
        ∧ Open step
        ∧ Faulty fault more := by
  rw [read_eq] at found
  cases front : separator? isFirst tokens with
  | none =>
      rw [front] at found
      cases found
  | some separated =>
      obtain ⟨suggested, body⟩ := separated
      simp only [front] at found
      obtain ⟨marker, rfl, marked⟩ := marker_of_separator? front
      have tested : readTest suggested body = .error fault := by
        unfold readBody at found
        split at found
        · cases found
        · cases found
        · exact found
      unfold readTest at tested
      rcases name : (axisName? body).getD (suggested, body) with ⟨axis, inner⟩
      rw [name] at tested
      obtain ⟨axis, naming, rfl, named, rfl⟩ := naming_of_axisName? name
      simp only at tested
      cases test : nodeTest? (axis.getD suggested) inner with
      | none => simp [test] at tested
      | some testing =>
          obtain ⟨chosen, test, rest⟩ := testing
          simp only [‹nodeTest? _ _ = _›, readGroups] at tested
          split at tested
          · cases tested
          · rename_i nodes
            obtain ⟨groups, more, rfl, grouped, faulty⟩ :=
              Predicates.faulty_of_read (map_eq_error.mp tested)
            obtain ⟨row, rfl, ⟨-, rfl⟩ | ⟨testing, rfl⟩⟩ := test_of_nodeTest? ‹nodeTest? _ _ = _›
            · exact (nodes rfl).elim
            · refine ⟨marker, naming ++ (row ++ groups), more, by simp, marked, ?_, faulty⟩
              refine .mk named ?_ testing grouped
              rintro rfl
              exact nodes rfl

/-- A fault behind a step is one of a predicate behind that or a later step, by induction on the number
of tokens.
-/
theorem Steps.faulty_of_read_false {tokens : List Token} (found : read false tokens = .error fault)
    : ∃ path marker step more,
        tokens = path ++ (marker ++ (step ++ more))
        ∧ Following path
        ∧ Marker marker
        ∧ Open step
        ∧ Faulty fault more := by
  induction length : tokens.length using Nat.strongRecOn generalizing tokens with
  | ind length ih =>
      cases tokens with
      | nil => simp [read_nil] at found
      | cons token rest =>
          rw [read_cons] at found
          rcases first : Step.read false (token :: rest) with other | - | reading
          · rw [first] at found
            cases found
            obtain ⟨marker, step, more, shape, ⟨first, -⟩ | marked, opened, faulty⟩ :=
              Step.faulty_of_read first
            · cases first
            · exact ⟨[], marker, step, more, shape, .nil, marked, opened, faulty⟩
          · simp [first] at found
          · simp only [first] at found
            have shorter := Step.length_read first
            obtain ⟨path, marker, step, more, left, following, marked, opened, faulty⟩ :=
              ih reading.rest.length (by omega) (map_eq_error.mp found) rfl
            obtain ⟨marker', body, whole, ⟨first, -⟩ | marked', step'⟩ := Step.body_of_read first
            · cases first
            · refine ⟨marker' ++ (body ++ path), marker, step, more, ?_, .cons marked' step' following,
                marked, opened, faulty⟩
              rw [whole, left]
              simp

theorem Steps.faulty_of_read {tokens : List Token} (found : read true tokens = .error fault)
    : ∃ path more, tokens = path ++ more ∧ Extensible path ∧ Faulty fault more := by
  cases tokens with
  | nil => simp [read_nil] at found
  | cons token rest =>
      rw [read_cons] at found
      rcases first : Step.read true (token :: rest) with other | - | reading
      · rw [first] at found
        cases found
        obtain ⟨marker, step, more, shape, marked, opened, faulty⟩ := Step.faulty_of_read first
        exact ⟨marker ++ step, more, by simp [shape], .first (marked.imp_left And.right) opened, faulty⟩
      · simp [first] at found
      · simp only [first] at found
        obtain ⟨path, marker, step, more, left, following, marked, opened, faulty⟩ :=
          faulty_of_read_false (map_eq_error.mp found)
        obtain ⟨marker', body, whole, marked', step'⟩ := Step.body_of_read first
        refine ⟨(marker' ++ (body ++ path)) ++ (marker ++ step), more, ?_, ?_, faulty⟩
        · rw [whole, left]
          simp
        · exact .behind (.mk (marked'.imp_left And.right) step' following) marked opened

-----------------------------------------------------------------------------------------
-- Each such place is reached
-----------------------------------------------------------------------------------------

/-- Predicates that lead to a fault can't be read, by induction on those in front of the fault. -/
theorem Predicates.read_faulty {groups more : List Token} (grouped : Groups groups)
    (faulty : Faulty fault more)
    : ∃ other, read (groups ++ more) = .error other := by
  induction grouped with
  | nil =>
      obtain @⟨⟨start, kind, text⟩, inner, closer, rest, opens, inside, closes, fails⟩ := faulty
      cases opens
      rw [List.nil_append, read_closed closes inside]
      exact ⟨fault, bind_eq_error.mpr (.inl (readGroup_eq_error.mpr fails))⟩
  | @cons opener inner closer groups opens inside closes _ ih =>
      obtain ⟨start, kind, text⟩ := opener
      cases opens
      rw [List.cons_append, List.append_assoc, List.cons_append, read_closed closes inside]
      cases readGroup (start, closer.position + 1) inner with
      | error other => exact ⟨other, rfl⟩
      | ok extend =>
          obtain ⟨other, fails⟩ := ih
          exact ⟨other, bind_eq_error.mpr (.inr ⟨extend, rfl, map_eq_error.mpr fails⟩)⟩

theorem Grammar.Faulty.unbound {more : List Token} (faulty : Faulty fault more) : Unbound more := by
  obtain ⟨opens, -, -, -⟩ := faulty
  rintro token ⟨⟩
  simp [opens]

theorem Grammar.Faulty.not_separated {more : List Token} (faulty : Faulty fault more)
    : ¬Separated more := by
  obtain ⟨opens, -, -, -⟩ := faulty
  rintro ⟨token, ⟨⟩, slash⟩
  simp [opens] at slash

theorem Grammar.Open.body {step : List Token} (opened : Open step) : Body step := by
  obtain ⟨named, nodes, tested, grouped⟩ := opened
  exact .nodes named tested grouped fun attributes => (nodes attributes).elim

namespace Step

theorem readBody_faulty {step more : List Token} (opened : Open step) (faulty : Faulty fault more)
    {suggested : Axis} (nodes : suggested ≠ .attributes)
    : ∃ other, readBody suggested (step ++ more) = .error other := by
  obtain @⟨axis, naming, test, groups, named, nodes', tested, grouped⟩ := opened
  obtain ⟨test, reads⟩ := readBody_nodes named tested suggested
  have nodes : axis.getD suggested ≠ .attributes := by
    cases axis with
    | none => exact nodes
    | some axis => exact fun same => nodes' (congrArg some same)
  obtain ⟨other, fails⟩ := Predicates.read_faulty grouped faulty
  rw [List.append_assoc, List.append_assoc, reads _ (grouped.unbound faulty.unbound), readGroups,
    if_neg nodes]
  exact ⟨other, map_eq_error.mpr fails⟩

theorem read_marked_faulty {isFirst : Bool} {marker step more : List Token} (marked : Marker marker)
    (opened : Open step) (faulty : Faulty fault more)
    : ∃ other, read isFirst (marker ++ (step ++ more)) = .error other := by
  obtain ⟨suggested, nodes, front⟩ := separator?_of_marker marked isFirst
  rw [read_eq, front]
  exact readBody_faulty opened faulty nodes

end Step

namespace Steps

/-- A step that can't be read lets all steps fail. -/
theorem read_of_step_error {isFirst : Bool} {tokens : List Token}
    (fails : ∃ other, Step.read isFirst tokens = .error other)
    : ∃ other, read isFirst tokens = .error other := by
  obtain ⟨other, fails⟩ := fails
  cases tokens with
  | nil =>
      obtain ⟨marker, step, more, shape, -, ⟨-, -, tested, -⟩, -⟩ := Step.faulty_of_read fails
      cases tested <;> simp at shape
  | cons token rest =>
      rw [read_cons, fails]
      exact ⟨other, rfl⟩

/-- Behind a step that is read up to them, steps fail that fail on their own. -/
theorem read_of_rest_error {isFirst : Bool} {tokens rest : List Token}
    (reads : ∀ result, Step.read isFirst tokens = .ok result →
      ∃ reading, result = some reading ∧ reading.rest = rest)
    (fails : ∃ other, read false rest = .error other)
    : ∃ other, read isFirst tokens = .error other := by
  cases first : Step.read isFirst tokens with
  | error other => exact read_of_step_error ⟨other, first⟩
  | ok result =>
      obtain ⟨reading, rfl, left⟩ := reads result first
      cases tokens with
      | nil => exact (Nat.not_lt_zero _ (Step.length_read first)).elim
      | cons token tokens =>
          obtain ⟨other, fails⟩ := fails
          rw [read_cons, first]
          exact ⟨other, map_eq_error.mpr (left ▸ fails)⟩

/-- Steps that lead to a fault can't be read, by induction on those in front of the fault. -/
theorem read_following_faulty {path marker step more : List Token} (following : Following path)
    (marked : Marker marker) (opened : Open step) (faulty : Faulty fault more)
    : Stops (path ++ (marker ++ (step ++ more)))
      ∧ ∃ other, read false (path ++ (marker ++ (step ++ more))) = .error other := by
  induction following with
  | nil =>
      rw [List.nil_append]
      exact ⟨marked.stops _, read_of_step_error (Step.read_marked_faulty marked opened faulty)⟩
  | @cons marker' body rest marked' step' _ ih =>
      obtain ⟨stops, fails⟩ := ih
      rw [List.append_assoc, List.append_assoc]
      refine ⟨marked'.stops _, read_of_rest_error ?_ fails⟩
      intro result reads
      exact Step.rest_of_marked marked' step' stops reads

/-- A leading dot changes nothing about a fault behind it. -/
theorem read_dot_error (start : Nat) (text : String) {more : List Token} (separated : Separated more)
    (fails : ∃ other, read false more = .error other)
    : ∃ other, read true (⟨start, .dot, text⟩ :: more) = .error other := by
  obtain ⟨other, fails⟩ := fails
  cases more with
  | nil => simp [read_nil] at fails
  | cons token rest =>
      rw [read_cons] at fails ⊢
      rw [Step.read_dot start text separated]
      rcases step : Step.read false (token :: rest) with fault | - | reading
      · exact ⟨fault, rfl⟩
      · simp [step] at fails
      · rw [step] at fails
        exact ⟨other, fails⟩

/-- A path that leads to a fault can't be read. -/
theorem read_faulty {path more : List Token} (extensible : Extensible path)
    (faulty : Faulty fault more)
    : ∃ other, read true (path ++ more) = .error other := by
  cases extensible with
  | @first marker step marked opened =>
      rw [List.append_assoc]
      apply read_of_step_error
      rcases marked with rfl | marked'
      · rcases opened.body.separator? more with front | ⟨-, separated⟩
        · rw [List.nil_append, Step.read_eq, front]
          exact Step.readBody_faulty opened faulty (by simp)
        · exact (faulty.not_separated separated).elim
      · exact Step.read_marked_faulty marked' opened faulty
  | @behind path marker step derives marked opened =>
      obtain @⟨first, body, rest, introduced, step', following⟩ := derives
      obtain ⟨stops, fails⟩ := read_following_faulty following marked opened faulty
      simp only [List.append_assoc]
      rcases introduced with rfl | introduced
      · rcases step'.separator? (rest ++ (marker ++ (step ++ more)))
          with front | ⟨⟨start, text, rfl⟩, separated⟩
        · refine read_of_rest_error ?_ fails
          intro result reads
          rw [List.nil_append, Step.read_eq, front] at reads
          exact Step.rest_of_body step' stops (by simp) reads
        · exact read_dot_error start text separated fails
      · refine read_of_rest_error ?_ fails
        intro result reads
        exact Step.rest_of_marked introduced step' stops reads

end Steps

namespace Path

/-- Whether reading the tokens of an expression reaches an integer too large: in a predicate behind a
path that may be followed by one, whatever stands behind the predicate.
-/
def Overflows (tokens : List Token) : Prop :=
  ∃ path opener inner closer rest,
    tokens = path ++ opener :: (inner ++ closer :: rest)
    ∧ Extensible path
    ∧ opener.kind = .openBracket
    ∧ closer.kind = .closeBracket
    ∧ Balanced inner
    ∧ Predicate.Overflows inner

theorem read_eq_error_iff_steps {expression : String}
    : read expression = .error fault ↔ Steps.read true (Token.scan expression) = .error fault := by
  rw [read]
  cases Steps.read true (Token.scan expression) <;> simp [bind, Except.bind]

theorem overflows_of_read {expression : String} (found : read expression = .error fault)
    : fault = .infiniteInteger ∧ Overflows (Token.scan expression) := by
  obtain ⟨path, more, whole, extensible, faulty⟩ :=
    Steps.faulty_of_read (read_eq_error_iff_steps.mp found)
  obtain ⟨opens, inside, closes, fails⟩ := faulty
  obtain ⟨rfl, overflows⟩ := Predicate.overflows_of_read fails
  exact ⟨rfl, path, _, _, _, _, whole, extensible, opens, closes, inside, overflows⟩

theorem read_of_overflows {expression : String} (overflows : Overflows (Token.scan expression))
    : read expression = .error .infiniteInteger := by
  obtain ⟨path, opener, inner, closer, rest, whole, extensible, opens, closes, inside, overflows⟩ :=
    overflows
  have faulty : Faulty .infiniteInteger (opener :: (inner ++ closer :: rest)) :=
    .mk opens inside closes overflows.read_eq
  obtain ⟨other, fails⟩ := Steps.read_faulty extensible faulty
  rw [← whole, ← read_eq_error_iff_steps] at fails
  obtain ⟨rfl, -⟩ := overflows_of_read fails
  exact fails

/-- An expression is read, at least in part, unless it reaches an integer too large. -/
theorem read_eq_error {expression : String}
    : read expression = .error fault
      ↔ fault = .infiniteInteger ∧ Overflows (Token.scan expression) := by
  constructor
  · exact overflows_of_read
  · rintro ⟨rfl, overflows⟩
    exact read_of_overflows overflows

end Path

-----------------------------------------------------------------------------------------
-- An integer of many digits
-----------------------------------------------------------------------------------------

/-- Nines denote one less than a power of ten, by induction on their number. -/
theorem digitsValue_nines (count : Nat)
    : Text.digitsValue (List.replicate count '9') + 1 = Decimal.tenToThe count := by
  have nine : (Text.digitValue? '9').getD 0 = 9 := by decide
  have general (value : Nat)
      : (List.replicate count '9').foldl
          (fun value c => value * 10 + (Text.digitValue? c).getD 0) value + 1
        = (value + 1) * Decimal.tenToThe count := by
    induction count generalizing value with
    | zero => exact (Nat.mul_one _).symm
    | succ count ih =>
        have power : Decimal.tenToThe (count + 1) = Decimal.tenToThe count * 10 := rfl
        rw [List.replicate_succ, List.foldl_cons, ih, nine, power]
        have next : value * 10 + 9 + 1 = (value + 1) * 10 := by omega
        rw [next, Nat.mul_assoc, Nat.mul_comm 10]
  rw [Text.digitsValue, general, Nat.zero_add, Nat.one_mul]

theorem isTooLarge_nines : Number.IsTooLarge (String.ofList (List.replicate 309 '9')) := by
  have noPoint : ∀ c ∈ List.replicate 309 '9', (c != '.') = true := by
    intro c member
    rw [List.eq_of_mem_replicate member]
    rfl
  have value := digitsValue_nines 309
  have bound : Decimal.overflow * Decimal.tenToThe 0 < Decimal.tenToThe 309 := by decide +kernel
  simp only [Number.IsTooLarge, Number.wholeDigits, Number.fractionDigits, String.toList_ofList,
    List.takeWhile_eq_self_iff.mpr noPoint, List.dropWhile_eq_nil_iff.mpr noPoint, List.drop_nil,
    List.append_nil, List.length_nil]
  omega

theorem isLexeme_nines (count : Nat)
    : Token.IsLexeme .number (List.replicate (count + 1) '9') := by
  refine .single (by decide) ?_
  intro c member
  rw [List.eq_of_mem_replicate member]
  decide

/-- An expression that selects by the part of a text from a place on. -/
def fromPlace (digits : List Char) : String :=
  "//p[substring(., " ++ String.ofList digits ++ ")='x']"

theorem toList_enclosed (front back : String) (digits : List Char)
    : (front ++ String.ofList digits ++ back).toList
      = front.toList ++ (digits ++ back.toList) := by
  rw [String.toList_append, String.toList_append, String.toList_ofList, List.append_assoc]

theorem scan_fromPlace {digits : List Char} (number : Token.IsLexeme .number digits)
    : Token.scan (fromPlace digits)
      = [⟨0, .doubleSlash, "//"⟩, ⟨2, .name, "p"⟩, ⟨3, .openBracket, "["⟩, ⟨4, .name, "substring"⟩,
        ⟨13, .openParen, "("⟩, ⟨14, .dot, "."⟩, ⟨15, .comma, ","⟩,
        ⟨17, .number, String.ofList digits⟩]
        ++ [⟨0, .closeParen, ")"⟩, ⟨1, .relation, "="⟩, ⟨2, .string, "'x'"⟩,
          ⟨5, .closeBracket, "]"⟩].map (Token.moved (17 + digits.length)) := by
  have front : Token.Laid 0
      [⟨0, .doubleSlash, "//"⟩, ⟨2, .name, "p"⟩, ⟨3, .openBracket, "["⟩, ⟨4, .name, "substring"⟩,
        ⟨13, .openParen, "("⟩, ⟨14, .dot, "."⟩, ⟨15, .comma, ","⟩]
      "//p[substring(.,".toList :=
    Token.scanFrom_eq_iff.mp ⟨by decide +kernel, by decide⟩
  have scanned : Token.scanFrom 0 ")='x']".toList
      = [⟨0, .closeParen, ")"⟩, ⟨1, .relation, "="⟩, ⟨2, .string, "'x'"⟩, ⟨5, .closeBracket, "]"⟩] := by
    decide +kernel
  have back : Token.Laid (17 + digits.length)
      ((Token.scanFrom 0 ")='x']".toList).map (Token.moved (17 + digits.length)))
      ")='x']".toList := by
    refine Token.scanFrom_eq_iff.mp ⟨Token.scanFrom_add (17 + digits.length) 0 _, ?_⟩
    rw [scanned]
    simp [Token.moved]
  have ends : Token.Ends .number digits ")='x']".toList := by
    refine ⟨?_, .inr ?_⟩
    · rintro c ⟨⟩
      decide
    · rintro more ⟨⟩
  have placed : Token.Laid 17 _ (digits ++ ")='x']".toList) := .lexeme number ends back
  have blank : Token.Detached (some .comma) (' ' :: (digits ++ ")='x']".toList)) :=
    .of_apart (by decide) (by decide) (by decide) (by decide) (by simp) _
  have whole := front.append blank (placed.blank (by decide))
  have seam : "//p[substring(., ".toList = "//p[substring(.,".toList ++ [' '] := by decide
  have text : (fromPlace digits).toList
      = "//p[substring(., ".toList ++ (digits ++ ")='x']".toList) :=
    toList_enclosed _ _ digits
  rw [Token.scan, text, seam, List.append_assoc, List.singleton_append, whole.scanFrom_eq, scanned]
  rfl

/-- A place that is too large can't be read. -/
theorem Path.read_fromPlace {digits : List Char} (number : Token.IsLexeme .number digits)
    (large : Number.IsTooLarge (String.ofList digits))
    : read (fromPlace digits) = .error .infiniteInteger := by
  apply read_of_overflows
  rw [scan_fromPlace number]
  generalize 17 + digits.length = distance
  have call : Predicate.OverflowingCall
      [⟨4, .name, "substring"⟩, ⟨13, .openParen, "("⟩, ⟨14, .dot, "."⟩, ⟨15, .comma, ","⟩,
        ⟨17, .number, String.ofList digits⟩, ⟨distance, .closeParen, ")"⟩] :=
    ⟨[[⟨14, .dot, "."⟩], [⟨17, .number, String.ofList digits⟩]], rfl, .start rfl large (by simp)⟩
  have path : Extensible [⟨0, .doubleSlash, "//"⟩, ⟨2, .name, "p"⟩] :=
    .first (.inr (.plain (.inr rfl))) (.mk .none (by simp) (.name (.inl rfl)) .nil)
  have inside : Balanced
      [⟨4, .name, "substring"⟩, ⟨13, .openParen, "("⟩, ⟨14, .dot, "."⟩, ⟨15, .comma, ","⟩,
        ⟨17, .number, String.ofList digits⟩, ⟨distance, .closeParen, ")"⟩,
        ⟨distance + 1, .relation, "="⟩, ⟨distance + 2, .string, "'x'"⟩] := by
    have arguments : Balanced
        [⟨14, .dot, "."⟩, ⟨15, .comma, ","⟩, ⟨17, .number, String.ofList digits⟩] :=
      .plain rfl rfl rfl (.plain rfl rfl rfl (.single rfl rfl rfl))
    exact .plain rfl rfl rfl (.group rfl arguments (.plain rfl rfl rfl (.single rfl rfl rfl)))
  refine ⟨_, ⟨3, .openBracket, "["⟩, _, ⟨distance + 5, .closeBracket, "]"⟩, [], rfl, path, rfl, rfl,
    inside, ?_⟩
  exact .compared rfl (.inl rfl) (.inl rfl) (.inl ⟨call, rfl⟩)

/-- A place of 309 digits is one: there are expressions of the right form that can't be read. -/
theorem Path.read_fromPlace_nines
    : read (fromPlace (List.replicate 309 '9')) = .error .infiniteInteger :=
  read_fromPlace (isLexeme_nines 308) isTooLarge_nines

end HtmlQuery.XPath
