import HtmlQuery.Proofs.XPath.Nesting
import HtmlQuery.Proofs.XPath.PredicateCases
import HtmlQuery.Proofs.XPath.StepCases

/-! What is read from tokens depends neither on their positions nor on the text of what can't be
read; only the noted extents of skipped predicates depend on positions.
-/

namespace HtmlQuery.XPath

/-- The token with another position. -/
def Token.placed (place : Token → Nat) (token : Token) : Token :=
  { token with position := place token }

/-- The token with another position; one that can't be read also gets another text. -/
def Token.respelled (place : Token → Nat) (unread : Token → String) (token : Token) : Token where
  position := place token
  kind := token.kind
  text :=
    match token.kind with
    | .error => unread token
    | _ => token.text

/-- The same partition of other tokens. -/
def Partition.map (f : Token → Token) (partition : Partition) : Partition where
  first := partition.first.map f
  others := partition.others.map fun (separator, part) => (f separator, part.map f)

variable (place : Token → Nat) (unread : Token → String)

-----------------------------------------------------------------------------------------
-- Groups
-----------------------------------------------------------------------------------------

namespace Token

@[simp] theorem placed_kind (token : Token) : (placed place token).kind = token.kind := rfl

@[simp] theorem placed_text (token : Token) : (placed place token).text = token.text := rfl

/-- Another position alone is a special case. -/
theorem respelled_eq_placed : respelled place text = placed place := by
  funext ⟨position, kind, text⟩
  cases kind <;> rfl

@[simp] theorem respelled_kind (token : Token)
    : (respelled place unread token).kind = token.kind :=
  rfl

theorem respelled_text {token : Token} (readable : token.kind ≠ .error)
    : (respelled place unread token).text = token.text := by
  unfold respelled
  split <;> simp_all

theorem closingOffset?_respelled (openers : List TokenKind) (tokens : List Token)
    : closingOffset? openers (tokens.map (respelled place unread))
      = closingOffset? openers tokens := by
  induction tokens generalizing openers with
  | nil => rfl
  | cons token rest ih => simp only [List.map_cons, closingOffset?, respelled_kind, ih]

theorem closing?_respelled (tokens : List Token) (start : Nat)
    : closing? (tokens.map (respelled place unread)) start = closing? tokens start := by
  simp only [closing?, ← List.map_drop, closingOffset?_respelled]

theorem partition_respelled (isSeparator : Token → Bool)
    (same : ∀ token, isSeparator (token.respelled place unread) = isSeparator token)
    (tokens : List Token)
    : partition isSeparator (tokens.map (respelled place unread))
      = (partition isSeparator tokens).map (respelled place unread) := by
  unfold partition
  generalize (0 : Int) = depth
  induction tokens generalizing depth with
  | nil => rfl
  | cons token rest ih =>
      simp only [List.map_cons, partitionFrom, respelled_kind, ih, same]
      split
      · rfl
      · split
        · rfl
        · split <;> rfl

theorem parts_respelled (partition : Partition)
    : (partition.map (respelled place unread)).parts
      = partition.parts.map (List.map (respelled place unread)) := by
  simp [Partition.map, Partition.parts]

theorem parenthesized?_respelled (tokens : List Token)
    : parenthesized? (tokens.map (respelled place unread))
      = (parenthesized? tokens).map (List.map (respelled place unread)) := by
  cases tokens with
  | nil => rfl
  | cons token rest =>
      obtain ⟨position, kind, text⟩ := token
      cases kind
      case openParen =>
        have closes := closing?_respelled place unread (⟨position, .openParen, text⟩ :: rest) 0
        simp only [parenthesized?, List.map_cons, respelled] at closes ⊢
        simp only [closes, List.length_map]
        split
        · simp [List.map_dropLast]
        · rfl
      all_goals rfl

theorem call?_respelled (tokens : List Token)
    : call? (tokens.map (respelled place unread))
      = (call? tokens).map fun (function, arguments) =>
          (function, arguments.map (List.map (respelled place unread))) := by
  cases tokens with
  | nil => rfl
  | cons token rest =>
      obtain ⟨position, kind, text⟩ := token
      cases kind
      case name =>
        simp only [call?, List.map_cons, respelled, parenthesized?_respelled]
        cases parenthesized? rest with
        | none => rfl
        | some inner =>
            cases inner with
            | nil => rfl
            | cons token inner =>
                have cut := partition_respelled place unread (fun token => token.kind == .comma)
                  (fun _ => rfl) (token :: inner)
                simp only [List.map_cons] at cut
                simp only [Option.map_some, List.map_cons, cut, parts_respelled]
      all_goals rfl

end Token

-----------------------------------------------------------------------------------------
-- Predicates
-----------------------------------------------------------------------------------------

theorem Literal.ofTokens?_respelled (tokens : List Token)
    : ofTokens? (tokens.map (Token.respelled place unread)) = ofTokens? tokens := by
  rcases tokens with - | ⟨⟨position, kind, text⟩, - | ⟨other, rest⟩⟩
  · rfl
  · cases kind <;> rfl
  · cases kind <;> rfl

namespace Predicate

theorem atom?_respelled (tokens : List Token)
    : atom? (tokens.map (Token.respelled place unread)) = atom? tokens := by
  rcases tokens with - | ⟨⟨position, kind, text⟩, - | ⟨⟨_, second, _⟩, - | ⟨other, rest⟩⟩⟩
  · rfl
  · cases kind <;> rfl
  · cases kind
    case atSign => cases second <;> rfl
    all_goals rfl
  · cases kind
    case atSign => cases second <;> rfl
    all_goals rfl

theorem isTextSource_respelled (tokens : List Token)
    : isTextSource (tokens.map (Token.respelled place unread)) = isTextSource tokens := by
  have call : (Token.call? (tokens.map (Token.respelled place unread)) == some ("text", []))
      = (Token.call? tokens == some ("text", [])) := by
    rw [Token.call?_respelled]
    rcases Token.call? tokens with - | ⟨function, - | ⟨argument, arguments⟩⟩ <;> rfl
  rcases tokens with - | ⟨⟨position, kind, text⟩, - | ⟨other, rest⟩⟩
  · rfl
  · cases kind
    case dot => rfl
    all_goals exact call
  · cases kind <;> exact call

theorem takesOwnText_respelled (arguments : List (List Token))
    : takesOwnText (arguments.map (List.map (Token.respelled place unread)))
      = takesOwnText arguments := by
  rcases arguments with - | ⟨source, - | ⟨other, rest⟩⟩
  · rfl
  · exact isTextSource_respelled place unread source
  · rfl

theorem textArgument_respelled (tokens : List Token)
    : textArgument (tokens.map (Token.respelled place unread)) = textArgument tokens := by
  rcases tokens with - | ⟨⟨position, kind, text⟩, - | ⟨other, rest⟩⟩
  · rfl
  · cases kind <;> rfl
  · cases kind <;> rfl

theorem integerArgument_respelled (tokens : List Token)
    : integerArgument (tokens.map (Token.respelled place unread)) = integerArgument tokens := by
  rcases tokens with - | ⟨⟨position, kind, text⟩, - | ⟨other, rest⟩⟩
  · rfl
  · cases kind <;> rfl
  · cases kind <;> rfl

theorem readTextPart_respelled (function : String) (arguments : List (List Token))
    (equality : Equality) (value : String)
    : readTextPart function (arguments.map (List.map (Token.respelled place unread))) equality value
      = readTextPart function arguments equality value := by
  -- The forms only differ in the number of arguments, which are read one by one.
  have texts (tokens) := textArgument_respelled place unread tokens
  have integers (tokens) := integerArgument_respelled place unread tokens
  rcases arguments with - | ⟨first, - | ⟨second, - | ⟨third, rest⟩⟩⟩
  · simp [readTextPart]
  · have text := texts first
    have integer := integers first
    simp only [List.map_cons, List.map_nil]
    generalize first.map (Token.respelled place unread) = moved at text integer
    unfold readTextPart
    split <;> simp_all
  · have text := texts first
    have integer := integers first
    have secondText := texts second
    have secondInteger := integers second
    simp only [List.map_cons, List.map_nil]
    generalize first.map (Token.respelled place unread) = moved at text integer
    generalize second.map (Token.respelled place unread) = moved' at secondText secondInteger
    unfold readTextPart
    split <;> simp_all
  · simp [readTextPart]

theorem readCallComparison_respelled (function : String) (arguments : List (List Token))
    (relation : Relation) (literal : Literal)
    : readCallComparison function (arguments.map (List.map (Token.respelled place unread))) relation
        literal
      = readCallComparison function arguments relation literal := by
  unfold readCallComparison
  simp only [List.map_eq_nil_iff, List.length_map, takesOwnText_respelled]
  split
  · rfl
  split
  · rename_i single
    obtain ⟨argument, rfl⟩ := List.length_eq_one_iff.mp single.2
    rcases argument with - | ⟨⟨position, kind, text⟩, - | ⟨other, tokens⟩⟩
    · rfl
    · cases kind <;> rfl
    · cases kind <;> rfl
  split
  · rfl
  split
  · rfl
  cases arguments with
  | nil => rfl
  | cons source others => simp only [List.map_cons, isTextSource_respelled, readTextPart_respelled]

theorem isAttribute_respelled (tokens : List Token)
    : isAttribute (tokens.map (Token.respelled place unread)) = isAttribute tokens := by
  rw [isAttribute, List.map_map]
  rfl

theorem readSubject_respelled (subject : List Token) (relation : Relation) (literal : Literal)
    : readSubject (subject.map (Token.respelled place unread)) relation literal
      = readSubject subject relation literal := by
  cases named : isAttribute subject with
  | true =>
      obtain ⟨start, sign, position, name, rfl⟩ := eq_of_isAttribute named
      rfl
  | false =>
      have named' := (isAttribute_respelled place unread subject).trans named
      rw [readSubject_other named, readSubject_other named', readSource, readSource,
        isTextSource_respelled, Token.call?_respelled]
      congr 1
      cases Token.call? subject with
      | none => rfl
      | some call =>
          exact readCallComparison_respelled place unread call.fst call.snd relation literal

theorem readComparison_respelled (left : List Token) {sign : Token}
    (readable : sign.kind ≠ .error) (right : List Token)
    : readComparison (left.map (Token.respelled place unread)) (sign.respelled place unread)
        (right.map (Token.respelled place unread))
      = readComparison left sign right := by
  simp only [readComparison, List.map_eq_nil_iff, Token.respelled_text place unread readable,
    Literal.ofTokens?_respelled, readSubject_respelled]

theorem readStringTest_respelled (test : StringTest) (subject value : List Token)
    : readStringTest test (subject.map (Token.respelled place unread))
        (value.map (Token.respelled place unread))
      = readStringTest test subject value := by
  cases named : isAttribute subject with
  | true =>
      obtain ⟨start, sign, position, name, rfl⟩ := eq_of_isAttribute named
      simp only [List.map_cons, List.map_nil, readStringTest, Token.respelled,
        textArgument_respelled]
  | false =>
      have named' := (isAttribute_respelled place unread subject).trans named
      rw [readStringTest_other named, readStringTest_other named', isTextSource_respelled,
        textArgument_respelled]

theorem separates_respelled (connective : Connective) (token : Token)
    : separates connective (token.respelled place unread) = separates connective token := by
  obtain ⟨position, kind, text⟩ := token
  cases kind <;> rfl

theorem others_respelled (partition : Partition)
    : (partition.map (Token.respelled place unread)).others = [] ↔ partition.others = [] := by
  simp [Partition.map]

/-- The operands of a connective are read alike if that holds of each of them. -/
theorem readOperands_respelled (connective : Connective) (partition : Partition)
    (parts
      : ∀ part ∈ partition.parts, read (part.map (Token.respelled place unread)) = read part)
    : readOperands connective (partition.map (Token.respelled place unread))
      = readOperands connective partition := by
  have empty : (partition.parts.map (List.map (Token.respelled place unread))).any List.isEmpty
      = partition.parts.any List.isEmpty := by
    rw [List.any_map]
    congr 1
    funext part
    cases part <;> rfl
  simp only [readOperands, Token.parts_respelled, empty, List.mapM_map]
  rw [mapM_congr (f := read ∘ List.map (Token.respelled place unread)) parts]

/-- A call is read alike if that holds of its arguments. -/
theorem readCall_respelled (function : String) (arguments : List (List Token))
    (same
      : ∀ argument ∈ arguments,
          read (argument.map (Token.respelled place unread)) = read argument)
    : readCall function (arguments.map (List.map (Token.respelled place unread)))
      = readCall function arguments := by
  rcases arguments with - | ⟨first, - | ⟨second, - | ⟨third, rest⟩⟩⟩
  · rfl
  · have argument := same first (by simp)
    simp only [List.map_cons, List.map_nil]
    generalize first.map (Token.respelled place unread) = moved at argument
    unfold readCall
    split <;> simp_all
  · have test (test : StringTest) := readStringTest_respelled place unread test first second
    simp only [List.map_cons, List.map_nil]
    generalize first.map (Token.respelled place unread) = moved at test
    generalize second.map (Token.respelled place unread) = moved' at test
    unfold readCall
    split <;> simp_all
  · simp [readCall]

/-- Predicates are read alike however their tokens are respelled, by induction on the number of
tokens: groups and operands are shorter than what they stand in.
-/
theorem read_respelled (tokens : List Token)
    : read (tokens.map (Token.respelled place unread)) = read tokens := by
  induction length : tokens.length using Nat.strongRecOn generalizing tokens with
  | ind count ih =>
  subst length
  have operands (connective : Connective)
      (several : (Token.partition (separates connective) tokens).others ≠ [])
      : readOperands connective
          ((Token.partition (separates connective) tokens).map (Token.respelled place unread))
        = readOperands connective (Token.partition (separates connective) tokens) :=
    readOperands_respelled place unread connective _ fun part member =>
      ih part.length (Token.length_lt_of_mem_parts several member) part rfl
  have single : readOperand (tokens.map (Token.respelled place unread)) = readOperand tokens := by
    have sides := Token.partition_respelled place unread (fun token => token.kind == .relation)
      (fun _ => rfl) tokens
    have signs
        : ∀ other ∈ (Token.partition (fun token => token.kind == .relation) tokens).others,
          other.fst.kind ≠ .error := by
      intro other member same
      have relates := (Token.whole_partitionFrom 0 tokens).2 other member
      simp [same] at relates
    simp only [readOperand, atom?_respelled, Token.parenthesized?_respelled, Token.call?_respelled,
      sides]
    cases atom? tokens with
    | some => rfl
    | none =>
        cases inside : Token.parenthesized? tokens with
        | some inner =>
            have shorter := Token.length_of_parenthesized? inside
            exact ih inner.length (by omega) inner rfl
        | none =>
            simp only [Partition.map, Option.map_none]
            revert signs
            rcases (Token.partition (fun token => token.kind == .relation) tokens).others with
              - | ⟨⟨sign, right⟩, - | ⟨other, others⟩⟩ <;> intro signs
            · cases called : Token.call? tokens with
              | none => rfl
              | some call =>
                  refine readCall_respelled place unread call.1 call.2 fun argument member => ?_
                  have shorter := Token.length_of_call? called member
                  exact ih argument.length (by omega) argument rfl
            · exact readComparison_respelled place unread _ (signs _ List.mem_cons_self) right
            · rfl
  simp only [read_eq, Token.partition_respelled place unread _ (separates_respelled place unread _),
    ne_eq, others_respelled, single]
  split
  · exact operands .or ‹_›
  · split
    · exact operands .and ‹_›
    · rfl

/-- Predicates are read alike at all positions. -/
theorem read_placed (tokens : List Token)
    : read (tokens.map (Token.placed place)) = read tokens := by
  rw [← Token.respelled_eq_placed]
  exact read_respelled place Token.text tokens

end Predicate

-----------------------------------------------------------------------------------------
-- Steps
-----------------------------------------------------------------------------------------

namespace Predicates

/-- What was read without the extents of skipped predicates: the known ones, the number of the
others and the tokens that are left.
-/
def outline (reading : Predicates × List Token) : List Predicate × Nat × List Token :=
  (reading.fst.known, reading.fst.ignored.length, reading.snd)

/-- The predicates behind a step are read alike, by induction on the groups. -/
theorem read_respelled (tokens : List Token)
    : (read (tokens.map (Token.respelled place unread))).map outline
      = (read tokens).map fun reading =>
          outline (reading.fst, reading.snd.map (Token.respelled place unread)) := by
  induction length : tokens.length using Nat.strongRecOn generalizing tokens with
  | ind count ih =>
  subst length
  by_cases other : tokens.head?.map Token.kind ≠ some .openBracket
  · have moved
        : (tokens.map (Token.respelled place unread)).head?.map Token.kind ≠ some .openBracket := by
      cases tokens with
      | nil => simp
      | cons token rest => simpa using other
    rw [read_other other, read_other moved]
    rfl
  rcases tokens with - | ⟨⟨start, kind, text⟩, rest⟩
  · simp at other
  obtain rfl : kind = .openBracket := by simpa using other
  have closes := Token.closing?_respelled place unread (⟨start, .openBracket, text⟩ :: rest) 0
  simp only [List.map_cons, Token.respelled] at closes ⊢
  cases found : Token.closing? (⟨start, .openBracket, text⟩ :: rest) 0 with
  | none =>
      rw [read_unclosed found, read_unclosed (closes.trans found)]
      rfl
  | some closing =>
      have behind := ih (rest.drop closing).length
        (by simp only [List.length_drop, List.length_cons]; omega) (rest.drop closing) rfl
      rw [read_group found, read_group (closes.trans found), ← List.map_take,
        ← List.map_drop, ← List.map_drop]
      rw [Predicate.read_respelled]
      rcases Predicate.read (rest.take (closing - 1)) with (_ | fault) | predicate
      · revert behind
        cases read ((rest.drop closing).map (Token.respelled place unread)) <;>
          cases read (rest.drop closing) <;>
          simp [Except.map, outline, skip]
      · rfl
      · revert behind
        cases read ((rest.drop closing).map (Token.respelled place unread)) <;>
          cases read (rest.drop closing) <;>
          simp [Except.map, outline, learn]

end Predicates

namespace Step

theorem separator?_respelled (isFirst : Bool) (tokens : List Token)
    : separator? isFirst (tokens.map (Token.respelled place unread))
      = (separator? isFirst tokens).map fun (axis, body) =>
          (axis, body.map (Token.respelled place unread)) := by
  have other
      : (if isFirst then some (Axis.child, tokens.map (Token.respelled place unread)) else none)
      = (if isFirst then some (Axis.child, tokens) else none).map
          fun (axis, body) => (axis, body.map (Token.respelled place unread)) := by
    cases isFirst <;> rfl
  rcases tokens with - | ⟨⟨start, kind, text⟩, - | ⟨⟨_, second, _⟩, rest⟩⟩
  · exact other
  · cases kind <;> first | rfl | exact other
  · cases kind
    case dot => cases second <;> first | rfl | exact other
    all_goals first | rfl | exact other

theorem axisName?_respelled (tokens : List Token)
    : axisName? (tokens.map (Token.respelled place unread))
      = (axisName? tokens).map fun (axis, body) =>
          (axis, body.map (Token.respelled place unread)) := by
  rcases tokens with - | ⟨⟨start, kind, text⟩, - | ⟨⟨_, second, _⟩, rest⟩⟩
  · rfl
  · cases kind <;> rfl
  · cases kind
    case name =>
      cases second
      case doubleColon =>
        simp only [List.map_cons, axisName?, Token.respelled]
        cases Axis.ofName? text <;> rfl
      all_goals rfl
    all_goals rfl

theorem nodeTest?_respelled (axis : Axis) (tokens : List Token)
    : nodeTest? axis (tokens.map (Token.respelled place unread))
      = (nodeTest? axis tokens).map fun (axis, test, rest) =>
          (axis, test, rest.map (Token.respelled place unread)) := by
  rcases tokens with - | ⟨⟨start, kind, text⟩, - | ⟨⟨_, second, _⟩, - | ⟨⟨_, third, _⟩, rest⟩⟩⟩
  · rfl
  · cases kind <;> rfl
  · cases kind
    case atSign => cases second <;> rfl
    case name => cases second <;> rfl
    all_goals rfl
  · cases kind
    case atSign => cases second <;> rfl
    case name =>
      cases second
      case openParen =>
        cases third
        case closeParen =>
          simp only [List.map_cons, nodeTest?, Token.respelled]
          split
          · rfl
          · split <;> rfl
        all_goals rfl
      all_goals rfl
    all_goals rfl

/-- What was read without the extents of skipped predicates. -/
def outline (reading : Reading) : Step × Nat × List Token :=
  (reading.step, reading.ignored.length, reading.rest)

theorem readGroups_respelled (axis : Axis) (test : NodeTest) (rest : List Token)
    : (readGroups axis test (rest.map (Token.respelled place unread))).map (Option.map outline)
      = (readGroups axis test rest).map (Option.map fun reading =>
          outline { reading with rest := reading.rest.map (Token.respelled place unread) }) := by
  have groups := Predicates.read_respelled place unread rest
  unfold readGroups
  split
  · rfl
  · revert groups
    cases Predicates.read (rest.map (Token.respelled place unread)) <;>
      cases Predicates.read rest <;>
      simp [Except.map, outline, Predicates.outline]

theorem readTest_respelled (suggested : Axis) (body : List Token)
    : (readTest suggested (body.map (Token.respelled place unread))).map (Option.map outline)
      = (readTest suggested body).map (Option.map fun reading =>
          outline { reading with rest := reading.rest.map (Token.respelled place unread) }) := by
  have named : (axisName? (body.map (Token.respelled place unread))).getD
        (suggested, body.map (Token.respelled place unread))
      = (((axisName? body).getD (suggested, body)).fst,
          ((axisName? body).getD (suggested, body)).snd.map (Token.respelled place unread)) := by
    rw [axisName?_respelled]
    cases axisName? body <;> rfl
  simp only [readTest, named, nodeTest?_respelled]
  rcases nodeTest? ((axisName? body).getD (suggested, body)).fst
      ((axisName? body).getD (suggested, body)).snd with - | ⟨axis, test, rest⟩
  · rfl
  · exact readGroups_respelled place unread axis test rest

/-- A step is read alike however its tokens are respelled. -/
theorem read_respelled (isFirst : Bool) (tokens : List Token)
    : (read isFirst (tokens.map (Token.respelled place unread))).map (Option.map outline)
      = (read isFirst tokens).map (Option.map fun reading =>
          outline { reading with rest := reading.rest.map (Token.respelled place unread) }) := by
  rw [read_eq, read_eq, separator?_respelled]
  rcases separator? isFirst tokens with - | ⟨suggested, body⟩
  · rfl
  · simp only [Option.map_some]
    by_cases other : ∀ token ∈ body.head?, token.kind ≠ .doubleDot ∧ token.kind ≠ .dot
    · have moved : ∀ token ∈ (body.map (Token.respelled place unread)).head?,
          token.kind ≠ .doubleDot ∧ token.kind ≠ .dot := by
        cases body with
        | nil => simp
        | cons token rest => simpa using other
      rw [readBody_other suggested other, readBody_other suggested moved]
      exact readTest_respelled place unread suggested body
    · rcases body with - | ⟨⟨start, kind, text⟩, body⟩
      · simp at other
      · cases kind <;> first | rfl | simp at other

end Step

namespace Steps

/-- What was read without the extents of skipped predicates. -/
def outline (reading : Steps) : List Step × Nat × List Token :=
  (reading.steps, reading.ignored.length, reading.rest)

/-- Steps are read alike however their tokens are respelled, by induction on the number of tokens.
-/
theorem read_respelled (isFirst : Bool) (tokens : List Token)
    : (read isFirst (tokens.map (Token.respelled place unread))).map outline
      = (read isFirst tokens).map fun reading =>
          outline { reading with rest := reading.rest.map (Token.respelled place unread) } := by
  induction length : tokens.length using Nat.strongRecOn generalizing isFirst tokens with
  | ind count ih =>
  subst length
  cases tokens with
  | nil => simp [read, Except.map, outline]
  | cons token rest =>
      have first := Step.read_respelled place unread isFirst (token :: rest)
      rw [List.map_cons] at first ⊢
      rw [read_cons, read_cons]
      revert first
      rcases found : Step.read isFirst (token :: rest) with fault | - | reading <;>
        rcases Step.read isFirst
            (token.respelled place unread :: rest.map (Token.respelled place unread))
          with fault' | - | reading' <;>
        simp [Except.map, Step.outline, outline]
      intro step ignored left
      have shorter := Step.length_read found
      have behind := ih reading.rest.length shorter false reading.rest rfl
      rw [left]
      revert behind
      cases read false (reading.rest.map (Token.respelled place unread)) <;>
        cases read false reading.rest <;>
        simp [Except.map, outline]
      intro steps others remaining
      exact ⟨⟨step, steps⟩, by omega, remaining⟩

/-- Steps are read alike at all positions. -/
theorem read_placed (isFirst : Bool) (tokens : List Token)
    : (read isFirst (tokens.map (Token.placed place))).map outline
      = (read isFirst tokens).map fun reading =>
          outline { reading with rest := reading.rest.map (Token.placed place) } := by
  rw [← Token.respelled_eq_placed]
  exact read_respelled place Token.text isFirst tokens

end Steps

end HtmlQuery.XPath
