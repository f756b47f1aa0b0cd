import HtmlQuery.Pattern.Basic

/-!
Reading patterns. A pattern is cut into pieces first: single characters, and characters that a
backslash covers. Options that are set within a pattern hold for the rest of the group they stand in,
or everywhere if they stand at the very front.
-/

namespace HtmlQuery.Pattern

open HtmlQuery.Text

/-- Why a text is no pattern. -/
inductive Fault where
  | invalid
  /-- A repetition is demanded more often than can be counted. -/
  | excessiveRepetition
  /-- Two options that exclude each other hold everywhere. -/
  | conflictingAlphabets
  deriving DecidableEq, Repr

/-- How faults are reported. -/
def Fault.message : Fault → String
  | invalid => "invalid pattern"
  | excessiveRepetition => "the repetition number is too large"
  | conflictingAlphabets => "ASCII and UNICODE flags are incompatible"

/-- How a pattern is to be understood. -/
structure Options where
  ignoreCase : Bool
  multiline : Bool
  dotAll : Bool
  verbose : Bool
  ascii : Bool
  deriving DecidableEq, Repr

namespace Options

/-- No option is set. -/
def plain : Options :=
  ⟨false, false, false, false, false⟩

/-- How letter case counts. -/
def folding (options : Options) : Folding :=
  if !options.ignoreCase then .exact else if options.ascii then .ascii else .full

/-- Sets the option of a letter. -/
def set (options : Options) (letter : Char) (value : Bool) : Options :=
  match letter with
  | 'i' => { options with ignoreCase := value }
  | 'm' => { options with multiline := value }
  | 's' => { options with dotAll := value }
  | 'x' => { options with verbose := value }
  | 'a' => { options with ascii := value }
  | 'u' => { options with ascii := !value }
  | _ => options

end Options

/-- A piece of a pattern's text. -/
inductive Piece where
  | plain (c : Char)
  | covered (c : Char)
  deriving DecidableEq, Repr

/-- The pieces of a text, unless a backslash stands at its end. -/
def pieces? : List Char → Option (List Piece)
  | [] => some []
  | [c] => if c = '\\' then none else some [.plain c]
  | c :: d :: rest =>
      if c = '\\' then (pieces? rest).map (.covered d :: ·)
      else (pieces? (d :: rest)).map (.plain c :: ·)

/-- What is known while a pattern is read. -/
structure Reading where
  rest : List Piece
  options : Options
  /-- The number of the next group. -/
  nextGroup : Nat
  names : List (String × Nat)
  /-- The widths of the groups that have been closed. -/
  closed : List (Nat × Width)
  /-- Within a look behind, the number of its first group. -/
  behindLimit : Option Nat
  /-- Groups that conditions refer to. -/
  demanded : List Nat
  /-- A look behind has a body of no fixed width. -/
  hasLooseBehind : Bool
  /-- Both alphabets have been chosen for the whole pattern. -/
  hasAscii : Bool
  hasUnicode : Bool

/-- A computation that reads some pieces. -/
abbrev Reader := StateT Reading (Except Fault)

namespace Reader

/-- Gives up. -/
def fail {α : Type} : Reader α :=
  throw .invalid

/-- The next piece, which stays. -/
def peek? : Reader (Option Piece) := do
  return (← get).rest.head?

/-- The next piece, which is taken. -/
def take? : Reader (Option Piece) := do
  let reading ← get
  set { reading with rest := reading.rest.drop 1 }
  return reading.rest.head?

/-- Takes a certain character, if it stands here. -/
def accept (c : Char) : Reader Bool := do
  if (← peek?) = some (.plain c) then
    let _ ← take?
    return true
  else return false

/-- Demands a certain character. -/
def expect (c : Char) : Reader Unit := do
  if !(← accept c) then fail

/-- The plain characters at the front that pass a test, as many as wanted. -/
def frontWhile (test : Char → Bool) : Nat → List Piece → List Char
  | 0, _ => []
  | wanted + 1, .plain c :: rest => if test c then c :: frontWhile test wanted rest else []
  | _ + 1, _ => []

/-- Takes plain characters that pass a test, as many as wanted. -/
def takeWhile (test : Char → Bool) (wanted : Nat) : Reader (List Char) := do
  let reading ← get
  let front := frontWhile test wanted reading.rest
  set { reading with rest := reading.rest.drop front.length }
  return front

/-- The pieces up to the first one with a certain plain character, and those behind that. -/
def cutAt? (closing : Char) : List Piece → Option (List Piece × List Piece)
  | [] => none
  | piece :: rest =>
      if piece = .plain closing then some ([], rest)
      else (cutAt? closing rest).map fun (before, behind) => (piece :: before, behind)

/-- A name up to a closing character: a word of any script that starts with no digit. -/
def takeName (closing : Char) : Reader String := do
  let reading ← get
  match cutAt? closing reading.rest with
  | none => fail
  | some (before, behind) =>
      set { reading with rest := behind }
      let name := before.filterMap fun piece =>
        match piece with
        | .plain c => some c
        | .covered _ => none
      if name.length = before.length then return String.ofList name else fail

/-- Demands that a name is one for groups. -/
def checkName (name : String) : Reader Unit :=
  match name.toList with
  | [] => fail
  | c :: rest => if isNameStart c && rest.all isWord then pure () else fail

/-- Demands that a group may be referred to within a look behind. -/
def checkBehind (index : Nat) : Reader Unit := do
  let reading ← get
  match reading.behindLimit with
  | none => pure ()
  | some limit =>
      if (reading.closed.lookup index).isNone || limit ≤ index then fail

/-- The text of a group that has been closed. -/
def reference (index : Nat) : Reader Pattern := do
  let reading ← get
  match reading.closed.lookup index with
  | none => fail
  | some width =>
      checkBehind index
      return .again index reading.options.folding width

end Reader

open Reader

/-- Whether a character is an octal digit. -/
def isOctal (c : Char) : Bool :=
  '0' ≤ c && c ≤ '7'

/-- Whether a character is a hexadecimal digit. -/
def isHexDigit (c : Char) : Bool :=
  c.isDigit || ('a' ≤ c && c ≤ 'f') || ('A' ≤ c && c ≤ 'F')

/-- The number that digits denote. -/
def valueOf (base : Nat) (digits : List Char) : Nat :=
  digits.foldl (fun value c =>
    value * base + (if c.isDigit then c.toNat - 48 else c.toLower.toNat - 87)) 0

/-- The category that a covered letter stands for, and whether it is negated. -/
def category? : Char → Option (Category × Bool)
  | 'd' => some (.digit, false)
  | 'D' => some (.digit, true)
  | 's' => some (.space, false)
  | 'S' => some (.space, true)
  | 'w' => some (.word, false)
  | 'W' => some (.word, true)
  | _ => none

/-- The code point of the control character that a covered letter stands for. -/
def control? : Char → Option Nat
  | 'a' => some 7
  | 'f' => some 12
  | 'n' => some 10
  | 'r' => some 13
  | 't' => some 9
  | 'v' => some 11
  | '\\' => some 92
  | _ => none

/-- The code point that hexadecimal digits behind a covered letter denote, as many as it demands. -/
def takeHex (count : Nat) : Reader Nat := do
  let digits ← takeWhile isHexDigit count
  if digits.length = count ∧ valueOf 16 digits ≤ 0x10FFFF then return valueOf 16 digits else fail

/-- The code point of a covered character that isn't a digit. -/
def takePoint (c : Char) : Reader Nat :=
  match c with
  | 'x' => takeHex 2
  | 'u' => takeHex 4
  | 'U' => takeHex 8
  | _ => if c.isAlpha then fail else return c.toNat

/-- A set that holds a single code point. -/
def pointSet (options : Options) (isNegated : Bool) (value : Nat) : Pattern :=
  .single ⟨isNegated, [.point value], options.folding.forCharacter value⟩

/-- The pattern of a covered digit: a code point in octal digits or a reference to a group. -/
def readCoveredDigit (c : Char) : Reader Pattern := do
  let options := (← get).options
  if c = '0' then
    let digits ← takeWhile isOctal 2
    return pointSet options false (valueOf 8 digits)
  else
    match ← takeWhile Char.isDigit 1 with
    | [d] =>
        let third ← if isOctal c && isOctal d then takeWhile isOctal 1 else pure []
        match third with
        | [e] =>
            let value := valueOf 8 [c, d, e]
            if 0o377 < value then fail else return pointSet options false value
        | _ => reference (valueOf 10 [c, d])
    | _ => reference (valueOf 10 [c])

/-- The pattern of a covered character. -/
def readCovered (c : Char) : Reader Pattern := do
  let options := (← get).options
  match c, category? c, control? c with
  | 'A', _, _ => return .anchor .textStart
  | 'Z', _, _ => return .anchor .textEnd
  | 'b', _, _ => return .anchor (.wordEdge false options.ascii)
  | 'B', _, _ => return .anchor (.wordEdge true options.ascii)
  | _, some (kind, isNegated), _ =>
      return .single ⟨false, [.category kind isNegated options.ascii], options.folding⟩
  | _, _, some value => return pointSet options false value
  | _, _, _ =>
      if c.isDigit then readCoveredDigit c
      else return pointSet options false (← takePoint c)

/-- The member of a set that a covered character stands for. -/
def readCoveredMember (c : Char) : Reader Member := do
  let options := (← get).options
  match category? c, control? c with
  | some (kind, isNegated), _ => return .category kind isNegated options.ascii
  | _, some value => return .point value
  | _, _ =>
      if c = 'b' then return .point 8
      else if isOctal c then
        let value := valueOf 8 (c :: (← takeWhile isOctal 2))
        if 0o377 < value then fail else return .point value
      else if c.isDigit then fail
      else return .point (← takePoint c)

/-- The member of a set that a piece stands for. -/
def readMember : Piece → Reader Member
  | .plain c => return .point c.toNat
  | .covered c => readCoveredMember c

/-- The members of a set up to its closing bracket, which as the first character is a member. -/
def readMembers : Nat → List Member → Reader (List Member)
  | 0, _ => fail
  | fuel + 1, members => do
      match ← take? with
      | none => fail
      | some piece =>
          if piece = .plain ']' ∧ members ≠ [] then return members
          else
            let first ← readMember piece
            if ← accept '-' then
              match ← take? with
              | none => fail
              | some (.plain ']') => return members ++ [first, .point '-'.toNat]
              | some piece =>
                  match first, ← readMember piece with
                  | .point first, .point last =>
                      if last < first then fail
                      else readMembers fuel (members ++ [.range first last])
                  | _, _ => fail
            else readMembers fuel (members ++ [first])

/-- A set behind its opening bracket. -/
def readSet : Reader Pattern := do
  let isNegated ← accept '^'
  let members ← readMembers ((← get).rest.length + 1) []
  let options := (← get).options
  match members.eraseDups with
  | [.point value] => return pointSet options isNegated value
  | members => return .single ⟨isNegated, members, options.folding⟩

/-- The number from which on repetitions can't be counted. -/
def countLimit : Nat :=
  4294967295

/-- A bound in a repetition; without digits there is none. -/
def bound (digits : List Char) : Reader (Option Nat) :=
  if digits = [] then return none
  else if countLimit ≤ valueOf 10 digits then throw .excessiveRepetition
  else return some (valueOf 10 digits)

/-- The bounds in braces behind the opening one; other text in braces stands for itself. -/
def readBounds : Reader (Option (Nat × Option Nat)) := do
  let before ← get
  if before.rest.head? = some (.plain '\x7d') then return none
  else
    let lower ← takeWhile Char.isDigit before.rest.length
    let upper ← if ← accept ',' then takeWhile Char.isDigit before.rest.length else pure lower
    if ← accept '\x7d' then
      let least ← bound lower
      let most ← bound upper
      match most with
      | some most => if most < least.getD 0 then fail else return some (least.getD 0, some most)
      | none => return some (least.getD 0, none)
    else
      set before
      return none

/-- What a part of a pattern means for a repetition behind it. -/
inductive Role where
  | repeatable
  | anchor
  | repetition
  deriving DecidableEq, Repr

/-- The parts of a sequence that have been read, the last one first. -/
abbrev Parts := List (Role × Pattern)

/-- The parts one behind the other. -/
def Parts.join (parts : Parts) : Pattern :=
  match parts with
  | [] => .empty
  | (_, last) :: before => before.foldl (fun behind part => .sequence part.snd behind) last

/-- How often a repetition is tried first, which a mark behind it can tell. -/
def readGreed : Reader Greed := do
  if ← accept '?' then return .lazy
  if ← accept '+' then return .possessive
  return .greedy

/-- Repeats the last part. -/
def repeatLast (parts : Parts) (least : Nat) (most : Option Nat) : Reader Parts := do
  match parts with
  | (.repeatable, body) :: before =>
      let greed ← readGreed
      return (.repetition, .times greed least most body) :: before
  | _ => fail

/-- The part that a pattern is on its own. -/
def partOf (pattern : Pattern) : Role × Pattern :=
  match pattern with
  | .anchor _ => (.anchor, pattern)
  | _ => (.repeatable, pattern)

/-- Whether a character is skipped where blanks don't count. -/
def isSkipped (c : Char) : Bool :=
  c == ' ' || (0x09 ≤ c.toNat && c.toNat ≤ 0x0D)

/-- Whether a letter names an option. -/
def isOption (c : Char) : Bool :=
  "imsxau".contains c

/-- The pieces behind the end of the line. -/
def behindLine (pieces : List Piece) : List Piece :=
  (pieces.dropWhile (· != .plain '\n')).drop 1

/-- The letters of options up to a character that is none, and that character. -/
def readLetters : Nat → List Char → Reader (List Char × Char)
  | 0, _ => fail
  | fuel + 1, letters => do
      match ← take? with
      | some (.plain c) =>
          if isOption c then readLetters fuel (letters ++ [c]) else return (letters, c)
      | _ => fail

/-- What a parenthesis with options opens. -/
inductive Scope where
  /-- Nothing: the options hold everywhere. -/
  | everywhere (options : Options)
  /-- A group in which the options hold. -/
  | within (options : Options)

/-- Options behind an opening parenthesis and a question mark, given their first character. -/
def readOptions (first : Char) : Reader Scope := do
  let reading ← get
  let length := reading.rest.length + 1
  let (added, stop) ← if first = '-' then pure ([], '-') else readLetters length [first]
  if added.contains 'a' && added.contains 'u' then fail
  let turnedOn := added.foldl (fun options letter => options.set letter true) reading.options
  if stop = ')' then
    modify fun reading =>
      { reading with
        hasAscii := reading.hasAscii || added.contains 'a'
        hasUnicode := reading.hasUnicode || added.contains 'u' }
    return .everywhere turnedOn
  else if stop = ':' then return .within turnedOn
  else if stop = '-' then
    let (removed, stop) ← readLetters length []
    if removed = [] || stop != ':' || removed.any (fun c => c == 'a' || c == 'u' || added.contains c)
    then fail
    else return .within (removed.foldl (fun options letter => options.set letter false) turnedOn)
  else fail

/-- Opens a group, which gets the next number. -/
def openGroup (name : Option String) : Reader Nat := do
  let reading ← get
  let index := reading.nextGroup
  match name with
  | none => set { reading with nextGroup := index + 1 }
  | some name =>
      if (reading.names.lookup name).isSome then fail
      set { reading with nextGroup := index + 1, names := (name, index) :: reading.names }
  return index

/-- The number of the group that a condition refers to. -/
def conditionGroup (name : String) : Reader Nat := do
  if name.toList.all Char.isDigit && name != "" then
    let index := valueOf 10 name.toList
    if index = 0 then fail
    modify fun reading => { reading with demanded := index :: reading.demanded }
    checkBehind index
    return index
  else
    checkName name
    match (← get).names.lookup name with
    | none => fail
    | some index =>
        checkBehind index
        return index

mutual

/-- Alternatives up to a closing parenthesis or the end. -/
def readChoice (fuel : Nat) (isOuter : Bool) : Reader Pattern := do
  match fuel with
  | 0 => fail
  | fuel + 1 =>
      let first ← readSequence fuel isOuter []
      readAlternatives fuel first

/-- Further alternatives. -/
def readAlternatives (fuel : Nat) (before : Pattern) : Reader Pattern := do
  match fuel with
  | 0 => fail
  | fuel + 1 =>
      if ← accept '|' then
        let second ← readSequence fuel false []
        let rest ← readAlternatives fuel second
        return .choice before rest
      else return before

/-- A sequence up to a bar, a closing parenthesis or the end. -/
def readSequence (fuel : Nat) (isFront : Bool) (parts : Parts) : Reader Pattern := do
  match fuel with
  | 0 => fail
  | fuel + 1 =>
      let options := (← get).options
      match ← peek? with
      | none => return parts.join
      | some (.covered c) =>
          let _ ← take?
          let pattern ← readCovered c
          readSequence fuel isFront (partOf pattern :: parts)
      | some (.plain c) =>
          if c = '|' ∨ c = ')' then return parts.join
          else
            let _ ← take?
            if options.verbose && isSkipped c then readSequence fuel isFront parts
            else if options.verbose && c == '#' then
              modify fun reading => { reading with rest := behindLine reading.rest }
              readSequence fuel isFront parts
            else
              match c with
              | '[' =>
                  let set ← readSet
                  readSequence fuel isFront (partOf set :: parts)
              | '*' => readSequence fuel isFront (← repeatLast parts 0 none)
              | '+' => readSequence fuel isFront (← repeatLast parts 1 none)
              | '?' => readSequence fuel isFront (← repeatLast parts 0 (some 1))
              | '\x7b' =>
                  match ← readBounds with
                  | some (least, most) =>
                      readSequence fuel isFront (← repeatLast parts least most)
                  | none =>
                      readSequence fuel isFront (partOf (pointSet options false c.toNat) :: parts)
              | '.' => readSequence fuel isFront (partOf (.any options.dotAll) :: parts)
              | '^' =>
                  let start := if options.multiline then Anchor.lineStart else .textStart
                  readSequence fuel isFront (partOf (.anchor start) :: parts)
              | '$' =>
                  let stop := if options.multiline then Anchor.lineEnd else .lastLineEnd
                  readSequence fuel isFront (partOf (.anchor stop) :: parts)
              | '(' =>
                  let part ← readParenthesis fuel (isFront && parts.isEmpty)
                  readSequence fuel isFront (part.toList ++ parts)
              | _ => readSequence fuel isFront (partOf (pointSet options false c.toNat) :: parts)

/-- What an opening parenthesis begins; comments and options for the whole pattern are no parts. -/
def readParenthesis (fuel : Nat) (isFront : Bool) : Reader (Option (Role × Pattern)) := do
  match fuel with
  | 0 => fail
  | fuel + 1 =>
      if !(← accept '?') then
        let index ← openGroup none
        return some (← readGroup fuel index)
      else
        match ← take? with
        | some (.plain 'P') =>
            if ← accept '<' then
              let name ← takeName '>'
              checkName name
              let index ← openGroup (some name)
              return some (← readGroup fuel index)
            else if ← accept '=' then
              let name ← takeName ')'
              checkName name
              match (← get).names.lookup name with
              | none => fail
              | some index => return some (.repeatable, ← reference index)
            else fail
        | some (.plain ':') => return some (.repeatable, ← readBody fuel)
        | some (.plain '#') =>
            match cutAt? ')' (← get).rest with
            | none => fail
            | some (_, behind) =>
                modify fun reading => { reading with rest := behind }
                return none
        | some (.plain '=') =>
            return some (.repeatable, .look false false (← readBody fuel))
        | some (.plain '!') =>
            return some (.repeatable, .look false true (← readBody fuel))
        | some (.plain '<') => return some (.repeatable, ← readBehind fuel)
        | some (.plain '>') => return some (.repeatable, .atomic (← readBody fuel))
        | some (.plain '(') => return some (.repeatable, ← readConditional fuel)
        | some (.plain c) =>
            if isOption c || c == '-' then
              match ← readOptions c with
              | .everywhere options =>
                  if !isFront then fail
                  modify fun reading => { reading with options }
                  return none
              | .within options =>
                  let outer := (← get).options
                  modify fun reading => { reading with options }
                  let body ← readBody fuel
                  modify fun reading => { reading with options := outer }
                  return some (.repeatable, body)
            else fail
        | _ => fail

/-- The rest of a numbered group. -/
def readGroup (fuel : Nat) (index : Nat) : Reader (Role × Pattern) := do
  match fuel with
  | 0 => fail
  | fuel + 1 =>
      let body ← readBody fuel
      modify fun reading => { reading with closed := (index, body.width) :: reading.closed }
      return (.repeatable, .group index body)

/-- Alternatives and the closing parenthesis behind them. -/
def readBody (fuel : Nat) : Reader Pattern := do
  match fuel with
  | 0 => fail
  | fuel + 1 =>
      let body ← readChoice fuel false
      expect ')'
      return body

/-- A look behind, from its kind on. -/
def readBehind (fuel : Nat) : Reader Pattern := do
  match fuel with
  | 0 => fail
  | fuel + 1 =>
      let isNegated ←
        match ← take? with
        | some (.plain '=') => pure false
        | some (.plain '!') => pure true
        | _ => fail
      let outer := (← get).behindLimit
      if outer.isNone then
        modify fun reading => { reading with behindLimit := some reading.nextGroup }
      let body ← readChoice fuel false
      modify fun reading => { reading with behindLimit := outer }
      expect ')'
      if body.width.greatest != some body.width.least then
        modify fun reading => { reading with hasLooseBehind := true }
      return .look true isNegated body

/-- A conditional pattern, from the name of the group on. -/
def readConditional (fuel : Nat) : Reader Pattern := do
  match fuel with
  | 0 => fail
  | fuel + 1 =>
      let name ← takeName ')'
      let index ← conditionGroup name
      let yes ← readSequence fuel false []
      let no ← if ← accept '|' then readSequence fuel false [] else pure .empty
      expect ')'
      return .conditional index yes no

end

/-- A pattern with its number of groups. -/
structure Compiled where
  pattern : Pattern
  groups : Nat
  deriving Repr

/-- The pattern that a text spells under some options. -/
def read (options : Options) (text : String) : Except Fault Compiled :=
  match pieces? text.toList with
  | none => .error .invalid
  | some pieces => do
      let start : Reading :=
        { rest := pieces, options, nextGroup := 1, names := [], closed := [], behindLimit := none,
          demanded := [], hasLooseBehind := false, hasAscii := options.ascii, hasUnicode := false }
      let (pattern, reading) ← (readChoice (8 * (pieces.length + 2)) true).run start
      if reading.hasAscii && reading.hasUnicode then .error .conflictingAlphabets
      else if !reading.rest.isEmpty || reading.hasLooseBehind
          || reading.demanded.any (reading.nextGroup ≤ ·) then
        .error .invalid
      else .ok ⟨pattern, reading.nextGroup - 1⟩

end HtmlQuery.Pattern
