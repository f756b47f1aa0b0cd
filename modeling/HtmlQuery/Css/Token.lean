/-!
The tokens of selectors. Comments leave no token, so blanks around one are two tokens. A string that
is never closed or runs over the end of its line ends the tokens with a broken one.
-/

namespace HtmlQuery.Css

/-- A piece of a selector; escapes in names and strings are resolved. -/
inductive Token where
  | ident (name : String)
  | hash (name : String)
  | string (value : String)
  | number (digits : String)
  | blank
  | symbol (c : Char)
  | broken
  deriving DecidableEq, Repr

/-- Whether a character is white space between tokens. -/
def isSpace (c : Char) : Bool :=
  c == ' ' || c == '\t' || c == '\r' || c == '\n' || c.toNat == 0x0C

/-- Whether a character is a hexadecimal digit. -/
def isHex (c : Char) : Bool :=
  c.isDigit || ('a' ≤ c && c ≤ 'f') || ('A' ≤ c && c ≤ 'F')

/-- Whether a character ends a line. -/
def isLineEnd (c : Char) : Bool :=
  c == '\n' || c == '\r' || c.toNat == 0x0C

/-- How many characters at the front of a text are one white space or one line end. -/
def spaceExtent : List Char → Nat
  | '\r' :: '\n' :: _ => 2
  | c :: _ => if isSpace c then 1 else 0
  | [] => 0

/-- The hexadecimal digits of an escape: up to six. -/
def escapeDigits (text : List Char) : List Char :=
  (text.take 6).takeWhile isHex

/-- How many characters belong to an escape behind its backslash, if there is an escape at all. -/
def escapeExtent? (rest : List Char) : Option Nat :=
  let digits := escapeDigits rest
  if digits ≠ [] then some (digits.length + spaceExtent (rest.drop digits.length))
  else
    match rest with
    | [] => none
    | c :: _ => if isLineEnd c then none else some 1

/-- Whether a character starts a name without being escaped. -/
def isNameStart (c : Char) : Bool :=
  c.isAlpha || c == '_' || 0x80 ≤ c.toNat

/-- Whether a character may stand in a name without being escaped. -/
def isNamePart (c : Char) : Bool :=
  isNameStart c || c.isDigit || c == '-'

/-- How many characters at the front of a text are a row of name characters and escapes. -/
def nameExtent : List Char → Nat
  | [] => 0
  | c :: rest =>
      if c = '\\' then
        match escapeExtent? rest with
        | none => 0
        | some extent => 1 + extent + nameExtent (rest.drop extent)
      else if isNamePart c then 1 + nameExtent rest
      else 0
  termination_by text => text.length
  decreasing_by all_goals simp only [List.length_drop, List.length_cons]; omega

/-- Whether a name can start at the front of a text. -/
def startsName : List Char → Bool
  | [] => false
  | c :: rest => if c = '\\' then (escapeExtent? rest).isSome else isNameStart c

/-- How many characters at the front of a text are an identifier. -/
def identExtent (text : List Char) : Nat :=
  match text with
  | '-' :: rest => if startsName rest then 1 + nameExtent rest else 0
  | _ => if startsName text then nameExtent text else 0

/-- The value of a hexadecimal digit. -/
def hexValue (c : Char) : Nat :=
  if c.isDigit then c.toNat - 48 else if 'a' ≤ c then c.toNat - 87 else c.toNat - 55

/-- The character with a code point; beyond the last one stands the replacement character. -/
def charAt (point : Nat) : Char :=
  if 0x10FFFF < point then Char.ofNat 0xFFFD else Char.ofNat point

/-- A text in which every escape by code point is resolved. -/
def resolvePoints : List Char → List Char
  | [] => []
  | c :: rest =>
      let digits := escapeDigits rest
      if c = '\\' ∧ digits ≠ [] then
        charAt (digits.foldl (fun value digit => value * 16 + hexValue digit) 0)
          :: resolvePoints (rest.drop (digits.length + spaceExtent (rest.drop digits.length)))
      else c :: resolvePoints rest
  termination_by text => text.length
  decreasing_by all_goals simp only [List.length_drop, List.length_cons]; omega

/-- A text in which every backslash that covers another character is left out. -/
def resolveCovers : List Char → List Char
  | [] => []
  | [c] => [c]
  | c :: d :: rest =>
      if c = '\\' ∧ d ≠ '\n' then d :: resolveCovers rest else c :: resolveCovers (d :: rest)

/-- A text without the backslashes in front of line ends and these line ends. -/
def dropContinuations : List Char → List Char
  | '\\' :: '\r' :: '\n' :: rest => dropContinuations rest
  | c :: d :: rest =>
      if c = '\\' ∧ isLineEnd d then dropContinuations rest
      else c :: dropContinuations (d :: rest)
  | text => text

/-- The name or value that a text with escapes stands for. -/
def resolve (text : List Char) : String :=
  String.ofList (resolveCovers (resolvePoints text))

/-- How many characters a backslash in a string covers: a line end or an escape. -/
def coverExtent? (rest : List Char) : Option Nat :=
  match rest with
  | '\r' :: '\n' :: _ => some 2
  | c :: _ => if isLineEnd c then some 1 else escapeExtent? rest
  | [] => none

/-- How many characters at the front of a text belong to a string that the quote closes. -/
def stringExtent (quote : Char) : List Char → Nat
  | [] => 0
  | c :: rest =>
      if c = '\\' then
        match coverExtent? rest with
        | none => 0
        | some extent => 1 + extent + stringExtent quote (rest.drop extent)
      else if c = quote ∨ isLineEnd c then 0
      else 1 + stringExtent quote rest
  termination_by text => text.length
  decreasing_by all_goals simp only [List.length_drop, List.length_cons]; omega

/-- How many characters at the front of a text are a number without sign. -/
def unsignedExtent (text : List Char) : Nat :=
  let whole := (text.takeWhile Char.isDigit).length
  match text.drop whole with
  | '.' :: rest =>
      let fraction := (rest.takeWhile Char.isDigit).length
      if fraction = 0 then whole else whole + 1 + fraction
  | _ => whole

/-- How many characters at the front of a text are a number. -/
def numberExtent (text : List Char) : Nat :=
  match text with
  | c :: rest =>
      if c = '+' ∨ c = '-' then
        let extent := unsignedExtent rest
        if extent = 0 then 0 else extent + 1
      else unsignedExtent text
  | [] => 0

/-- How many characters of a comment stand behind its opening, its closing included. -/
def commentExtent : List Char → Nat
  | [] => 0
  | '*' :: '/' :: _ => 2
  | _ :: rest => 1 + commentExtent rest

/-- A name token for some characters, the first of which are left out. -/
def named (make : String → Token) (skipped extent : Nat) (text : List Char) : Token :=
  make (resolve ((text.take extent).drop skipped))

namespace Token

/--
What stands at the front of a text that begins with a character: a token unless it's a comment, and
how many characters it takes besides the first one.
-/
def front (c : Char) (rest : List Char) : Option Token × Nat :=
  let text := c :: rest
  if isSpace c then (some blank, (rest.takeWhile isSpace).length)
  else if 0 < identExtent text then
    (some (named ident 0 (identExtent text) text), identExtent text - 1)
  else if c = '#' ∧ 0 < nameExtent rest then
    (some (named hash 1 (1 + nameExtent rest) text), nameExtent rest)
  else if c = '"' ∨ c = '\'' then
    let extent := stringExtent c rest
    if rest[extent]? = some c then
      (some (string (resolve (dropContinuations (rest.take extent)))), extent + 1)
    else (some broken, rest.length)
  else if 0 < numberExtent text then
    (some (number (String.ofList (text.take (numberExtent text)))), numberExtent text - 1)
  else if c = '/' ∧ rest.head? = some '*' then (none, 1 + commentExtent (rest.drop 1))
  else (some (symbol c), 0)

/-- The tokens of some characters. -/
def scanFrom : List Char → List Token
  | [] => []
  | c :: rest =>
      let (token, extent) := front c rest
      token.toList ++ scanFrom (rest.drop extent)
  termination_by text => text.length
  decreasing_by all_goals simp only [List.length_drop, List.length_cons]; omega

/-- The tokens of a selector. -/
def scan (selector : String) : List Token :=
  scanFrom selector.toList

end Token

end HtmlQuery.Css
