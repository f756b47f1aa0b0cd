import HtmlQuery.Text.Blank
import HtmlQuery.Text.Word
import HtmlQuery.XPath.Token

/-!
Cutting an expression into tokens. White space separates tokens and is dropped; from the first
character on that begins no token, all that is left becomes one token of the kind `error`.
-/

namespace HtmlQuery.XPath

open HtmlQuery.Text

namespace Token

/-- Whether a character may stand within a name. -/
def isNamePart (c : Char) : Bool :=
  isWord c || c == '.' || c == '-'

/--
How many characters there are up to the delimiter that closes a string, including that one. A
backslash covers the character behind it, but it can't cover a line feed.
-/
def closingDistance? (delimiter : Char) : List Char → Option Nat
  | [] => none
  | [c] => if c = delimiter then some 1 else none
  | c :: d :: rest =>
      if c = delimiter then some 1
      else if c = '\\' then
        if d = '\n' then none else (closingDistance? delimiter rest).map (· + 2)
      else (closingDistance? delimiter (d :: rest)).map (· + 1)

/-- How many characters continue a number: more digits and perhaps a point with digits behind it. -/
def numberExtent (rest : List Char) : Nat :=
  let whole := (rest.takeWhile isDigit).length
  match rest.drop whole with
  | '.' :: d :: more =>
      if isDigit d then whole + 2 + (more.takeWhile isDigit).length else whole
  | _ => whole

/-- How many characters continue a name, which may have a second part behind a single colon. -/
def nameExtent (rest : List Char) : Nat :=
  let first := (rest.takeWhile isNamePart).length
  match rest.drop first with
  | ':' :: d :: more =>
      if isNameStart d then first + 2 + (more.takeWhile isNamePart).length else first
  | _ => first

/-- The kind of a symbol and how many characters belong to it besides its first one. -/
def symbol? (c : Char) (next : Option Char) : Option (TokenKind × Nat) :=
  match c with
  | '/' => some (if next = some '/' then (.doubleSlash, 1) else (.slash, 0))
  | '*' => some (.asterisk, 0)
  | ':' => if next = some ':' then some (.doubleColon, 1) else none
  | '.' => some (if next = some '.' then (.doubleDot, 1) else (.dot, 0))
  | '[' => some (.openBracket, 0)
  | ']' => some (.closeBracket, 0)
  | '@' => some (.atSign, 0)
  | '(' => some (.openParen, 0)
  | ')' => some (.closeParen, 0)
  | ',' => some (.comma, 0)
  | '|' => some (.bar, 0)
  | '!' => if next = some '=' then some (.relation, 1) else none
  | '<' => some (.relation, if next = some '=' then 1 else 0)
  | '>' => some (.relation, if next = some '=' then 1 else 0)
  | '=' => some (.relation, 0)
  | _ => none

/-- The kind of the token that a character begins and how many of those behind it belong to it. -/
def front (c : Char) (rest : List Char) : TokenKind × Nat :=
  if c = '"' || c = '\'' then
    match closingDistance? c rest with
    | some distance => (.string, distance)
    | none => (.error, rest.length)
  else if isDigit c then (.number, numberExtent rest)
  else if isNameStart c then (.name, nameExtent rest)
  else (symbol? c rest.head?).getD (.error, rest.length)

/-- The tokens of the characters from a position on. -/
def scanFrom (position : Nat) : List Char → List Token
  | [] => []
  | c :: rest =>
      if isBlank c then scanFrom (position + 1) rest
      else
        let (kind, extent) := front c rest
        ⟨position, kind, String.ofList (c :: rest.take extent)⟩
          :: scanFrom (position + 1 + extent) (rest.drop extent)
  termination_by text => text.length
  decreasing_by all_goals simp only [List.length_drop, List.length_cons]; omega

/-- The tokens of an expression. -/
def scan (expression : String) : List Token :=
  scanFrom 0 expression.toList

end Token

end HtmlQuery.XPath
