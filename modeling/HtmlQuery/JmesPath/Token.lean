import HtmlQuery.Json.Reader
import HtmlQuery.Text.Blank

/-!
The tokens of queries. A backslash covers the character behind it in everything that is quoted; what
stands between backquotes is JSON or, if it is none, a text without quotes.
-/

namespace HtmlQuery.JmesPath

/-- A piece of a query. -/
inductive Token where
  | name (name : String) (isQuoted : Bool)
  | literal (value : Json)
  | number (value : Int)
  | dot
  | star
  | comma
  | colon
  | current
  | openParen
  | closeParen
  | openBrace
  | closeBrace
  | openBracket
  | closeBracket
  | filter
  | flatten
  | or
  | pipe
  | and
  | reference
  | not
  | less
  | lessOrEqual
  | greater
  | greaterOrEqual
  | equal
  | unequal

namespace Token

/-- The mark around literals. -/
def backquote : Char :=
  Char.ofNat 96

/-- What stands in front of an uncovered closing mark, and how many characters that takes with it. -/
def quoted? (mark : Char) : List Char → Option (List Char × Nat)
  | [] => none
  | [c] => if c = mark then some ([], 1) else none
  | c :: d :: rest =>
      if c = mark then some ([], 1)
      else if c = '\\' then
        (quoted? mark rest).map fun (body, extent) => (c :: d :: body, extent + 2)
      else (quoted? mark (d :: rest)).map fun (body, extent) => (c :: body, extent + 1)

/-- A text in which the backslash in front of a mark is left out. -/
def uncover (mark : Char) : List Char → List Char
  | [] => []
  | [c] => [c]
  | c :: d :: rest =>
      if c = '\\' ∧ d = mark then mark :: uncover mark rest else c :: uncover mark (d :: rest)

/-- The value of a literal. -/
def literalValue? (body : List Char) : Option Json :=
  let lexeme := uncover backquote body
  (Json.read? (String.ofList lexeme)).or
    (Json.read? (String.ofList ('"' :: Text.trimStart lexeme ++ ['"'])))

/-- The name between double quotes. -/
def quotedName? (body : List Char) : Option String :=
  match Json.read? (String.ofList ('"' :: body ++ ['"'])) with
  | some (.string found) => some found
  | _ => none

/-- Whether a character may start a name without quotes. -/
def isNameStart (c : Char) : Bool :=
  c.isAlpha || c == '_'

/-- Whether a character may stand in a name without quotes. -/
def isNamePart (c : Char) : Bool :=
  c.isAlphanum || c == '_'

/-- The token of a symbol, and how many characters it takes besides the first one. -/
def symbol? (c : Char) (next : Option Char) : Option (Token × Nat) :=
  let double (second : Char) (long short : Token) : Option (Token × Nat) :=
    some (if next = some second then (long, 1) else (short, 0))
  match c with
  | '.' => some (dot, 0)
  | '*' => some (star, 0)
  | ',' => some (comma, 0)
  | ':' => some (colon, 0)
  | '@' => some (current, 0)
  | '(' => some (openParen, 0)
  | ')' => some (closeParen, 0)
  | ']' => some (closeBracket, 0)
  | '|' => double '|' or pipe
  | '&' => double '&' and reference
  | '<' => double '=' lessOrEqual less
  | '>' => double '=' greaterOrEqual greater
  | '!' => double '=' unequal not
  | '=' => if next = some '=' then some (equal, 1) else none
  | '[' =>
      if next = some ']' then some (flatten, 1)
      else if next = some '?' then some (filter, 1)
      else some (openBracket, 0)
  | _ =>
      if c = '\x7b' then some (openBrace, 0)
      else if c = '\x7d' then some (closeBrace, 0)
      else none

/-- The token that begins with a character, and how many characters it takes besides that. -/
def front? (c : Char) (rest : List Char) : Option (Token × Nat) :=
  if isNameStart c then
    let part := rest.takeWhile isNamePart
    some (name (String.ofList (c :: part)) false, part.length)
  else if c.isDigit then
    let digits := rest.takeWhile Char.isDigit
    some (number (Json.decimalValue (c :: digits)), digits.length)
  else if c = '-' then
    let digits := rest.takeWhile Char.isDigit
    if digits = [] then none else some (number (-Json.decimalValue digits), digits.length)
  else if c = '"' then do
    let (body, extent) ← quoted? c rest
    let found ← quotedName? body
    some (name found true, extent)
  else if c = '\'' then
    (quoted? c rest).map fun (body, extent) =>
      (literal (.string (String.ofList (uncover c body))), extent)
  else if c = backquote then do
    let (body, extent) ← quoted? c rest
    let value ← literalValue? body
    some (literal value, extent)
  else symbol? c rest.head?

/-- The tokens of some characters. -/
def scanFrom? : List Char → Option (List Token)
  | [] => some []
  | c :: rest =>
      if c == ' ' || c == '\t' || c == '\n' || c == '\r' then scanFrom? rest
      else
        match front? c rest with
        | none => none
        | some (token, extent) => (scanFrom? (rest.drop extent)).map (token :: ·)
  termination_by text => text.length
  decreasing_by all_goals simp only [List.length_drop, List.length_cons]; omega

/-- The tokens of a query. -/
def scan? (query : String) : Option (List Token) :=
  scanFrom? query.toList

end Token

end HtmlQuery.JmesPath
