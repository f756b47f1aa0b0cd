/-!
The tokens of path expressions. A token knows where it begins, of what kind it is and which
characters it consists of.
-/

namespace HtmlQuery.XPath

/-- The kinds of tokens; an `error` is the rest of an expression that can't be read. -/
inductive TokenKind where
  | string
  | number
  | name
  | doubleSlash
  | slash
  | asterisk
  | doubleColon
  | doubleDot
  | dot
  | openBracket
  | closeBracket
  | atSign
  | openParen
  | closeParen
  | comma
  | bar
  | relation
  | error
  deriving DecidableEq, Repr

namespace TokenKind

/-- The kind that closes what a bracket or a parenthesis opens. -/
def closer? : TokenKind → Option TokenKind
  | openBracket => some closeBracket
  | openParen => some closeParen
  | _ => none

/-- Whether tokens of this kind open a group. -/
def isOpener (kind : TokenKind) : Bool :=
  kind.closer?.isSome

/-- Whether tokens of this kind close a group. -/
def isCloser : TokenKind → Bool
  | closeBracket => true
  | closeParen => true
  | _ => false

end TokenKind

/-- A piece of an expression. -/
structure Token where
  position : Nat
  kind : TokenKind
  text : String
  deriving DecidableEq, Repr

namespace Token

/-- Whether the token is the given word. -/
def isKeyword (word : String) (token : Token) : Bool :=
  token.kind == .name && token.text == word

/-- A text in which each backslash is dropped in favour of the character behind it. -/
def unescape : List Char → List Char
  | [] => []
  | [c] => [c]
  | c :: d :: rest =>
      if c = '\\' && d != '\n' then d :: unescape rest else c :: unescape (d :: rest)

/-- The text that a string literal stands for: without delimiters and escapes. -/
def unquote (literal : String) : String :=
  String.ofList (unescape literal.toList.tail.dropLast)

end Token

end HtmlQuery.XPath
