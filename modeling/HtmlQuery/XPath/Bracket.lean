import HtmlQuery.XPath.Token

/-!
Brackets and parentheses in rows of tokens: the token that closes a group, and the parts between
separators that stand outside of all groups.
-/

namespace HtmlQuery.XPath

namespace Token

/--
How many tokens there are before the one that closes the outermost of the open groups, given the
kinds that opened them, innermost first. A closer of the wrong kind ends the search.
-/
def closingOffset? (openers : List TokenKind) : List Token → Option Nat
  | [] => none
  | token :: rest =>
      if token.kind.isOpener then (closingOffset? (token.kind :: openers) rest).map (· + 1)
      else if token.kind.isCloser then
        match openers with
        | [] => none
        | opener :: outer =>
            if opener.closer? = some token.kind then
              if outer = [] then some 0 else (closingOffset? outer rest).map (· + 1)
            else none
      else (closingOffset? openers rest).map (· + 1)

/-- The index of the token that closes the group which the token at an index opens. -/
def closing? (tokens : List Token) (start : Nat) : Option Nat :=
  (closingOffset? [] (tokens.drop start)).map (start + ·)

end Token

/-- A row of tokens cut at separators: the first part, then each separator with the part behind it.
-/
structure Partition where
  first : List Token
  others : List (Token × List Token)
  deriving DecidableEq, Repr

namespace Partition

/-- The parts between the separators. -/
def parts (partition : Partition) : List (List Token) :=
  partition.first :: partition.others.map Prod.snd

/-- A partition whose first part has one more token at its front. -/
def push (token : Token) (partition : Partition) : Partition :=
  { partition with first := token :: partition.first }

/-- A partition that begins with an empty part and a separator. -/
def separate (separator : Token) (partition : Partition) : Partition :=
  { first := [], others := (separator, partition.first) :: partition.others }

end Partition

namespace Token

/-- Cuts tokens at the separators outside of all groups, given how many groups are open. -/
def partitionFrom (isSeparator : Token → Bool) (depth : Int) : List Token → Partition
  | [] => ⟨[], []⟩
  | token :: rest =>
      if token.kind.isOpener then (partitionFrom isSeparator (depth + 1) rest).push token
      else if token.kind.isCloser then (partitionFrom isSeparator (depth - 1) rest).push token
      else if depth = 0 ∧ isSeparator token then
        (partitionFrom isSeparator depth rest).separate token
      else (partitionFrom isSeparator depth rest).push token

/-- Cuts tokens at the separators outside of all groups. -/
def partition (isSeparator : Token → Bool) (tokens : List Token) : Partition :=
  partitionFrom isSeparator 0 tokens

/-- What stands between a parenthesis at the front and its partner at the very end. -/
def parenthesized? (tokens : List Token) : Option (List Token) :=
  match tokens with
  | ⟨_, .openParen, _⟩ :: rest =>
      if closing? tokens 0 = some rest.length then some rest.dropLast else none
  | _ => none

/-- The name and the arguments of a function call, if that is all the tokens are. -/
def call? (tokens : List Token) : Option (String × List (List Token)) :=
  match tokens with
  | ⟨_, .name, function⟩ :: arguments =>
      match parenthesized? arguments with
      | some [] => some (function, [])
      | some inner => some (function, (partition (fun token => token.kind == .comma) inner).parts)
      | none => none
  | _ => none

end Token

end HtmlQuery.XPath
