import HtmlQuery.Document.Basic
import HtmlQuery.Text.Case

/-!
Looking up attributes: a name is tried as it is written, then in lower case. A name may have a
namespace in braces in front of it, but no attribute of a document is in one. Texts that can't be
names are refused.
-/

namespace HtmlQuery

/-- Whether a character can occur in no document. -/
def Document.isForbidden (c : Char) : Bool :=
  (c.toNat < 0x20 && c != '\t' && c != '\n' && c != '\r') || c.toNat == 0xFFFE || c.toNat == 0xFFFF

namespace Attribute

/-- Why a text is refused as a name. -/
inductive Refusal where
  /-- It holds a character that can occur in no document. -/
  | forbiddenCharacter
  /-- The namespace that it begins with has no end. -/
  | openNamespace
  /-- Nothing is left for the name. -/
  | empty
  deriving DecidableEq, Repr

/-- How a refusal is reported. -/
def Refusal.message : Refusal → String
  | forbiddenCharacter =>
      "All strings must be XML compatible: Unicode or ASCII, no NULL bytes or control characters"
  | openNamespace => "Invalid tag name"
  | empty => "Empty tag name"

/-- The namespace in front of a name, which ends at the first closing brace, and the name itself. -/
def readName (text : List Char) : Except Refusal (List Char × List Char) :=
  if text.any Document.isForbidden then .error .forbiddenCharacter
  else
    match text with
    | [] => .error .empty
    | '\x7b' :: rest =>
        match rest.dropWhile (· != '\x7d') with
        | [] => .error .openNamespace
        | [_] => .error .empty
        | _ :: name => .ok (rest.takeWhile (· != '\x7d'), name)
    | name => .ok ([], name)

/-- The value of the attribute with exactly this name. -/
def valueOf? (attributes : List Attribute) (name : String) : Option String :=
  (attributes.find? fun entry => entry.name == name).map value

/-- The value of the attribute that a text names, unless that is refused. -/
def get (attributes : List Attribute) (text : String) : Except Refusal (Option String) := do
  let (space, name) ← readName text.toList
  return if space = [] then valueOf? attributes (String.ofList name) else none

/-- The value of an attribute; a name that isn't found is tried in lower case. -/
def lookup (attributes : List Attribute) (name : String) : Except Refusal (Option String) := do
  match ← get attributes name with
  | some value => return some value
  | none => get attributes name.lowered

/-- The value of an attribute under a name of a path expression, which is never refused. -/
def lookup? (attributes : List Attribute) (name : String) : Option String :=
  (valueOf? attributes name).or (valueOf? attributes name.lowered)

end Attribute

end HtmlQuery
