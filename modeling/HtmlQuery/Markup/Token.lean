import HtmlQuery.Document.Markup
import HtmlQuery.Markup.Reference

/-!
The tokens of markup: start tags, end tags, texts and comments. Names are in lower case, references
are resolved, line ends are line feeds. Declarations leave no token. Behind the start tag of some
elements everything up to the end tag is text.
-/

namespace HtmlQuery.Markup

/-- A piece of markup; a start tag can be its own end. -/
inductive Token where
  | opening (tag : String) (attributes : List Attribute) (isClosed : Bool)
  | closing (tag : String)
  | text (text : String)
  | comment (text : String)
  deriving DecidableEq, Repr

/-- Whether a character is white space in markup. -/
def isSpace (c : Char) : Bool :=
  c == ' ' || c == '\t' || c == '\n' || c == '\r' || c.toNat == 0x0C

/-- A text whose line ends all are line feeds. -/
def unifyLineEnds : List Char → List Char
  | [] => []
  | '\r' :: '\n' :: rest => '\n' :: unifyLineEnds rest
  | c :: rest => (if c = '\r' then '\n' else c) :: unifyLineEnds rest

/-- A name in lower case. -/
def nameOf (characters : List Char) : String :=
  String.ofList (characters.map Char.toLower)

/-- Whether a character belongs to the name of a tag. -/
def isTagPart (c : Char) : Bool :=
  !isSpace c && c != '/' && c != '>'

/-- Whether a character belongs to the name of an attribute. -/
def isAttributePart (c : Char) : Bool :=
  isTagPart c && c != '='

/-- A value and how many characters it takes, behind the equals sign and white space. -/
def valueAt (text : List Char) : List Char × Nat :=
  match text with
  | c :: rest =>
      if c = '"' ∨ c = '\'' then
        let value := rest.takeWhile (· != c)
        (value, value.length + 2)
      else
        let value := text.takeWhile fun d => !isSpace d && d != '>'
        (value, value.length)
  | [] => ([], 0)

/-- The attribute whose name starts with a character, and how many more characters it takes. -/
def attributeAt (c : Char) (rest : List Char) : Attribute × Nat :=
  let part := rest.takeWhile isAttributePart
  let name := nameOf (c :: part)
  let behind := rest.drop part.length
  let gap := behind.takeWhile isSpace
  match behind.drop gap.length with
  | '=' :: more =>
      let indent := more.takeWhile isSpace
      let (value, extent) := valueAt (more.drop indent.length)
      (⟨name, String.ofList (resolve true value), false⟩,
        part.length + gap.length + 1 + indent.length + extent)
  | _ => (⟨name, if isListed switchAttributes name then name else "", true⟩, part.length)

/-- What stands in a tag behind its name, up to its end. -/
structure TagRest where
  attributes : List Attribute
  isClosed : Bool
  extent : Nat

/-- The attributes of a tag and its end; a tag without end is none. -/
def tagRest? : List Char → Option TagRest
  | [] => none
  | c :: rest =>
      if c = '>' then some ⟨[], false, 1⟩
      else if c = '/' ∧ rest.head? = some '>' then some ⟨[], true, 2⟩
      else if c = '/' ∨ isSpace c then
        (tagRest? rest).map fun tag => { tag with extent := tag.extent + 1 }
      else
        let (entry, extent) := attributeAt c rest
        (tagRest? (rest.drop extent)).map fun tag =>
          { tag with attributes := entry :: tag.attributes, extent := tag.extent + 1 + extent }
  termination_by text => text.length
  decreasing_by all_goals simp only [List.length_drop, List.length_cons]; omega

/-- The first one of all attributes with the same name. -/
def firstOfEach (attributes : List Attribute) : List Attribute :=
  attributes.foldl (fun kept entry =>
    if kept.any fun other => other.name == entry.name then kept else kept ++ [entry]) []

/-- Whether a text starts with a name in any letter case. -/
def startsWithName (name : String) (text : List Char) : Bool :=
  nameOf (text.take name.length) == name

/-- How many characters stand in front of the end tag of an element, or all. -/
def rawExtent (tag : String) : List Char → Nat
  | [] => 0
  | c :: rest =>
      let isEnd :=
        match c, rest with
        | '<', '/' :: more =>
            startsWithName tag more && ((more.drop tag.length).head?.any fun d => !isTagPart d)
        | _, _ => false
      if isEnd then 0 else 1 + rawExtent tag rest

/-- The elements whose content is text in which nothing is resolved. -/
def verbatimTags : List String :=
  ["script", "style", "iframe", "noembed", "noframes", "xmp"]

/-- The elements whose content is text with references. -/
def plainTags : List String :=
  ["textarea", "title"]

/-- The tokens that a start tag leads to, and how many characters they take behind the bracket. -/
def openingAt? (rest : List Char) : Option (List Token × Nat) :=
  let name := rest.takeWhile isTagPart
  let tag := nameOf name
  (tagRest? (rest.drop name.length)).map fun found =>
    let opening := Token.opening tag (firstOfEach found.attributes) found.isClosed
    let extent := name.length + found.extent
    let content := rest.drop extent
    let raw := content.take (rawExtent tag content)
    if found.isClosed then ([opening], extent)
    else if verbatimTags.contains tag then
      ([opening, .text (String.ofList raw)], extent + raw.length)
    else if plainTags.contains tag then
      ([opening, .text (String.ofList (resolve false raw))], extent + raw.length)
    else ([opening], extent)

/-- The end tag behind a bracket and a slash, and how many characters it takes behind them. -/
def closingAt? (rest : List Char) : Option (Token × Nat) :=
  let name := rest.takeWhile isTagPart
  (tagRest? (rest.drop name.length)).map fun found =>
    (.closing (nameOf name), name.length + found.extent)

/-- How many characters a comment has before its end, and how many the end takes. -/
def commentExtent : List Char → Nat × Nat
  | [] => (0, 0)
  | '-' :: '-' :: '>' :: _ => (0, 3)
  | '-' :: '-' :: '!' :: '>' :: _ => (0, 4)
  | _ :: rest =>
      let (extent, stop) := commentExtent rest
      (extent + 1, stop)

/-- The comment behind its opening, and how many characters it takes. -/
def commentAt (text : List Char) : Token × Nat :=
  match text with
  | '>' :: _ => (.comment "", 1)
  | '-' :: '>' :: _ => (.comment "", 2)
  | _ =>
      let (extent, stop) := commentExtent text
      (.comment (String.ofList (text.take extent)), extent + stop)

/-- What goes up to the next closing bracket, as a comment, and how many characters it takes. -/
def bogusAt (text : List Char) : Token × Nat :=
  let body := text.takeWhile (· != '>')
  (.comment (String.ofList body), body.length + 1)

/-- What an exclamation mark behind a bracket begins, and how many characters that takes. -/
def declarationAt (rest : List Char) : List Token × Nat :=
  match rest with
  | '-' :: '-' :: more =>
      let (token, extent) := commentAt more
      ([token], extent + 2)
  | _ =>
      let (token, extent) := bogusAt rest
      (if startsWithName "doctype" rest then [] else [token], extent)

/-- Whether what follows a bracket makes it the beginning of a tag, comment or declaration. -/
def opensMarkup (rest : List Char) : Bool :=
  match rest with
  | '/' :: more => !more.isEmpty
  | c :: _ => c.isAlpha || c == '!' || c == '?'
  | [] => false

/-- How many characters of text stand here. -/
def textExtent : List Char → Nat
  | [] => 0
  | c :: rest => if c = '<' && opensMarkup rest then 0 else 1 + textExtent rest

namespace Token

/-- The tokens behind an opening bracket, and how many characters they take. -/
def behindBracket (rest : List Char) : List Token × Nat :=
  match rest with
  | '/' :: '>' :: _ => ([], 2)
  | '/' :: more =>
      if (more.head?.any Char.isAlpha) then
        match closingAt? more with
        | some (token, extent) => ([token], extent + 1)
        | none => ([], rest.length)
      else
        let (token, extent) := bogusAt more
        ([token], extent + 1)
  | '!' :: more =>
      let (tokens, extent) := declarationAt more
      (tokens, extent + 1)
  | '?' :: _ =>
      let (token, extent) := bogusAt rest
      ([token], extent)
  | _ => (openingAt? rest).getD ([], rest.length)

/-- The tokens that begin with a character, and how many characters they take besides it. -/
def front (c : Char) (rest : List Char) : List Token × Nat :=
  if c = '<' && opensMarkup rest then behindBracket rest
  else
    let extent := textExtent rest
    ([.text (String.ofList (resolve false (c :: rest.take extent)))], extent)

/-- The tokens of some characters. -/
def scanFrom : List Char → List Token
  | [] => []
  | c :: rest =>
      let (tokens, extent) := front c rest
      tokens ++ scanFrom (rest.drop extent)
  termination_by text => text.length
  decreasing_by all_goals simp only [List.length_drop, List.length_cons]; omega

/-- The tokens of markup. -/
def scan (markup : String) : List Token :=
  scanFrom (unifyLineEnds markup.toList)

end Token

end HtmlQuery.Markup
