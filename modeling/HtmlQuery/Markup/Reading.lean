import HtmlQuery.Json.Basic
import HtmlQuery.Markup.Construction
import HtmlQuery.Markup.Encoding
import HtmlQuery.Text.Blank
import HtmlQuery.Text.Word

/-!
Reading markup as a document. What begins with a doctype or one of the tags `html`, `head` and `body`
is a complete document, everything else is a fragment; white space and comments in front don't count.
-/

namespace HtmlQuery.Markup

open HtmlQuery.Text

/-- What can be passed as markup: a text, bytes that spell one, or another value. -/
inductive Source where
  | text (text : String)
  | bytes (bytes : List UInt8)
  | value (value : Json)

/-- The name of the kind of a source. -/
def Source.kindName : Source → String
  | text _ => "str"
  | bytes _ => "bytes"
  | value json => json.kindName

/-- How markup is read. -/
structure Options where
  /-- The name of the encoding of bytes; without one they are UTF-8. -/
  encoding : Option String
  removeBlankText : Bool
  removeComments : Bool
  removeInstructions : Bool
  deriving DecidableEq, Repr

/-- Comments and processing instructions are left out, blank texts are kept. -/
def Options.standard : Options where
  encoding := none
  removeBlankText := false
  removeComments := true
  removeInstructions := true

/-- Why something can't be read as a document. -/
inductive Refusal where
  | undecodable
  | noMarkup (kind : String)
  | blank
  | noContent
  deriving DecidableEq, Repr

/-- How a refusal is reported. -/
def Refusal.message : Refusal → String
  | undecodable => "Couldn't decode the input:"
  | noMarkup kind => "Expected markup as string, got " ++ kind ++ "."
  | blank => "The input is empty."
  | noContent => "Document is empty"

/-- Whether a text starts with a tag that makes it a complete document. -/
def opensDocument : List Char → Bool
  | '<' :: rest =>
      ["!doctype", "html", "head", "body"].any fun name =>
        startsWithName name rest && !((rest.drop name.length).head?.any isWord)
  | _ => false

/-- Whether behind the end of some comment a complete document begins. -/
def opensBehindComment : List Char → Bool
  | [] => false
  | c :: rest =>
      match c, rest with
      | '-', '-' :: '>' :: behind =>
          opensDocument (trimStart behind) || opensBehindComment rest
      | _, _ => opensBehindComment rest

/-- Whether a text is a complete document. -/
def isComplete (text : List Char) : Bool :=
  match trimStart text with
  | '<' :: '!' :: '-' :: '-' :: rest => opensBehindComment rest
  | body => opensDocument body

/-- The text of a source. -/
def Source.text? (source : Source) (encoding : Option String) : Except Refusal String :=
  match source with
  | text markup => .ok markup
  | value (.string markup) => .ok markup
  | value json => .error (.noMarkup (json.kindName))
  | bytes code =>
      let name := match encoding with
        | some name => if name = "" then "utf-8" else name
        | none => "utf-8"
      match (Encoding.ofName? name).bind fun encoding => encoding.decode? code with
      | some markup => .ok markup
      | none => .error .undecodable

/-- The texts at the front of some contents. -/
def leadOf (contents : List Content) : String :=
  String.join (contents.map fun content =>
    match content with
    | .text text => text
    | _ => "")

/-- Whether content is a text. -/
def isText : Content → Bool
  | .text _ => true
  | _ => false

/-- Contents without leading texts if these are white space alone. -/
def dropBlankLead (contents : List Content) : List Content :=
  let lead := contents.takeWhile isText
  if (leadOf lead).trimmed = "" then contents.drop lead.length else contents

/-- The contents of the first body among some contents. -/
def bodyOf (contents : List Content) : List Content :=
  (contents.findSome? fun content =>
    match content with
    | .element "body" _ children => some children
    | _ => none).getD []

/-- The complete document that markup describes. -/
def readComplete (keeping : Keeping) (text : String) : Except Refusal Document :=
  match Construction.build? keeping (Token.scan text) with
  | some (.element tag attributes children) => .ok (.complete tag attributes children)
  | _ => .error .noContent

/-- The fragment that markup describes. -/
def readFragment (keeping : Keeping) (text : String) : Document :=
  match Construction.build? keeping (Token.scan ("<html><body>" ++ text ++ "</body></html>")) with
  | some (.element _ _ children) => .fragment (dropBlankLead (bodyOf children))
  | _ => .empty

/-- The document that a source describes. -/
def read (options : Options) (source : Source) : Except Refusal Document := do
  let text ← source.text? options.encoding
  if text.trimmed = "" then .error .blank
  else
    let keeping : Keeping := ⟨!options.removeComments, !options.removeBlankText⟩
    if isComplete text.toList then readComplete keeping text
    else .ok (readFragment keeping text)

end HtmlQuery.Markup
