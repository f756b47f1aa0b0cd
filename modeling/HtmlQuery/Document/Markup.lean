import HtmlQuery.Document.Basic
import HtmlQuery.Text.Case

/-!
Writing branches as markup, without indentation. Void elements have neither content nor end tag,
text in scripts and style sheets is written as it is, in other places `&`, `<` and `>` are escaped.
A branch is written in one go, and whatever looks like a declaration of the content type is taken out
of the result; what is inside of it is put together from its leading text and the markup of each of
its children.
-/

namespace HtmlQuery

namespace Markup

/-- The elements that have no content and no end tag. -/
def voidTags : List String :=
  ["area", "base", "basefont", "br", "col", "frame", "hr", "img", "input", "isindex", "link",
    "meta", "param"]

/-- The elements whose text is not escaped. -/
def rawTags : List String :=
  ["script", "style"]

/-- The attributes that are on when they are present, whatever their value. -/
def switchAttributes : List String :=
  ["checked", "compact", "declare", "defer", "disabled", "ismap", "multiple", "nohref", "noresize",
    "noshade", "nowrap", "readonly", "selected"]

/-- Whether a name is in a list, in any letter case. -/
def isListed (names : List String) (name : String) : Bool :=
  names.contains name.toLower

/-- A text with references in place of the characters that begin tags or references. -/
def escape (text : String) : String :=
  String.ofList <| text.toList.flatMap fun c =>
    if c = '&' then "&amp;".toList
    else if c = '<' then "&lt;".toList
    else if c = '>' then "&gt;".toList
    else [c]

/-- Two upper-case hexadecimal digits behind a percent sign. -/
def percent (byte : UInt8) : List Char :=
  let digit (n : Nat) : Char := Char.ofNat (if n < 10 then 48 + n else 55 + n)
  ['%', digit (byte.toNat / 16), digit (byte.toNat % 16)]

/-- An address without white space in front, whose other characters are all printable ASCII. -/
def escapeAddress (value : String) : String :=
  let body := value.toList.dropWhile fun c => c == ' ' || c == '\t' || c == '\n' || c == '\r'
  String.ofList <| body.flatMap fun c =>
    if 0x21 ≤ c.toNat && c.toNat ≤ 0x7E then [c]
    else (String.singleton c).toUTF8.toList.flatMap percent

/-- Whether an attribute of an element holds an address. -/
def holdsAddress (tag name : String) : Bool :=
  isListed ["href", "action", "src"] name || (isListed ["name"] name && isListed ["a"] tag)

/-- A value between double quotes, or between single ones if only double quotes are in it. -/
def quote (value : String) : String :=
  let escaped := escape value
  if !value.contains '"' then "\"" ++ escaped ++ "\""
  else if !value.contains '\'' then "'" ++ escaped ++ "'"
  else "\"" ++ escaped.replace "\"" "&quot;" ++ "\""

/-- An attribute behind the blank that separates it from what stands before it. -/
def assignment (tag : String) (entry : Attribute) : String :=
  if entry.bare || isListed switchAttributes entry.name then " " ++ entry.name
  else
    let value := if holdsAddress tag entry.name then escapeAddress entry.value else entry.value
    " " ++ entry.name ++ "=" ++ quote value

/-- The start tag of an element. -/
def startTag (tag : String) (attributes : List Attribute) : String :=
  "<" ++ tag ++ String.join (attributes.map (assignment tag)) ++ ">"

/-- The end tag of an element. -/
def endTag (tag : String) : String :=
  "</" ++ tag ++ ">"

/-- A text as it is written within the branch that holds it. -/
def text (kind : Kind) (text : String) : String :=
  match kind with
  | .element tag _ => if isListed rawTags tag then text else escape text
  | _ => escape text

/-- The leading text of a branch as it stands in front of the markup of its children. -/
def leading (kind : Kind) (lead : String) : String :=
  match kind with
  | .element tag _ => if rawTags.contains tag.lowered then lead else escape lead
  | _ => escape lead

/-- How a declaration of the content type begins. -/
def declarationStart : List Char :=
  "<meta http-equiv=\"Content-Type\"".toList

/-- Whether a text begins with a declaration of the content type, which goes on to the next `>`. -/
def beginsDeclaration (text : List Char) : Bool :=
  declarationStart.isPrefixOf text && text.contains '>'

/-- The characters outside of declarations, given whether one is open in front of the text. -/
def outside : Bool → List Char → List Char
  | _, [] => []
  | true, c :: rest => outside (c != '>') rest
  | false, c :: rest =>
      match beginsDeclaration (c :: rest) with
      | true => outside true rest
      | false => c :: outside false rest

/-- Markup without the declarations in it, wherever they stand. -/
def withoutDeclarations (markup : String) : String :=
  String.ofList (outside false markup.toList)

end Markup

namespace Branch

mutual

/-- A branch as it is written, declarations included, without the text behind it. -/
def written : Branch → String
  | mk _ kind lead children _ =>
      match kind with
      | .element tag attributes =>
          if Markup.isListed Markup.voidTags tag then Markup.startTag tag attributes
          else
            Markup.startTag tag attributes ++ Markup.text kind lead ++ writtenAmong kind children
              ++ Markup.endTag tag
      | .comment text => "<!--" ++ text ++ "-->"
      | .instruction target text => "<?" ++ target ++ " " ++ text ++ ">"

/-- Some branches below a parent of the given kind as they are written, with the texts behind them.
-/
def writtenAmong (parent : Kind) : List Branch → String
  | [] => ""
  | branch :: rest =>
      written branch ++ Markup.text parent branch.tail ++ writtenAmong parent rest

end

/-- The markup of a branch without the text behind it. -/
def outerMarkup (branch : Branch) : String :=
  Markup.withoutDeclarations branch.written

/-- The markup of a branch below a parent of the given kind, with the text behind the branch. -/
def markupWithTail (parent : Kind) (branch : Branch) : String :=
  Markup.withoutDeclarations (branch.written ++ Markup.text parent branch.tail)

/-- The markup of all that is below a branch, one child after the other. -/
def innerMarkup (branch : Branch) : String :=
  Markup.leading branch.kind branch.lead
    ++ String.join (branch.children.map (markupWithTail branch.kind))

end Branch

namespace Document

/-- The body element of a complete document, looked for among the root's children. -/
def body? (document : Document) : Option Branch :=
  document.top.children.find? fun branch =>
    match branch.kind with
    | .element tag _ => tag == "body"
    | _ => false

/-- The markup within a node: for a complete document the content of its body. -/
def innerMarkup (document : Document) : NodeRef → String
  | .document =>
      if document.isFragment then document.top.innerMarkup
      else
        match document.body? with
        | some body => body.innerMarkup
        | none => document.top.outerMarkup
  | .element id => ((document.branch? id).map Branch.innerMarkup).getD ""
  | .text _ => ""

/-- The markup of a node. -/
def outerMarkup (document : Document) : NodeRef → String
  | .document =>
      if document.isFragment then document.top.innerMarkup else document.top.outerMarkup
  | .element id => ((document.branch? id).map Branch.outerMarkup).getD ""
  | .text _ => ""

end Document

end HtmlQuery
