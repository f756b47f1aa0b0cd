import HtmlQuery.Document.Basic
import HtmlQuery.Markup.Nesting
import HtmlQuery.Markup.Token

/-!
Building a tree from tokens. Open elements are kept on a stack; the elements `html`, `head` and `body`
are supplied where they are missing. What stands behind the end of `html` is left out.
-/

namespace HtmlQuery.Markup

/-- What is kept while markup is read. -/
structure Keeping where
  comments : Bool
  /-- Texts between elements that are nothing but white space. -/
  blanks : Bool
  deriving DecidableEq, Repr

/-- An element whose end hasn't been reached, with what it holds so far, the last part first. -/
structure OpenElement where
  tag : String
  attributes : List Attribute
  held : List Content

/-- An unfinished tree: the open elements, the innermost first, or the root if that is complete. -/
structure Construction where
  stack : List OpenElement
  root : Option Content
  hasHead : Bool
  hasBody : Bool
  /-- How many misplaced start tags wait for their end tags. -/
  misplaced : Nat

namespace Construction

/-- Nothing has been built yet. -/
def start : Construction :=
  ⟨[], none, false, false, 0⟩

/-- The tags of the open elements, the innermost first. -/
def tags (construction : Construction) : List String :=
  construction.stack.map OpenElement.tag

/-- Adds content to the innermost element; without an open element it is left out. -/
def add (construction : Construction) (content : Content) : Construction :=
  match construction.stack with
  | [] => construction
  | innermost :: outer =>
      { construction with stack := { innermost with held := content :: innermost.held } :: outer }

/-- Opens an element. -/
def push (construction : Construction) (tag : String) (attributes : List Attribute)
    : Construction :=
  { construction with
    stack := ⟨tag, attributes, []⟩ :: construction.stack
    hasHead := construction.hasHead || tag == "head" || tag == "body"
    hasBody := construction.hasBody || tag == "body" }

/-- Ends the innermost element. -/
def pop (construction : Construction) : Construction :=
  match construction.stack with
  | [] => construction
  | innermost :: outer =>
      let element := Content.element innermost.tag innermost.attributes innermost.held.reverse
      match outer with
      | [] => { construction with stack := [], root := some element }
      | _ => { construction with stack := outer }.add element

/-- Ends the innermost elements, as many as demanded. -/
def popTimes : Nat → Construction → Construction
  | 0, construction => construction
  | count + 1, construction => popTimes count construction.pop

/-- Ends the innermost elements that a start tag doesn't leave open. -/
def makeRoom (construction : Construction) (tag : String) : Construction :=
  popTimes (construction.tags.takeWhile (ends tag)).length construction

/-- Opens the elements around a tag that are missing. -/
def supply (construction : Construction) (tag : String) : Construction :=
  if tag = "html" then construction
  else
    let rooted :=
      if construction.stack.isEmpty then construction.push "html" [] else construction
    if tag = "body" ∨ tag = "head" then rooted
    else if rooted.stack.length ≤ 1
        ∧ ["script", "style", "meta", "link", "title", "base"].contains tag then
      if rooted.hasHead then rooted else rooted.push "head" []
    else if ["noframes", "frame", "frameset"].contains tag || rooted.hasBody
        || rooted.tags.contains "head" then rooted
    else rooted.push "body" []

/-- Attributes with those of another tag that have new names. -/
def mergeAttributes (kept others : List Attribute) : List Attribute :=
  firstOfEach (kept ++ others)

/-- Adds attributes to the outermost element. -/
def addToRoot (construction : Construction) (attributes : List Attribute) : Construction :=
  match construction.stack.reverse with
  | [] => construction
  | outermost :: inner =>
      let merged :=
        { outermost with attributes := mergeAttributes outermost.attributes attributes }
      { construction with stack := (merged :: inner).reverse }

/-- Takes a start tag. -/
def takeStart (construction : Construction) (tag : String) (attributes : List Attribute)
    (isClosed : Bool)
    : Construction :=
  let ready := (construction.makeRoom tag).supply tag
  if tag = "html" ∧ !ready.stack.isEmpty then
    { ready.addToRoot attributes with misplaced := ready.misplaced + 1 }
  else if tag = "head" ∧ ready.stack.length != 1 ∨ tag = "body" ∧ ready.tags.contains "body" then
    { ready with misplaced := ready.misplaced + 1 }
  else
    let opened := ready.push tag attributes
    if isClosed || isListed voidTags tag then opened.pop else opened

/-- Takes an end tag. -/
def takeEnd (construction : Construction) (tag : String) : Construction :=
  if 0 < construction.misplaced ∧ ["html", "head", "body"].contains tag then
    { construction with misplaced := construction.misplaced - 1 }
  else popTimes (endedCount tag construction.tags) construction

/-- Whether a text of white space alone is left out where blanks aren't kept. -/
def isDispensable (construction : Construction) : Bool :=
  match construction.stack with
  | [] => true
  | innermost :: _ =>
      let isComment : Content → Bool
        | .comment _ => true
        | _ => false
      match innermost.held.dropWhile isComment with
      | [] => !flowingTags.contains innermost.tag
      | .text _ :: _ => false
      | .element tag _ _ :: _ => !flowingTags.contains tag
      | _ => true

/-- Whether texts can't stand in the innermost element: none is open, or `html` or `head`. -/
def refusesText (construction : Construction) : Bool :=
  match construction.tags with
  | [] => true
  | tag :: _ => tag == "html" || tag == "head"

/-- Takes a text that starts with no white space or stands where texts belong. -/
def addText (keeping : Keeping) (construction : Construction) (text : List Char) : Construction :=
  if text = [] then construction
  else
    let ready :=
      if !construction.refusesText then construction
      else if construction.tags.head? = some "head" then (construction.makeRoom "p").supply "p"
      else construction.supply "p"
    if !keeping.blanks && text.all isSpace && ready.isDispensable then ready
    else ready.add (.text (String.ofList text))

/-- Takes a text; where none belongs, the white space at its front stays where it is. -/
def takeText (keeping : Keeping) (construction : Construction) (text : List Char) : Construction :=
  if construction.refusesText then
    let front := text.takeWhile isSpace
    let kept := if keeping.blanks && !front.isEmpty then construction.add (.text (String.ofList front))
      else construction
    kept.addText keeping (text.dropWhile isSpace)
  else construction.addText keeping text

/-- Takes a token; a complete tree takes none. -/
def take (keeping : Keeping) (construction : Construction) (token : Token) : Construction :=
  if construction.root.isSome then construction
  else
    match token with
    | .opening tag attributes isClosed => construction.takeStart tag attributes isClosed
    | .closing tag => construction.takeEnd tag
    | .text text => construction.takeText keeping text.toList
    | .comment text =>
        if keeping.comments then construction.add (.comment text) else construction

/-- The root of the tree that tokens describe, if they hold any content. -/
def build? (keeping : Keeping) (tokens : List Token) : Option Content :=
  let built := tokens.foldl (take keeping) start
  (popTimes built.stack.length built).root

end Construction

end HtmlQuery.Markup
