/-!
Documents. A branch is an element, a comment or a processing instruction with all that is below it
and the text that follows it up to its next sibling. Branches are numbered once and keep their
numbers, so nodes can be told apart while parts of the document are taken away.
-/

namespace HtmlQuery

/-- An attribute; a bare one was written without a value. -/
structure Attribute where
  name : String
  value : String
  bare : Bool
  deriving DecidableEq, Repr

/-- What a branch is. -/
inductive Kind where
  | element (tag : String) (attributes : List Attribute)
  | comment (text : String)
  | instruction (target text : String)
  deriving DecidableEq, Repr

/-- Whether a branch of this kind is an element. -/
def Kind.isElement : Kind → Bool
  | element _ _ => true
  | _ => false

/-- Markup that has not been planted in a document yet. -/
inductive Content where
  | text (text : String)
  | element (tag : String) (attributes : List Attribute) (children : List Content)
  | comment (text : String)
  | instruction (target text : String)
  deriving Inhabited

/--
A numbered piece of a document: its leading text stands before its first child, its tail behind its
own end.
-/
inductive Branch where
  | mk (id : Nat) (kind : Kind) (lead : String) (children : List Branch) (tail : String)

namespace Branch

/-- The number of a branch. -/
def id : Branch → Nat
  | mk id _ _ _ _ => id

/-- What the branch is. -/
def kind : Branch → Kind
  | mk _ kind _ _ _ => kind

/-- The text before the first child. -/
def lead : Branch → String
  | mk _ _ lead _ _ => lead

/-- The branches below, in order. -/
def children : Branch → List Branch
  | mk _ _ _ children _ => children

/-- The text behind the branch. -/
def tail : Branch → String
  | mk _ _ _ _ tail => tail

/-- The branch with another text behind it. -/
def withTail (tail : String) : Branch → Branch
  | mk id kind lead children _ => mk id kind lead children tail

mutual

/-- The branch with a number, at or below another one. -/
def find? (wanted : Nat) : Branch → Option Branch
  | mk id kind lead children tail =>
      if id = wanted then some (mk id kind lead children tail) else findAmong? wanted children

/-- The branch with a number, at or below one of several. -/
def findAmong? (wanted : Nat) : List Branch → Option Branch
  | [] => none
  | branch :: rest => (find? wanted branch).or (findAmong? wanted rest)

end

mutual

/-- The text of an element and of all elements below it; comments contribute nothing. -/
def fullText : Branch → String
  | mk _ kind lead children _ =>
      match kind with
      | .element _ _ => lead ++ fullTextAmong children
      | _ => ""

/-- The text of several branches together with the texts behind them. -/
def fullTextAmong : List Branch → String
  | [] => ""
  | branch :: rest => fullText branch ++ branch.tail ++ fullTextAmong rest

end

end Branch

/--
Numbers contents in document order, beginning at the given number. The result is the text at the
front, the branches behind it and the next free number; neighbouring texts are joined.
-/
def Content.plant (next : Nat) : List Content → String × List Branch × Nat
  | [] => ("", [], next)
  | .text run :: rest =>
      let (front, branches, next) := plant next rest
      (run ++ front, branches, next)
  | .element tag attributes children :: rest =>
      let (lead, below, afterBelow) := plant (next + 1) children
      let (tail, siblings, afterAll) := plant afterBelow rest
      ("", .mk next (.element tag attributes) lead below tail :: siblings, afterAll)
  | .comment body :: rest =>
      let (tail, siblings, afterAll) := plant (next + 1) rest
      ("", .mk next (.comment body) "" [] tail :: siblings, afterAll)
  | .instruction target body :: rest =>
      let (tail, siblings, afterAll) := plant (next + 1) rest
      ("", .mk next (.instruction target body) "" [] tail :: siblings, afterAll)

/-- The two places where an element's neighbourhood holds text. -/
inductive Slot where
  | lead (owner : Nat)
  | tail (owner : Nat)
  deriving DecidableEq, Repr

/-- The name of a node, which stays the same while the document changes. -/
inductive NodeRef where
  | document
  | element (id : Nat)
  | text (slot : Slot)
  deriving DecidableEq, Repr

/--
A document: the branch at its top, which is the root element of a complete document or the holder of
a fragment's nodes and then not a node itself, and the branches that were taken out of it.
-/
structure Document where
  top : Branch
  isFragment : Bool
  detached : List Branch

namespace Document

/-- A fragment whose top-level nodes are the given ones. -/
def fragment (nodes : List Content) : Document :=
  let (lead, branches, _) := Content.plant 1 nodes
  { top := .mk 0 (.element "div" []) lead branches "", isFragment := true, detached := [] }

/-- A complete document with the given root element. -/
def complete (tag : String) (attributes : List Attribute) (children : List Content) : Document :=
  let (lead, branches, _) := Content.plant 1 children
  { top := .mk 0 (.element tag attributes) lead branches "", isFragment := false, detached := [] }

/-- The fragment without any nodes. -/
def empty : Document :=
  fragment []

/-- All branches that ever belonged to the document and are not below another one. -/
def branches (document : Document) : List Branch :=
  document.top :: document.detached

/-- The branch with a number, whether it is still attached or not. -/
def branch? (document : Document) (id : Nat) : Option Branch :=
  Branch.findAmong? id document.branches

/-- The text that a slot holds, empty if there is none. -/
def content (document : Document) : Slot → String
  | .lead owner => ((document.branch? owner).map Branch.lead).getD ""
  | .tail owner => ((document.branch? owner).map Branch.tail).getD ""

/-- The document's root element, which only a complete one has. -/
def root? (document : Document) : Option NodeRef :=
  if document.isFragment then none else some (.element document.top.id)

/--
Whether a node still belongs to the document's tree. A text node does as long as its slot holds any
text.
-/
def isAttached (document : Document) : NodeRef → Bool
  | .document => true
  | .element id => (document.top.find? id).isSome
  | .text (.lead owner) =>
      match document.top.find? owner with
      | some branch => branch.lead != ""
      | none => false
  | .text (.tail owner) =>
      match Branch.findAmong? owner document.top.children with
      | some branch => branch.tail != ""
      | none => false

/-- The concatenated contents of all text nodes within a node. -/
def fullText (document : Document) : NodeRef → String
  | .document => document.top.fullText
  | .element id => ((document.branch? id).map Branch.fullText).getD ""
  | .text slot => document.content slot

end Document

end HtmlQuery
