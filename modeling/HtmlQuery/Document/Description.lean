import HtmlQuery.Document.Node
import HtmlQuery.Json.Writer
import HtmlQuery.Text.Case

/-! Short descriptions of nodes for readers; the address tells apart nodes that look the same. -/

namespace HtmlQuery.Document

/-- A node as it is shown to readers. -/
def describe (document : Document) (address : String) (ref : NodeRef) : String :=
  let body :=
    match document.node? ref with
    | some (.element _ tag attributes) =>
        let shown := Json.shown (.object (attributes.map fun entry => (entry.name, .string entry.value)))
        "TagNode('" ++ tag.lowered ++ "', " ++ shown ++ ")"
    | some (.text slot content) =>
        let position := match slot with
          | .lead _ => "1"
          | .tail _ => "2"
        "TextNode(text=" ++ Text.shown content ++ ", pos=" ++ position ++ ")"
    | _ => "DocumentNode(" ++ (if document.isFragment then "fragment" else "document") ++ ")"
  "<" ++ body ++ " [" ++ address ++ "]>"

end HtmlQuery.Document
