/-!
Which elements can stay open. A start tag ends some elements that must not hold what it begins; an
end tag reaches through elements that don't weigh more than its own.
-/

namespace HtmlQuery.Markup

/-- The headings. -/
def headingTags : List String :=
  ["h1", "h2", "h3", "h4", "h5", "h6"]

/-- The elements that can't stand in the head of a document and therefore end it. -/
def bodyTags : List String :=
  ["a", "abbr", "acronym", "address", "b", "bdo", "big", "blockquote", "body", "br", "center", "cite",
    "code", "dd", "dfn", "dir", "div", "dl", "dt", "em", "fieldset", "font", "form", "frameset", "h1",
    "h2", "h3", "h4", "h5", "h6", "hr", "i", "iframe", "img", "kbd", "li", "listing", "map", "menu",
    "ol", "p", "pre", "q", "s", "samp", "small", "span", "strike", "strong", "sub", "sup", "table",
    "tt", "u", "ul", "var", "xmp"]

/-- The elements that end a paragraph in front of them. -/
def paragraphEnders : List String :=
  ["address", "blockquote", "body", "caption", "center", "col", "colgroup", "dd", "dir", "div", "dl",
    "dt", "fieldset", "form", "frameset", "h1", "h2", "h3", "h4", "h5", "h6", "head", "hr", "li",
    "listing", "menu", "multicol", "ol", "p", "pre", "table", "tbody", "td", "tfoot", "th", "title",
    "tr", "ul", "xmp"]

/-- The elements, besides paragraphs and heads, that a start tag ends if they are innermost. -/
def endedBy (tag : String) : List String :=
  match tag with
  | "a" => ["a"]
  | "fieldset" => ["legend", "pre", "listing", "xmp", "a"] ++ headingTags
  | "table" => ["pre", "listing", "xmp", "a"] ++ headingTags
  | "td" | "th" => ["th", "td", "span", "font", "a", "b", "u"]
  | "tr" => ["th", "td", "tr", "caption", "col", "colgroup"]
  | "thead" => ["caption", "col", "colgroup"]
  | "tbody" =>
      ["th", "td", "tr", "caption", "col", "colgroup", "thead", "tfoot", "tbody"]
  | "tfoot" => ["th", "td", "tr", "caption", "col", "colgroup", "thead", "tbody"]
  | "col" => ["caption", "col"]
  | "colgroup" => ["caption", "col", "colgroup"]
  | "form" =>
      ["form", "hr", "dl", "ul", "ol", "menu", "dir", "address", "pre", "listing", "xmp"]
        ++ headingTags
  | "li" => ["li", "dl", "address", "pre", "listing", "xmp"] ++ headingTags
  | "dl" => ["dt", "menu", "dir", "address", "pre", "listing", "xmp"]
  | "dt" => ["dd", "menu", "dir", "address", "pre", "listing", "xmp"]
  | "dd" => ["dt", "menu", "dir", "address", "pre", "listing", "xmp"]
  | "ul" => ["ol", "menu", "dir", "address", "pre", "listing"]
  | "ol" | "menu" | "address" | "pre" => ["ul"]
  | "p" => ["b", "big", "i", "s", "small", "strike", "tt", "u"] ++ headingTags
  | "center" => ["font", "b", "i"]
  | "body" | "frameset" => ["style", "link", "title", "script"]
  | "option" | "optgroup" => ["option"]
  | "noscript" => ["script"]
  | _ => if headingTags.contains tag then headingTags.filter (· != tag) else []

/-- Whether a start tag ends an innermost element. -/
def ends (tag innermost : String) : Bool :=
  match innermost with
  | "head" => bodyTags.contains tag
  | "p" => paragraphEnders.contains tag
  | _ => (endedBy tag).contains innermost

/-- How much an element weighs against end tags of elements around it. -/
def weight (tag : String) : Nat :=
  match tag with
  | "div" => 150
  | "td" | "th" => 160
  | "tr" => 170
  | "thead" | "tbody" | "tfoot" => 180
  | "table" => 190
  | "head" | "body" => 200
  | "html" => 220
  | _ => 100

/-- How many elements an end tag ends, the innermost first; without a partner in reach none. -/
def endedCount (tag : String) : List String → Nat
  | [] => 0
  | innermost :: rest =>
      if innermost = tag then 1
      else if weight tag < weight innermost then 0
      else
        match endedCount tag rest with
        | 0 => 0
        | count + 1 => count + 2

/-- The elements in which white space may be text of its own. -/
def flowingTags : List String :=
  ["a", "abbr", "acronym", "address", "applet", "b", "bdo", "big", "blockquote", "body", "button",
    "caption", "center", "cite", "code", "dd", "del", "dfn", "div", "dt", "em", "font", "form", "h1",
    "h2", "h3", "h4", "h5", "h6", "i", "iframe", "ins", "kbd", "legend", "li", "noframes", "noscript",
    "object", "p", "pre", "q", "s", "samp", "small", "span", "strike", "td", "th", "tt", "u", "var"]

end HtmlQuery.Markup
