import HtmlQuery.Text.CaseRuns
import HtmlQuery.Text.CasedRanges

/-!
Lower and upper case of whole texts. A dotted capital I is lowered to two characters, a capital
sigma depends on its place in the word, all other letters are mapped on their own.
-/

namespace HtmlQuery.Text

/-- The lower-case counterpart of a single letter. -/
def lowerChar (c : Char) : Char :=
  if c.toNat < 128 then c.toLower
  else if c.toNat == 0x130 then 'i'
  else (lowerRuns.get? c).getD c

/-- Whether the first character that isn't skipped is a cased one. -/
def meetsCased (text : List Char) : Bool :=
  match text.dropWhile caseIgnorableRanges.contains with
  | [] => false
  | c :: _ => casedRanges.contains c

/--
The lower-case form of one character between the characters before it, nearest first, and those
behind it. A capital sigma that ends a word becomes a final one.
-/
def lowerWithin (before : List Char) (c : Char) (after : List Char)
    : List Char :=
  if c.toNat == 0x130 then ['i', Char.ofNat 0x307]
  else if c.toNat == 0x3A3 then
    [Char.ofNat (if meetsCased before && !meetsCased after then 0x3C2 else 0x3C3)]
  else [lowerChar c]

/-- Lowers a text behind the characters that precede it, nearest first. -/
def lowerFrom (before : List Char) : List Char → List Char
  | [] => []
  | c :: rest => lowerWithin before c rest ++ lowerFrom (c :: before) rest

/-- The lower-case form of a text. -/
def lower (text : List Char) : List Char :=
  lowerFrom [] text

/-- The upper-case form of one character. -/
def upperChar (c : Char) : List Char :=
  if c.toNat < 128 then [c.toUpper]
  else
    match upperExpansions.lookup c.toNat with
    | some points => points.map Char.ofNat
    | none => [(upperRuns.get? c).getD c]

/-- The upper-case form of a text. -/
def upper (text : List Char) : List Char :=
  text.flatMap upperChar

end HtmlQuery.Text

namespace String

/-- The lower-case form of a text. -/
def lowered (text : String) : String :=
  String.ofList (HtmlQuery.Text.lower text.toList)

end String
