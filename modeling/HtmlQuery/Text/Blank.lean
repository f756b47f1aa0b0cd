/-!
White space: the Unicode characters that separate words, including the four information
separators. Trimming removes them at the ends of a text, normalizing also shrinks every run of them
to a single blank.
-/

namespace HtmlQuery.Text

/-- Whether a character is white space. -/
def isBlank (c : Char) : Bool :=
  let n := c.toNat
  (0x09 ≤ n && n ≤ 0x0D) || (0x1C ≤ n && n ≤ 0x20) || n == 0x85 || n == 0xA0 || n == 0x1680
    || (0x2000 ≤ n && n ≤ 0x200A) || n == 0x2028 || n == 0x2029 || n == 0x202F || n == 0x205F
    || n == 0x3000

/-- A text without the white space at its start. -/
def trimStart (text : List Char) : List Char :=
  text.dropWhile isBlank

/-- A text without the white space at its end. -/
def trimEnd (text : List Char) : List Char :=
  (text.reverse.dropWhile isBlank).reverse

/-- A text without the white space at both of its ends. -/
def trim (text : List Char) : List Char :=
  trimEnd (trimStart text)

/-- Replaces each run of white space with one blank; the flag tells whether a run is under way. -/
def squeeze : Bool → List Char → List Char
  | _, [] => []
  | inRun, c :: rest =>
      if isBlank c then
        if inRun then squeeze true rest else ' ' :: squeeze true rest
      else
        c :: squeeze false rest

/-- A text whose runs of white space are single blanks, without any at its ends. -/
def normalizeSpace (text : List Char) : List Char :=
  trim (squeeze false text)

end HtmlQuery.Text

namespace String

/-- A text without the white space at both of its ends. -/
def trimmed (text : String) : String :=
  String.ofList (HtmlQuery.Text.trim text.toList)

end String
