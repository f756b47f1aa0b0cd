import HtmlQuery.Text.Printable

/-!
Quoted texts. The shown form uses single quotes unless the text has some and no double ones, and
escapes what can't be shown; the portable form uses double quotes and ASCII alone.
-/

namespace HtmlQuery.Text

/-- The last hexadecimal digits of a number, as many as demanded, in lower case. -/
def hexDigits (width n : Nat) : List Char :=
  match width with
  | 0 => []
  | width + 1 => hexDigits width (n / 16) ++ [Nat.digitChar (n % 16)]

/-- A character of a shown text between the given quotes. -/
def showChar (quote c : Char) : List Char :=
  if c = quote || c = '\\' then ['\\', c]
  else if c = '\n' then ['\\', 'n']
  else if c = '\r' then ['\\', 'r']
  else if c = '\t' then ['\\', 't']
  else if isPrintable c then [c]
  else if c.toNat < 0x100 then '\\' :: 'x' :: hexDigits 2 c.toNat
  else if c.toNat < 0x10000 then '\\' :: 'u' :: hexDigits 4 c.toNat
  else '\\' :: 'U' :: hexDigits 8 c.toNat

/-- A text in the form in which it is shown to readers. -/
def shown (text : String) : String :=
  let quote := if text.contains '\'' && !text.contains '"' then '"' else '\''
  String.ofList (quote :: text.toList.flatMap (showChar quote) ++ [quote])

/-- A character of a portable text. -/
def portableChar (c : Char) : List Char :=
  let unit (n : Nat) : List Char := '\\' :: 'u' :: hexDigits 4 n
  if c = '"' || c = '\\' then ['\\', c]
  else if c = '\n' then ['\\', 'n']
  else if c = '\r' then ['\\', 'r']
  else if c = '\t' then ['\\', 't']
  else if c.toNat = 0x08 then ['\\', 'b']
  else if c.toNat = 0x0C then ['\\', 'f']
  else if 0x20 ≤ c.toNat && c.toNat < 0x7F then [c]
  else if c.toNat < 0x10000 then unit c.toNat
  else
    let offset := c.toNat - 0x10000
    unit (0xD800 + offset / 0x400) ++ unit (0xDC00 + offset % 0x400)

/-- A text in a form that consists of printable ASCII characters. -/
def portable (text : String) : String :=
  String.ofList ('"' :: text.toList.flatMap portableChar ++ ['"'])

end HtmlQuery.Text
