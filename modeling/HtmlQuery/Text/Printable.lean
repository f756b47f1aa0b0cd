import HtmlQuery.Text.PrintableRanges

/-! The characters that can be shown as they are. -/

namespace HtmlQuery.Text

/-- Whether a character can be shown as it is. -/
def isPrintable (c : Char) : Bool :=
  if c.toNat < 128 then 0x20 ≤ c.toNat && c.toNat < 0x7F else printableRanges.contains c

end HtmlQuery.Text
