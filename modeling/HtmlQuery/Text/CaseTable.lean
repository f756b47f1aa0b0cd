/-!
Tables of letters whose other case lies at a fixed distance. A run names its first and last code
point, the step between its members and the distance, which may be negative.
-/

namespace HtmlQuery.Text

/-- A partial map on characters, given as runs of code points that are shifted by one distance. -/
structure CaseTable where
  runs : List (Nat × Nat × Nat × Int)

namespace CaseTable

/-- Where a run sends a code point, if that is one of its members. -/
def shift? (run : Nat × Nat × Nat × Int) (n : Nat)
    : Option Nat :=
  let (first, last, step, distance) := run
  if first ≤ n && n ≤ last && (n - first) % step == 0 then some ((n : Int) + distance).toNat else none

/-- The character that the table holds for a character. -/
def get? (table : CaseTable) (c : Char) : Option Char :=
  (table.runs.findSome? (shift? · c.toNat)).map Char.ofNat

/-- All characters that the table sends to a character. -/
def preimages (table : CaseTable) (c : Char) : List Char :=
  table.runs.filterMap fun (first, last, step, distance) =>
    let source := ((c.toNat : Int) - distance).toNat
    if shift? (first, last, step, distance) source == some c.toNat then some (Char.ofNat source)
    else none

end CaseTable

end HtmlQuery.Text
