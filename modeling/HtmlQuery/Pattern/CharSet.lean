import HtmlQuery.Text.Blank
import HtmlQuery.Text.Case
import HtmlQuery.Text.Word

/-!
Sets of characters in patterns. A set can ignore letter case: then characters are looked up by their
lower-case forms, and letters that share an upper-case form without sharing a lower-case one count as
equal too.
-/

namespace HtmlQuery.Pattern

open HtmlQuery.Text

/-- How letter case counts when characters are compared. -/
inductive Folding where
  | exact
  | ascii
  | full
  deriving DecidableEq, Repr

/-- Lower-case letters that are equal when case is ignored, class by class. -/
def twinClasses : List (List Nat) :=
  [[0x69, 0x131], [0x73, 0x17F], [0xB5, 0x3BC], [0x345, 0x3B9, 0x1FBE], [0x390, 0x1FD3],
    [0x3B0, 0x1FE3], [0x3B2, 0x3D0], [0x3B5, 0x3F5], [0x3B8, 0x3D1], [0x3BA, 0x3F0], [0x3C0, 0x3D6],
    [0x3C1, 0x3F1], [0x3C2, 0x3C3], [0x3C6, 0x3D5], [0x432, 0x1C80], [0x434, 0x1C81],
    [0x43E, 0x1C82], [0x441, 0x1C83], [0x442, 0x1C84, 0x1C85], [0x44A, 0x1C86], [0x463, 0x1C87],
    [0x1C88, 0xA64B], [0x1E61, 0x1E9B], [0xFB05, 0xFB06]]

/-- All lower-case letters that are equal to a given one when case is ignored. -/
def twins (lower : Nat) : List Nat :=
  (twinClasses.find? fun members => members.contains lower).getD [lower]

/-- A character's lower-case form under a folding. -/
def Folding.lower (folding : Folding) (c : Char) : Char :=
  match folding with
  | exact => c
  | ascii => c.toLower
  | full => lowerChar c

/-- The characters that have a given lower-case form. -/
def Folding.sources (folding : Folding) (lower : Char) : List Char :=
  match folding with
  | exact => [lower]
  | ascii => [lower, lower.toUpper]
  | full =>
      lower :: (if lower = 'i' then [Char.ofNat 0x130] else [])
        ++ (if lower.toNat < 128 then [lower.toUpper] else []) ++ lowerRuns.preimages lower

/-- Whether a letter has a counterpart in the other case. -/
def isCased (c : Char) : Bool :=
  lowerChar c != c || upperChar c != [c] || !(lowerRuns.preimages c).isEmpty

/-- The folding under which a single character is compared; without case there is nothing to fold. -/
def Folding.forCharacter (folding : Folding) (point : Nat) : Folding :=
  match folding with
  | exact => exact
  | ascii => if (Char.ofNat point).isAlpha then ascii else exact
  | full => if isCased (Char.ofNat point) then full else exact

/-- The kinds of characters that have names of their own. -/
inductive Category where
  | digit
  | space
  | word
  deriving DecidableEq, Repr

/-- Whether a character is of a kind, perhaps as far as ASCII goes. -/
def Category.contains (category : Category) (asciiOnly : Bool) (c : Char) : Bool :=
  match category with
  | digit => if asciiOnly then c.isDigit else isDigit c
  | space =>
      if asciiOnly then c == ' ' || (0x09 ≤ c.toNat && c.toNat ≤ 0x0D) else isBlank c
  | word => if asciiOnly then c.isAlphanum || c == '_' else isWord c

/-- A part of a set; code points may be ones that no character has. -/
inductive Member where
  | point (value : Nat)
  | range (first last : Nat)
  | category (kind : Category) (isNegated asciiOnly : Bool)
  deriving DecidableEq, Repr

/-- Whether a character that is folded already belongs to a part of a set. -/
def Member.contains (folding : Folding) (c : Char) : Member → Bool
  | point value =>
      match folding with
      | .exact => c.toNat == value
      | .ascii => c.toNat == (Char.toLower (Char.ofNat value)).toNat
      | .full => (twins c.toNat).contains (lowerChar (Char.ofNat value)).toNat
  | range first last =>
      let lowers := match folding with
        | .full => (twins c.toNat).map Char.ofNat
        | _ => [c]
      (lowers.flatMap folding.sources).any fun source =>
        first ≤ source.toNat && source.toNat ≤ last
  | category kind isNegated asciiOnly => kind.contains asciiOnly c != isNegated

/-- A set of characters, perhaps given by those that don't belong to it. -/
structure CharSet where
  isNegated : Bool
  members : List Member
  folding : Folding
  deriving DecidableEq, Repr

/-- Whether a character belongs to a set. -/
def CharSet.contains (set : CharSet) (c : Char) : Bool :=
  (set.members.any fun member => member.contains set.folding (set.folding.lower c)) != set.isNegated

end HtmlQuery.Pattern
