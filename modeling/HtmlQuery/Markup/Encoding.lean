/-!
Encodings of text as bytes. Decoding is strict: a byte that has no meaning where it stands makes it
fail.
-/

namespace HtmlQuery.Markup

/-- The known encodings. -/
inductive Encoding where
  | utf8
  /-- With a byte order mark that is left out. -/
  | utf8Marked
  | ascii
  | latin1
  | windows1252
  /-- In the byte order that a mark at the front tells, else with the low byte first. -/
  | utf16
  | utf16Little
  | utf16Big
  | utf32
  | utf32Little
  | utf32Big
  deriving DecidableEq, Repr

namespace Encoding

/-- A name in lower case in which every row of other characters is a single hyphen. -/
def canonicalName (name : String) : String :=
  let part (c : Char) : Bool := c.isAlphanum || c == '.'
  let pieces := name.toLower.toList.splitBy fun c d => part c == part d
  String.ofList (pieces.flatMap fun piece =>
    match piece with
    | c :: _ => if part c then piece else ['-']
    | [] => [])

/-- The encoding of a name. -/
def ofName? (name : String) : Option Encoding :=
  match canonicalName name with
  | "utf-8" | "utf8" | "u8" | "utf" | "cp65001" | "utf8-ucs2" | "utf8-ucs4" => some utf8
  | "utf-8-sig" => some utf8Marked
  | "ascii" | "us-ascii" | "646" | "ansi-x3.4-1968" | "ansi-x3-4-1968" | "iso646-us" | "us" | "cp367"
  | "ibm367" | "iso-ir-6" => some ascii
  | "latin-1" | "latin1" | "latin" | "l1" | "iso-8859-1" | "iso8859-1" | "8859" | "cp819" | "ibm819"
  | "iso-ir-100" | "iso8859" => some latin1
  | "cp1252" | "windows-1252" | "1252" => some windows1252
  | "utf-16" | "utf16" | "u16" => some utf16
  | "utf-16-le" | "utf-16le" | "unicodelittleunmarked" => some utf16Little
  | "utf-16-be" | "utf-16be" | "unicodebigunmarked" => some utf16Big
  | "utf-32" | "utf32" | "u32" => some utf32
  | "utf-32-le" | "utf-32le" => some utf32Little
  | "utf-32-be" | "utf-32be" => some utf32Big
  | _ => none

/-- The code points of the bytes from 128 to 159 in the Western code page. -/
def westernPoints : List (Option Nat) :=
  [some 0x20AC, none, some 0x201A, some 0x192, some 0x201E, some 0x2026, some 0x2020, some 0x2021,
    some 0x2C6, some 0x2030, some 0x160, some 0x2039, some 0x152, none, some 0x17D, none, none,
    some 0x2018, some 0x2019, some 0x201C, some 0x201D, some 0x2022, some 0x2013, some 0x2014,
    some 0x2DC, some 0x2122, some 0x161, some 0x203A, some 0x153, none, some 0x17E, some 0x178]

/-- The character of a code point, unless it is half of a pair or beyond the last one. -/
def character? (point : Nat) : Option Char :=
  if h : point.isValidChar then some (Char.ofNatAux point h) else none

/-- The number that some bytes denote, the high byte first. -/
def wordOf (bytes : List UInt8) : Nat :=
  bytes.foldl (fun value byte => value * 256 + byte.toNat) 0

/-- The words of two bytes that a row of bytes consists of. -/
def pairs? (bigFirst : Bool) : List UInt8 → Option (List Nat)
  | [] => some []
  | a :: b :: rest =>
      (pairs? bigFirst rest).map (wordOf (if bigFirst then [a, b] else [b, a]) :: ·)
  | _ => none

/-- The words of four bytes that a row of bytes consists of. -/
def quads? (bigFirst : Bool) : List UInt8 → Option (List Nat)
  | [] => some []
  | a :: b :: c :: d :: rest =>
      (quads? bigFirst rest).map (wordOf (if bigFirst then [a, b, c, d] else [d, c, b, a]) :: ·)
  | _ => none

/-- The characters that code units of 16 bits denote. -/
def unitCharacters? : List Nat → Option (List Char)
  | [] => some []
  | [unit] => (character? unit).map ([·])
  | high :: low :: rest =>
      if 0xD800 ≤ high ∧ high < 0xDC00 then
        if 0xDC00 ≤ low ∧ low < 0xE000 then do
          let c ← character? (0x10000 + (high - 0xD800) * 0x400 + (low - 0xDC00))
          (unitCharacters? rest).map (c :: ·)
        else none
      else do
        let c ← character? high
        (unitCharacters? (low :: rest)).map (c :: ·)

/-- Bytes in which each one denotes a character. -/
def mapBytes? (point? : Nat → Option Nat) (bytes : List UInt8) : Option String :=
  (bytes.mapM fun byte => (point? byte.toNat).bind character?).map String.ofList

/-- A text in code units of two bytes. -/
def decodePairs? (bigFirst : Bool) (bytes : List UInt8) : Option String :=
  ((pairs? bigFirst bytes).bind unitCharacters?).map String.ofList

/-- A text in code points of four bytes. -/
def decodeQuads? (bigFirst : Bool) (bytes : List UInt8) : Option String :=
  ((quads? bigFirst bytes).bind (List.mapM character?)).map String.ofList

/-- The text that bytes denote. -/
def decode? (encoding : Encoding) (bytes : List UInt8) : Option String :=
  match encoding with
  | utf8 => String.fromUTF8? ⟨bytes.toArray⟩
  | utf8Marked =>
      match bytes with
      | 0xEF :: 0xBB :: 0xBF :: rest => String.fromUTF8? ⟨rest.toArray⟩
      | _ => String.fromUTF8? ⟨bytes.toArray⟩
  | ascii => mapBytes? (fun n => if n < 128 then some n else none) bytes
  | latin1 => mapBytes? some bytes
  | windows1252 =>
      mapBytes? (fun n => if 128 ≤ n ∧ n < 160 then westernPoints.getD (n - 128) none else some n) bytes
  | utf16 =>
      match bytes with
      | 0xFF :: 0xFE :: rest => decodePairs? false rest
      | 0xFE :: 0xFF :: rest => decodePairs? true rest
      | _ => decodePairs? false bytes
  | utf16Little => decodePairs? false bytes
  | utf16Big => decodePairs? true bytes
  | utf32 =>
      match bytes with
      | 0xFF :: 0xFE :: 0 :: 0 :: rest => decodeQuads? false rest
      | 0 :: 0 :: 0xFE :: 0xFF :: rest => decodeQuads? true rest
      | _ => decodeQuads? false bytes
  | utf32Little => decodeQuads? false bytes
  | utf32Big => decodeQuads? true bytes

end Encoding

end HtmlQuery.Markup
