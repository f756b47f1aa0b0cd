import HtmlQuery.Json.Basic
import HtmlQuery.Json.Number

/-!
Reading JSON text. Besides what the standard allows, `NaN`, `Infinity` and `-Infinity` are numbers.
Every value takes at least one character, so the length of the text bounds the depth of the search.
-/

namespace HtmlQuery.Json

/-- Text behind leading blanks, tabs and line ends. -/
def skipBlanks (text : List Char) : List Char :=
  text.dropWhile fun c => c == ' ' || c == '\t' || c == '\n' || c == '\r'

/-- The value of a hexadecimal digit. -/
def hexValue? (c : Char) : Option Nat :=
  if c.isDigit then some (c.toNat - 48)
  else if 'a' ≤ c ∧ c ≤ 'f' then some (c.toNat - 87)
  else if 'A' ≤ c ∧ c ≤ 'F' then some (c.toNat - 55)
  else none

/-- The number that four hexadecimal digits denote, and the text behind them. -/
def hexUnit? : List Char → Option (Nat × List Char)
  | a :: b :: c :: d :: rest => do
      let a ← hexValue? a
      let b ← hexValue? b
      let c ← hexValue? c
      let d ← hexValue? d
      some (((a * 16 + b) * 16 + c) * 16 + d, rest)
  | _ => none

/-- The character of a short escape. -/
def shortEscape? : Char → Option Char
  | '"' => some '"'
  | '\\' => some '\\'
  | '/' => some '/'
  | 'b' => some (Char.ofNat 8)
  | 'f' => some (Char.ofNat 12)
  | 'n' => some '\n'
  | 'r' => some '\r'
  | 't' => some '\t'
  | _ => none

/-- A character for a code unit; half of a pair on its own becomes the replacement character. -/
def unitChar (unit : Nat) : Char :=
  if 0xD800 ≤ unit ∧ unit < 0xE000 then Char.ofNat 0xFFFD else Char.ofNat unit

/-- The character that code units denote, and the text behind the escapes that spell them. -/
def escapedChar? (rest : List Char) : Option (Char × List Char) := do
  let (high, behind) ← hexUnit? rest
  if 0xD800 ≤ high ∧ high < 0xDC00 then
    match behind with
    | '\\' :: 'u' :: more =>
        match hexUnit? more with
        | some (low, last) =>
            if 0xDC00 ≤ low ∧ low < 0xE000 then
              some (Char.ofNat (0x10000 + (high - 0xD800) * 0x400 + (low - 0xDC00)), last)
            else some (unitChar high, behind)
        | none => some (unitChar high, behind)
    | _ => some (unitChar high, behind)
  else some (unitChar high, behind)

/-- The rest of a string up to its closing quote, and the text behind that. -/
def readString? : Nat → List Char → Option (List Char × List Char)
  | 0, _ => none
  | _ + 1, [] => none
  | _ + 1, '"' :: rest => some ([], rest)
  | fuel + 1, '\\' :: 'u' :: rest => do
      let (c, behind) ← escapedChar? rest
      let (text, last) ← readString? fuel behind
      some (c :: text, last)
  | fuel + 1, '\\' :: d :: rest => do
      let c ← shortEscape? d
      let (text, last) ← readString? fuel rest
      some (c :: text, last)
  | fuel + 1, c :: rest =>
      if c = '\\' ∨ c.toNat < 0x20 then none
      else do
        let (text, last) ← readString? fuel rest
        some (c :: text, last)

/-- The number that decimal digits denote. -/
def decimalValue (digits : List Char) : Nat :=
  digits.foldl (fun value c => value * 10 + (c.toNat - 48)) 0

/-- The longest integer that is read; longer ones are refused. -/
def maximalDigits : Nat := 4300

/-- The digits of a number's fraction, and the text behind them. -/
def readFraction (text : List Char) : List Char × List Char :=
  match text with
  | '.' :: rest =>
      let digits := rest.takeWhile Char.isDigit
      if digits = [] then ([], text) else (digits, rest.drop digits.length)
  | _ => ([], text)

/-- The exponent of a number, if there is one, and the text behind it. -/
def readExponent (text : List Char) : Option Int × List Char :=
  match text with
  | e :: rest =>
      if e = 'e' ∨ e = 'E' then
        let (negative, body) :=
          match rest with
          | '-' :: body => (true, body)
          | '+' :: body => (false, body)
          | body => (false, body)
        let digits := body.takeWhile Char.isDigit
        if digits = [] then (none, text)
        else
          let value : Int := decimalValue digits
          (some (if negative then -value else value), body.drop digits.length)
      else (none, text)
  | [] => (none, text)

/-- A number without its sign, and the text behind it. -/
def readUnsigned? (negative : Bool) (text : List Char) : Option (Json × List Char) :=
  let whole :=
    match text with
    | '0' :: _ => ['0']
    | _ => text.takeWhile Char.isDigit
  if whole = [] then none
  else
    let (fraction, behind) := readFraction (text.drop whole.length)
    let (exponent, last) := readExponent behind
    if fraction = [] ∧ exponent = none then
      if maximalDigits < whole.length then none
      else
        let value : Int := decimalValue whole
        some (integer (if negative then -value else value), last)
    else
      let digits := decimalValue (whole ++ fraction)
      some (float (ofDecimal negative digits (exponent.getD 0 - fraction.length)), last)

/-- The text behind a word, if it begins with that. -/
def expect? (word : String) (text : List Char) : Option (List Char) :=
  if word.toList.isPrefixOf text then some (text.drop word.length) else none

/-- A number or one of the words that stand for values, and the text behind it. -/
def readAtom? (text : List Char) : Option (Json × List Char) :=
  match expect? "null" text, expect? "true" text, expect? "false" text, expect? "NaN" text,
    expect? "Infinity" text, expect? "-Infinity" text with
  | some rest, _, _, _, _, _ => some (null, rest)
  | _, some rest, _, _, _, _ => some (bool true, rest)
  | _, _, some rest, _, _, _ => some (bool false, rest)
  | _, _, _, some rest, _, _ => some (float (0.0 / 0.0), rest)
  | _, _, _, _, some rest, _ => some (float (1.0 / 0.0), rest)
  | _, _, _, _, _, some rest => some (float (-1.0 / 0.0), rest)
  | _, _, _, _, _, _ =>
      match text with
      | '-' :: rest => readUnsigned? true rest
      | _ => readUnsigned? false text

mutual

/-- A value at the front of a text, and the text behind it. -/
def readValue? : Nat → List Char → Option (Json × List Char)
  | 0, _ => none
  | fuel + 1, text =>
      match text with
      | '"' :: rest => do
          let (value, last) ← readString? (rest.length + 1) rest
          some (string (String.ofList value), last)
      | '[' :: rest =>
          match skipBlanks rest with
          | ']' :: last => some (array [], last)
          | _ => do
              let (items, last) ← readItems? fuel rest
              some (array items, last)
      | c :: rest =>
          if c = '\x7b' then
            match skipBlanks rest with
            | d :: last =>
                if d = '\x7d' then some (object [], last)
                else do
                  let (members, last) ← readMembers? fuel (d :: last)
                  some (object (membersOf members), last)
            | [] => none
          else readAtom? text
      | [] => none

/-- The items of an array up to the closing bracket, and the text behind that. -/
def readItems? : Nat → List Char → Option (List Json × List Char)
  | 0, _ => none
  | fuel + 1, text => do
      let (item, rest) ← readValue? fuel (skipBlanks text)
      match skipBlanks rest with
      | ',' :: more => do
          let (items, last) ← readItems? fuel more
          some (item :: items, last)
      | ']' :: last => some ([item], last)
      | _ => none

/-- The members of an object up to the closing brace, and the text behind that. -/
def readMembers? : Nat → List Char → Option (List (String × Json) × List Char)
  | 0, _ => none
  | fuel + 1, text =>
      match skipBlanks text with
      | '"' :: rest => do
          let (name, behind) ← readString? (rest.length + 1) rest
          match skipBlanks behind with
          | ':' :: more => do
              let (value, rest) ← readValue? fuel (skipBlanks more)
              match skipBlanks rest with
              | c :: last =>
                  if c = ',' then do
                    let (members, last) ← readMembers? fuel last
                    some ((String.ofList name, value) :: members, last)
                  else if c = '\x7d' then some ([(String.ofList name, value)], last)
                  else none
              | [] => none
          | _ => none
      | _ => none

end

/-- The value that a text consists of; a byte order mark at its front is not accepted. -/
def read? (text : String) : Option Json := do
  let body := text.toList
  let (value, rest) ← readValue? (body.length + 1) (skipBlanks body)
  if skipBlanks rest = [] then some value else none

end HtmlQuery.Json
