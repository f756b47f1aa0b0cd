import HtmlQuery.Markup.NamedCharacters

/-!
Character references: by name or by number. Some names are understood without a semicolon behind
them; in attribute values they are not if they run into further letters, digits or an equals sign.
-/

namespace HtmlQuery.Markup

/-- The characters that numbers from 128 to 159 stand for. -/
def controlCharacters : List Nat :=
  [0x20AC, 0x81, 0x201A, 0x192, 0x201E, 0x2026, 0x2020, 0x2021, 0x2C6, 0x2030, 0x160, 0x2039, 0x152,
    0x8D, 0x17D, 0x8F, 0x90, 0x2018, 0x2019, 0x201C, 0x201D, 0x2022, 0x2013, 0x2014, 0x2DC, 0x2122,
    0x161, 0x203A, 0x153, 0x9D, 0x17E, 0x178]

/-- The character that a number refers to; numbers of no character get the replacement character. -/
def numbered (n : Nat) : Char :=
  if n = 0 ∨ 0x10FFFF < n ∨ (0xD800 ≤ n ∧ n < 0xE000) then Char.ofNat 0xFFFD
  else if 0x80 ≤ n ∧ n < 0xA0 then Char.ofNat (controlCharacters.getD (n - 0x80) n)
  else Char.ofNat n

/-- Whether a character is a hexadecimal digit. -/
def isHexDigit (c : Char) : Bool :=
  c.isDigit || ('a' ≤ c && c ≤ 'f') || ('A' ≤ c && c ≤ 'F')

/-- The value of a digit. -/
def digitOf (c : Char) : Nat :=
  if c.isDigit then c.toNat - 48 else c.toLower.toNat - 87

/-- A number in some base, and how many characters it takes with a semicolon behind it. -/
def number? (base : Nat) (isDigit : Char → Bool) (text : List Char) : Option (Nat × Nat) :=
  let digits := text.takeWhile isDigit
  if digits = [] then none
  else
    let semicolon := if text[digits.length]? = some ';' then 1 else 0
    some (digits.foldl (fun value c => value * base + digitOf c) 0, digits.length + semicolon)

/-- Whether a name is understood without a semicolon. -/
def isLenient (entry : String × Nat) : Bool :=
  entry.fst != "apos" && entry.snd < 0x100

/-- The longest part at the front of a name that is understood without a semicolon. -/
def lenient? (name : List Char) : Option (Nat × Nat) :=
  ((List.range name.length).reverse.map (· + 1)).findSome? fun length =>
    match namedCharacters.find? fun entry => entry.fst.toList == name.take length with
    | some entry => if isLenient entry then some (entry.snd, length) else none
    | none => none

/-- The character that a name refers to, and how many characters the reference takes. -/
def named? (inAttribute : Bool) (text : List Char) : Option (Nat × Nat) :=
  let name := text.takeWhile Char.isAlphanum
  let exact :=
    if text[name.length]? = some ';' then namedCharacters.lookup (String.ofList name) else none
  match exact with
  | some point => some (point, name.length + 1)
  | none =>
      match lenient? name with
      | none => none
      | some (point, length) =>
          match inAttribute, text[length]? with
          | true, some c => if c.isAlphanum || c == '=' then none else some (point, length)
          | _, _ => some (point, length)

/-- The character that stands behind an ampersand, and how many characters the reference takes. -/
def reference? (inAttribute : Bool) (text : List Char) : Option (Char × Nat) :=
  match text with
  | '#' :: rest =>
      let number : Option (Nat × Nat) :=
        match rest with
        | x :: digits =>
            if x = 'x' ∨ x = 'X' then
              (number? 16 isHexDigit digits).map fun (n, extent) => (n, extent + 1)
            else number? 10 Char.isDigit rest
        | [] => none
      number.map fun (n, extent) => (numbered n, extent + 1)
  | _ => (named? inAttribute text).map fun (point, extent) => (Char.ofNat point, extent)

/-- A text in which all references are replaced by what they refer to. -/
def resolve (inAttribute : Bool) : List Char → List Char
  | [] => []
  | c :: rest =>
      match if c = '&' then reference? inAttribute rest else none with
      | some (d, extent) => d :: resolve inAttribute (rest.drop extent)
      | none => c :: resolve inAttribute rest
  termination_by text => text.length
  decreasing_by all_goals simp only [List.length_drop, List.length_cons]; omega

end HtmlQuery.Markup
