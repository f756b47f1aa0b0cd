/-!
Character maps. A map is kept as a list in the order of the characters, so two descriptions of the
same map give the same list.
-/

namespace HtmlQuery.XPath

/-- What becomes of some characters: another one or nothing. All others stay as they are. -/
abbrev CharacterMap := List (Char × Option Char)

namespace CharacterMap

/-- Adds what becomes of a character, unless that is known already. -/
def add (source : Char) (target : Option Char) : CharacterMap → CharacterMap
  | [] => [(source, target)]
  | (c, image) :: rest =>
      if source = c then (c, image) :: rest
      else if source.toNat < c.toNat then (source, target) :: (c, image) :: rest
      else (c, image) :: add source target rest

/-- Pairs characters with their counterparts; those without one are to be removed. -/
def pairs : List Char → List Char → List (Char × Option Char)
  | [], _ => []
  | c :: sources, [] => (c, none) :: pairs sources []
  | c :: sources, d :: targets => (c, some d) :: pairs sources targets

/-- The map that sends each character of one text to its counterpart in another one. -/
def ofTexts (source target : String) : CharacterMap :=
  (pairs source.toList target.toList).foldl (fun map (c, image) => map.add c image) []

/-- What a character becomes. -/
def image (map : CharacterMap) (c : Char) : List Char :=
  match map.lookup c with
  | none => [c]
  | some none => []
  | some (some d) => [d]

/-- Translates a text character by character. -/
def apply (map : CharacterMap) (text : String) : String :=
  String.ofList (text.toList.flatMap map.image)

end CharacterMap

end HtmlQuery.XPath
