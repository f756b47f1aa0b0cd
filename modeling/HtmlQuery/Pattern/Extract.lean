import HtmlQuery.Pattern.Match
import HtmlQuery.Pattern.Reader

/-!
All matches of a pattern in a text, from left to right. Behind an empty match the next one must not
be empty at the same place again, so every match takes a character or lets the next one take one.
-/

namespace HtmlQuery.Pattern

/-- A match: where it starts and what has been reached. -/
structure Found where
  start : Nat
  reached : Reached

/-- The first match that starts at a place or at one of the next ones. -/
def search (text : Array Char) (pattern : Pattern) (mayBeEmpty : Bool)
    : Nat → Nat → Option Found
  | 0, _ => none
  | tries + 1, place =>
      let accept (reached : Reached) : Option Reached :=
        if mayBeEmpty || reached.place != place then some reached else none
      match run text pattern ⟨place, []⟩ accept with
      | some reached => some ⟨place, reached⟩
      | none => search text pattern true tries (place + 1)

/-- The matches from a place on. -/
def matchesFrom (text : Array Char) (pattern : Pattern)
    : Nat → Bool → Nat → List Found
  | 0, _, _ => []
  | fuel + 1, mayBeEmpty, place =>
      match search text pattern mayBeEmpty (text.size + 1 - place) place with
      | none => []
      | some found =>
          found :: matchesFrom text pattern fuel (found.reached.place != found.start)
            found.reached.place

namespace Compiled

/-- What a match contributes: the texts of the groups that took part, or the text of the match. -/
def extract (compiled : Compiled) (text : Array Char) (found : Found) : List String :=
  let piece (start stop : Nat) : String := String.ofList (text.extract start stop).toList
  if compiled.groups = 0 then [piece found.start found.reached.place]
  else
    ((List.range compiled.groups).map (· + 1)).filterMap fun index =>
      (found.reached.groups.lookup index).map fun (start, stop) => piece start stop

/-- What all matches in a text contribute. -/
def extractFrom (compiled : Compiled) (text : String) : List String :=
  let characters := text.toList.toArray
  (matchesFrom characters compiled.pattern (2 * characters.size + 2) true 0).flatMap
    (compiled.extract characters)

/-- What all matches in several texts contribute. -/
def extractAll (compiled : Compiled) (texts : List String) : List String :=
  texts.flatMap compiled.extractFrom

end Compiled

end HtmlQuery.Pattern
