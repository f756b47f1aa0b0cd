import HtmlQuery.Pattern.Basic

/-!
Matching by trying. A pattern is put to a place of a text together with what has to follow; the first
way that succeeds wins. A repetition tries its body once more only if the place has changed since the
last time, so the length of the text bounds the number of tries.
-/

namespace HtmlQuery.Pattern

open HtmlQuery.Text

/-- A place that has been reached, and the latest places between which each group has matched. -/
structure Reached where
  place : Nat
  groups : List (Nat × Nat × Nat)
  deriving DecidableEq, Repr

namespace Reached

/-- Notes what a group has matched. -/
def note (reached : Reached) (index start stop : Nat) : Reached :=
  { reached with
    groups := (index, start, stop) :: reached.groups.filter fun entry => entry.fst != index }

end Reached

/-- What has to follow a match, as a function that tells where it leads. -/
abbrev Next := Reached → Option Reached

/-- Whether the characters before and behind a place differ in being word characters. -/
def isWordEdge (text : Array Char) (asciiOnly : Bool) (place : Nat) : Bool :=
  let isWordAt (index : Nat) : Bool := match text[index]? with
    | some c => Category.word.contains asciiOnly c
    | none => false
  let before := if place = 0 then false else isWordAt (place - 1)
  before != isWordAt place

/-- Whether a condition holds at a place. -/
def Anchor.holds (text : Array Char) (place : Nat) : Anchor → Bool
  | textStart => place == 0
  | lineStart => place == 0 || text[place - 1]? == some '\n'
  | textEnd => place == text.size
  | lastLineEnd =>
      place == text.size || (place + 1 == text.size && text[place]? == some '\n')
  | lineEnd => place == text.size || text[place]? == some '\n'
  | wordEdge isNegated asciiOnly =>
      !text.isEmpty && isWordEdge text asciiOnly place != isNegated

/-- The place behind a character that passes a test. -/
def step? (text : Array Char) (test : Char → Bool) (reached : Reached) : Option Reached :=
  match text[reached.place]? with
  | some c => if test c then some { reached with place := reached.place + 1 } else none
  | none => none

/-- Whether a body may be tried once more. -/
def mayRepeat (most : Option Nat) (count : Nat) (last : Option Nat) (place : Nat) : Bool :=
  (match most with
    | some most => count < most
    | none => true)
    && last != some place

/-- A body as often as possible, then less often. -/
def repeatGreedy (body : Reached → Next → Option Reached) (least : Nat) (most : Option Nat)
    (next : Next) : Nat → Nat → Option Nat → Reached → Option Reached
  | 0, _, _, _ => none
  | fuel + 1, count, last, reached =>
      if count < least then
        body reached (repeatGreedy body least most next fuel (count + 1) last)
      else
        let further :=
          if mayRepeat most count last reached.place then
            body reached
              (repeatGreedy body least most next fuel (count + 1) (some reached.place))
          else none
        match further with
        | some found => some found
        | none => next reached

/-- A body as seldom as possible, then more often. -/
def repeatLazy (body : Reached → Next → Option Reached) (least : Nat) (most : Option Nat)
    (next : Next) : Nat → Nat → Option Nat → Reached → Option Reached
  | 0, _, _, _ => none
  | fuel + 1, count, last, reached =>
      if count < least then
        body reached (repeatLazy body least most next fuel (count + 1) last)
      else
        match next reached with
        | some found => some found
        | none =>
            if mayRepeat most count last reached.place then
              body reached
                (repeatLazy body least most next fuel (count + 1) (some reached.place))
            else none

/-- Where a body leads that is taken as often as possible, each time in the first way there is. -/
def repeatPossessive (body : Reached → Next → Option Reached) (least : Nat) (most : Option Nat)
    : Nat → Nat → Option Nat → Reached → Option Reached
  | 0, _, _, _ => none
  | fuel + 1, count, last, reached =>
      if count < least then
        (body reached some).bind (repeatPossessive body least most fuel (count + 1) last)
      else if mayRepeat most count last reached.place then
        match body reached some with
        | some found =>
            repeatPossessive body least most fuel (count + 1) (some reached.place) found
        | none => some reached
      else some reached

/-- The place behind the characters that a group has matched, if they stand here once more. -/
def again? (text : Array Char) (folding : Folding) (start stop : Nat) (reached : Reached)
    : Option Reached :=
  let known := (text.extract start stop).toList
  let found := (text.extract reached.place (reached.place + (stop - start))).toList
  if found.map folding.lower = known.map folding.lower then
    some { reached with place := reached.place + (stop - start) }
  else none

/-- Tries a pattern at a place; what has to follow decides whether a way succeeds. -/
def run (text : Array Char) : Pattern → Reached → Next → Option Reached
  | empty, reached, next => next reached
  | never, _, _ => none
  | any acrossLines, reached, next => (step? text (fun c => acrossLines || c != '\n') reached).bind next
  | single set, reached, next => (step? text set.contains reached).bind next
  | anchor condition, reached, next =>
      if condition.holds text reached.place then next reached else none
  | group index body, reached, next =>
      run text body reached fun behind => next (behind.note index reached.place behind.place)
  | again index folding _, reached, next =>
      match reached.groups.lookup index with
      | some (start, stop) => (again? text folding start stop reached).bind next
      | none => none
  | sequence first second, reached, next =>
      run text first reached fun behind => run text second behind next
  | choice first second, reached, next =>
      match run text first reached next with
      | some found => some found
      | none => run text second reached next
  | times greed least most body, reached, next =>
      let fuel := least + (text.size - reached.place) + 3
      match greed with
      | .greedy => repeatGreedy (run text body) least most next fuel 0 none reached
      | .lazy => repeatLazy (run text body) least most next fuel 0 none reached
      | .possessive =>
          (repeatPossessive (run text body) least most fuel 0 none reached).bind next
  | look isBehind isNegated body, reached, next =>
      let back := if isBehind then body.width.least else 0
      let found :=
        if reached.place < back then none
        else run text body { reached with place := reached.place - back } some
      match found, isNegated with
      | some found, false => next { found with place := reached.place }
      | none, true => next reached
      | _, _ => none
  | atomic body, reached, next => (run text body reached some).bind next
  | conditional index yes no, reached, next =>
      if (reached.groups.lookup index).isSome then run text yes reached next
      else run text no reached next

end HtmlQuery.Pattern
