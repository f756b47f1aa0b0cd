import HtmlQuery.JmesPath.Function
import HtmlQuery.JmesPath.Reader

/-!
Putting queries to values. What isn't there is null; projections leave nulls out of their results.
-/

namespace HtmlQuery.JmesPath

/-- Whether a value counts as false: null, what is empty, and `false` itself; no number does. -/
def countsAsFalse : Json → Bool
  | .null => true
  | .bool value => !value
  | .string text => text = ""
  | .array items => items.isEmpty
  | .object members => members.isEmpty
  | _ => false

/-- Whether a comparison holds; what can't be put in order has no answer. -/
def Relation.compare (relation : Relation) (left right : Json) : Except Failure Json :=
  let isOrdered (value : Json) : Bool := kindOf value == .number || kindOf value == .string
  let isMixed : Bool :=
    (kindOf left == .number && kindOf right == .boolean)
      || (kindOf left == .boolean && kindOf right == .number)
  let equals : Bool := !isMixed && Json.equal left right
  match relation with
  | equal => .ok (.bool equals)
  | unequal => .ok (.bool !equals)
  | _ =>
      if isOrdered left && isOrdered right then do .ok (.bool (← relation.order left right))
      else .ok .null

/-- A position in a list of the given length; one that is negative counts from the end. -/
def resolve (length : Nat) (position : Int) : Int :=
  if position < 0 then position + length else position

/-- The positions that a slice selects from a list of the given length; a step isn't zero. -/
def slicePositions (length : Nat) (start stop : Option Int) (step : Int) : List Nat :=
  let lowest : Int := if 0 < step then 0 else -1
  let highest : Int := if 0 < step then length else length - 1
  let place (position : Option Int) (default : Int) : Int :=
    match position with
    | none => default
    | some position => max lowest (min highest (resolve length position))
  let first := place start (if 0 < step then lowest else highest)
  let last := place stop (if 0 < step then highest else lowest)
  let count := if 0 < step then (last - first + step - 1) / step
    else (first - last - step - 1) / -step
  (List.range count.toNat).map fun (n : Nat) => (first + n * step).toNat

/-- The items that a slice selects. -/
def sliceItems (start stop step : Option Int) (items : List Json) : Except Failure Json :=
  if step = some 0 then .error .zeroStep
  else
    let array := items.toArray
    .ok (.array ((slicePositions items.length start stop (step.getD 1)).filterMap (array[·]?)))

/-- What a query yields for some values, without nulls. -/
def collect (run : Json → Except Failure Json) : List Json → Except Failure (List Json)
  | [] => .ok []
  | item :: rest => do
      let result ← run item
      let others ← collect run rest
      match result with
      | .null => .ok others
      | result => .ok (result :: others)

/-- The items of a list whose items that are lists themselves are replaced by theirs. -/
def flattenItems (items : List Json) : List Json :=
  items.flatMap fun item =>
    match item with
    | .array inner => inner
    | item => [item]

mutual

/-- What a query yields for a value. -/
def evaluate : Expression → Json → Except Failure Json
  | .current, value => .ok value
  | .field name, value =>
      match value with
      | .object members => .ok ((Json.member? members name).getD .null)
      | _ => .ok .null
  | .literal literal, _ => .ok literal
  | .index position, value =>
      match value with
      | .array items =>
          let place := resolve items.length position
          .ok (if place < 0 then .null else (items[place.toNat]?).getD .null)
      | _ => .ok .null
  | .slice start stop step, value =>
      match value with
      | .array items => sliceItems start stop step items
      | _ => .ok .null
  | .chain first second, value => do evaluate second (← evaluate first value)
  | .indexed base access, value => do evaluate access (← evaluate base value)
  | .compare relation left right, value => do
      let left ← evaluate left value
      let right ← evaluate right value
      relation.compare left right
  | .either left right, value => do
      let result ← evaluate left value
      if countsAsFalse result then evaluate right value else .ok result
  | .both left right, value => do
      let result ← evaluate left value
      if countsAsFalse result then .ok result else evaluate right value
  | .not operand, value => do
      let result ← evaluate operand value
      .ok (.bool (countsAsFalse result))
  | .project base right, value => do
      match ← evaluate base value with
      | .array items => do .ok (.array (← collect (evaluate right) items))
      | _ => .ok .null
  | .projectValues base right, value => do
      match ← evaluate base value with
      | .object members => do .ok (.array (← collect (evaluate right) (members.map Prod.snd)))
      | _ => .ok .null
  | .projectFiltered base right condition, value => do
      let keep (item : Json) : Except Failure Json := do
        let answer ← evaluate condition item
        if countsAsFalse answer then .ok .null else evaluate right item
      match ← evaluate base value with
      | .array items => do .ok (.array (← collect keep items))
      | _ => .ok .null
  | .flatten base, value => do
      match ← evaluate base value with
      | .array items => .ok (.array (flattenItems items))
      | _ => .ok .null
  | .list items, value =>
      match value with
      | .null => .ok .null
      | value => do .ok (.array (← evaluateAll items value))
  | .members names values, value =>
      match value with
      | .null => .ok .null
      | value => do .ok (.object (Json.membersOf (names.zip (← evaluateAll values value))))
  | .call function arguments, value => do
      Function.call function (← evaluateArguments arguments value)
  | .reference _, _ => .ok .null

/-- What several queries yield for one value. -/
def evaluateAll : List Expression → Json → Except Failure (List Json)
  | [], _ => .ok []
  | query :: rest, value => do
      let result ← evaluate query value
      let others ← evaluateAll rest value
      .ok (result :: others)

/-- What a function is given: values, and queries as they are. -/
def evaluateArguments : List Expression → Json → Except Failure (List Argument)
  | [], _ => .ok []
  | .reference query :: rest, value => do
      let others ← evaluateArguments rest value
      .ok (.query (evaluate query) :: others)
  | argument :: rest, value => do
      let result ← evaluate argument value
      let others ← evaluateArguments rest value
      .ok (.value result :: others)

end

/-- Reads a query and puts it to a value. -/
def search (query : String) (value : Json) : Except Failure Json :=
  match Expression.read? query with
  | none => .error .unreadable
  | some expression => evaluate expression value

end HtmlQuery.JmesPath
