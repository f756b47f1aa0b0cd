import HtmlQuery.JmesPath.Sum
import HtmlQuery.Json.Comparison
import HtmlQuery.Json.NumberText
import HtmlQuery.Json.Writer
import HtmlQuery.Text.Search

/-!
The functions that queries can call. The number and the kinds of the arguments are checked before a
function is applied.
-/

namespace HtmlQuery.JmesPath

/-- The functions. -/
inductive Function where
  | abs
  | avg
  | ceil
  | contains
  | endsWith
  | floor
  | join
  | keys
  | length
  | map
  | max
  | maxBy
  | merge
  | min
  | minBy
  | notNull
  | reverse
  | sort
  | sortBy
  | startsWith
  | sum
  | toArray
  | toNumber
  | toString
  | type
  | values
  deriving DecidableEq, Repr

/-- The kinds of values. -/
inductive Kind where
  | null
  | boolean
  | number
  | string
  | array
  | object
  | query
  deriving DecidableEq, Repr

/-- The name of a kind; queries have none. -/
def Kind.name? : Kind → Option String
  | null => some "null"
  | boolean => some "boolean"
  | number => some "number"
  | string => some "string"
  | array => some "array"
  | object => some "object"
  | query => none

/-- The kind of a value. -/
def kindOf : Json → Kind
  | .null => .null
  | .bool _ => .boolean
  | .integer _ | .float _ => .number
  | .string _ => .string
  | .array _ => .array
  | .object _ => .object

/-- What a function is given: a value, or a query as it is. -/
inductive Argument where
  | value (value : Json)
  | query (run : Json → Except Failure Json)

namespace Argument

/-- The kind of an argument. -/
def kind : Argument → Kind
  | value json => kindOf json
  | query _ => .query

/-- The argument as a value. -/
def json : Argument → Json
  | value json => json
  | query _ => .null

end Argument

/-- The arguments that are allowed in one place: their kinds and the kinds of an array's items. -/
structure Parameter where
  kinds : List Kind
  items : List Kind

namespace Parameter

/-- Whatever there is. -/
def any : Parameter := ⟨[], []⟩

/-- Values of some kinds. -/
def one (kinds : List Kind) : Parameter := ⟨kinds, []⟩

/-- Arrays whose items are all of the same kind, which is one of the given ones. -/
def rows (items : List Kind) : Parameter := ⟨[.array], items⟩

/-- Whether an argument is allowed. -/
def allows (parameter : Parameter) (argument : Argument) : Bool :=
  (parameter.kinds.isEmpty || parameter.kinds.contains argument.kind)
    && match argument with
      | .value (.array items) =>
          parameter.items.isEmpty || items.isEmpty
            || parameter.items.any fun kind => items.all fun item => kindOf item == kind
      | _ => true

end Parameter

/-- Whether two values stand in a relation. Numbers are compared with numbers and texts with texts. -/
def Relation.order (relation : Relation) (left right : Json) : Except Failure Bool :=
  let holds : Option Ordering → Bool
    | none => false
    | some ordering =>
        match relation with
        | less => ordering.isLT
        | lessOrEqual => ordering.isLE
        | greater => ordering.isGT
        | greaterOrEqual => ordering.isGE
        | equal => ordering.isEq
        | unequal => ordering.isNe
  match left, right with
  | .string a, .string b => .ok (holds (some (compare a b)))
  | a, b =>
      if kindOf a = .number ∧ kindOf b = .number then .ok (holds (Json.compareNumbers? a b))
      else .error (.incomparable relation a.kindName b.kindName)

namespace Function

/-- The function that a name stands for. -/
def ofName? : String → Option Function
  | "abs" => some abs
  | "avg" => some avg
  | "ceil" => some ceil
  | "contains" => some contains
  | "ends_with" => some endsWith
  | "floor" => some floor
  | "join" => some join
  | "keys" => some keys
  | "length" => some length
  | "map" => some map
  | "max" => some max
  | "max_by" => some maxBy
  | "merge" => some merge
  | "min" => some min
  | "min_by" => some minBy
  | "not_null" => some notNull
  | "reverse" => some reverse
  | "sort" => some sort
  | "sort_by" => some sortBy
  | "starts_with" => some startsWith
  | "sum" => some sum
  | "to_array" => some toArray
  | "to_number" => some toNumber
  | "to_string" => some toString
  | "type" => some type
  | "values" => some values
  | _ => none

/-- The places for arguments. -/
def parameters : Function → List Parameter
  | abs | ceil | floor => [.one [.number]]
  | avg | sum => [.rows [.number]]
  | contains => [.one [.array, .string], .any]
  | endsWith | startsWith => [.one [.string], .one [.string]]
  | join => [.one [.string], .rows [.string]]
  | keys | values => [.one [.object]]
  | length => [.one [.string, .array, .object]]
  | map => [.one [.query], .one [.array]]
  | max | min | sort => [.rows [.number, .string]]
  | maxBy | minBy | sortBy => [.one [.array], .one [.query]]
  | merge => [.one [.object]]
  | notNull | toArray | toNumber | toString | type => [.any]
  | reverse => [.one [.array, .string]]

/-- Whether any number of further arguments may follow. -/
def isVariadic : Function → Bool
  | merge | notNull => true
  | _ => false

/-- The first argument that is no null. -/
def firstPresent : List Argument → Json
  | [] => .null
  | argument :: rest =>
      match argument.json with
      | .null => firstPresent rest
      | value => value

/-- Whether an array has an item or a text has a part. -/
def holdsPart (subject part : Json) : Except Failure Bool :=
  match subject, part with
  | .array items, part => .ok (items.any (Json.equal part))
  | .string text, .string part => .ok (Text.occursIn part.toList text.toList)
  | _, part => .error (.soughtInText part.kindName)

/-- The number of a value's characters, items or members. -/
def size : Json → Nat
  | .string text => text.length
  | .array items => items.length
  | .object members => members.length
  | _ => 0

/-- A number rounded to an integer: down, or up if so demanded. -/
def round (up : Bool) : Json → Except Failure Json
  | .float value =>
      if value.isNaN then .error .roundedNotANumber
      else
        match Json.floor? (if up then -value else value) with
        | some rounded => .ok (.integer (if up then -rounded else rounded))
        | none => .error .roundedInfinity
  | value => .ok value

/-- The member that an array of two items or a text of two characters stands for. -/
def pairOf? : Json → Option (String × Json)
  | .array [.string name, value] => some (name, value)
  | .string text =>
      match text.toList with
      | [name, value] => some (String.singleton name, .string (String.singleton value))
      | _ => none
  | _ => none

/-- Members with those of a further value, which may be an array of pairs as well as an object. -/
def mergeInto (members : List (String × Json)) (further : Json)
    : Except Failure (List (String × Json)) :=
  match further with
  | .object others =>
      .ok (others.foldl (fun members (name, value) => Json.put members name value) members)
  | .array items =>
      items.foldlM
        (fun members item =>
          match pairOf? item with
          | some (name, value) => .ok (Json.put members name value)
          | none => .error (.mergedNoPairs (size item)))
        members
  | .string "" => .ok members
  | .string _ => .error (.mergedNoPairs 1)
  | value => .error (.mergedNoMembers value.kindName)

/-- The first value that stands in a relation to all before it, each judged by a key. -/
def extreme (relation : Relation) (key : Json → Except Failure Json)
    : List Json → Except Failure Json
  | [] => .ok .null
  | first :: rest => do
      let (best, _) ← rest.foldlM
        (fun (best, bestKey) item => do
          let itemKey ← key item
          if ← relation.order itemKey bestKey then .ok (item, itemKey) else .ok (best, bestKey))
        (first, ← key first)
      .ok best

/-- Values in ascending order of their keys, which all are numbers or all are texts. -/
def sortedByKeys (keyed : List (Json × Json)) : List Json :=
  let isBehind (a b : Json) : Bool :=
    match Relation.greater.order a b with
    | .ok answer => answer
    | .error _ => false
  (keyed.mergeSort fun a b => !isBehind a.fst b.fst).map Prod.snd

/-- A key that is of one of the demanded kinds. -/
def keyOfKind (function : String) (kinds : List Kind) (run : Json → Except Failure Json)
    (item : Json)
    : Except Failure Json := do
  let key ← run item
  if kinds.contains (kindOf key) then .ok key else .error (.argumentKind function)

/-- Items in ascending order of keys, which are all of the same kind as the first one. -/
def sortItemsBy (run : Json → Except Failure Json) (items : List Json)
    : Except Failure (List Json) := do
  match items with
  | [] => .ok []
  | first :: _ =>
      let firstKey ← keyOfKind "sort_by" [.number, .string] run first
      let keys ← items.mapM (keyOfKind "sort_by" [kindOf firstKey] run)
      .ok (sortedByKeys (keys.zip items))

/-- The text that a value is converted to. -/
def textOf : Json → String
  | .string text => text
  | value => value.portable

/-- The number that a value is converted to, or null. -/
def numberOf : Json → Json
  | .integer value => .integer value
  | .float value => .float value
  | .string text => (Json.numberOfText? text).getD .null
  | _ => .null

/-- The texts among some values. -/
def texts (items : List Json) : List String :=
  items.filterMap fun item =>
    match item with
    | .string text => some text
    | _ => none

/-- The result of a function for arguments that it allows. -/
def apply (function : Function) (arguments : List Argument) : Except Failure Json :=
  match function, arguments with
  | abs, [.value (.integer value)] => .ok (.integer value.natAbs)
  | abs, [.value (.float value)] => .ok (.float value.abs)
  | avg, [.value (.array items)] => Sum.mean items
  | ceil, [.value value] => round true value
  | contains, [.value subject, part] => do .ok (.bool (← holdsPart subject part.json))
  | endsWith, [.value (.string text), .value (.string part)] =>
      .ok (.bool (part.toList.isSuffixOf text.toList))
  | floor, [.value value] => round false value
  | join, [.value (.string separator), .value (.array items)] =>
      .ok (.string (separator.intercalate (texts items)))
  | keys, [.value (.object members)] =>
      .ok (.array (members.map fun (name, _) => .string name))
  | length, [.value value] => .ok (.integer (size value))
  | map, [.query run, .value (.array items)] => do .ok (.array (← items.mapM run))
  | max, [.value (.array items)] => extreme .greater .ok items
  | maxBy, [.value (.array items), .query run] =>
      extreme .greater (keyOfKind "max_by" [.number, .string] run) items
  | merge, arguments => do
      .ok (.object (← arguments.foldlM (fun members argument => mergeInto members argument.json) []))
  | min, [.value (.array items)] => extreme .less .ok items
  | minBy, [.value (.array items), .query run] =>
      extreme .less (keyOfKind "min_by" [.number, .string] run) items
  | notNull, arguments => .ok (firstPresent arguments)
  | reverse, [.value (.string text)] => .ok (.string (String.ofList text.toList.reverse))
  | reverse, [.value (.array items)] => .ok (.array items.reverse)
  | sort, [.value (.array items)] => .ok (.array (sortedByKeys (items.zip items)))
  | sortBy, [.value (.array items), .query run] => do .ok (.array (← sortItemsBy run items))
  | startsWith, [.value (.string text), .value (.string part)] =>
      .ok (.bool (part.toList.isPrefixOf text.toList))
  | sum, [.value (.array items)] => Sum.total items
  | toArray, [.value (.array items)] => .ok (.array items)
  | toArray, [argument] => .ok (.array [argument.json])
  | toNumber, [argument] => .ok (numberOf argument.json)
  | toString, [argument] => .ok (.string (textOf argument.json))
  | type, [argument] => .ok ((argument.kind.name?.map .string).getD .null)
  | values, [.value (.object members)] => .ok (.array (members.map Prod.snd))
  | _, _ => .error (.argumentKind "")

/-- Calls the function with the given name, after the number and kinds of the arguments are checked.
-/
def call (name : String) (arguments : List Argument) : Except Failure Json :=
  match ofName? name with
  | none => .error (.unknownFunction name)
  | some function =>
      let parameters := function.parameters
      let fits :=
        if function.isVariadic then parameters.length ≤ arguments.length
        else arguments.length = parameters.length
      if !fits then .error (.argumentCount name)
      else if !(List.zipWith Parameter.allows parameters arguments).all id then
        .error (.argumentKind name)
      else function.apply arguments

end Function

end HtmlQuery.JmesPath
