/-!
JSON values. Numbers without fraction and exponent are integers of any size, all others are binary
floating point numbers. Objects keep the order of their members.
-/

namespace HtmlQuery

/-- A JSON value. -/
inductive Json where
  | null
  | bool (value : Bool)
  | integer (value : Int)
  | float (value : Float)
  | string (value : String)
  | array (items : List Json)
  | object (members : List (String × Json))
  deriving Inhabited

namespace Json

/-- The name of the kind of a value. -/
def kindName : Json → String
  | null => "NoneType"
  | bool _ => "bool"
  | integer _ => "int"
  | float _ => "float"
  | string _ => "str"
  | array _ => "list"
  | object _ => "dict"

/-- The value of an object's member. -/
def member? (members : List (String × Json)) (name : String) : Option Json :=
  members.lookup name

/-- Members with one more; a name that is known keeps its place and gets the new value. -/
def put (members : List (String × Json)) (name : String) (value : Json) : List (String × Json) :=
  match members with
  | [] => [(name, value)]
  | (known, old) :: rest =>
      if known = name then (known, value) :: rest else (known, old) :: put rest name value

/-- An object's members when a name that occurs again replaces the value in its first place. -/
def membersOf (entries : List (String × Json)) : List (String × Json) :=
  entries.foldl (fun members (name, value) => put members name value) []

end Json

end HtmlQuery
