import HtmlQuery.Json.Basic
import HtmlQuery.Json.Number
import HtmlQuery.Text.Quoted

/-! Writing JSON values: portably and without blanks, or in the form in which they are shown. -/

namespace HtmlQuery.Json

/-- How the parts of a value are spelled. -/
structure Spelling where
  null : String
  yes : String
  no : String
  infinity : String
  notANumber : String
  comma : String
  colon : String
  quote : String → String

/-- The spelling that every JSON reader understands, apart from infinities. -/
def portableSpelling : Spelling where
  null := "null"
  yes := "true"
  no := "false"
  infinity := "Infinity"
  notANumber := "NaN"
  comma := ","
  colon := ":"
  quote := Text.portable

/-- The spelling in messages for readers. -/
def shownSpelling : Spelling where
  null := "None"
  yes := "True"
  no := "False"
  infinity := "inf"
  notANumber := "nan"
  comma := ", "
  colon := ": "
  quote := Text.shown

mutual

/-- The text of a value. -/
def write (spelling : Spelling) : Json → String
  | null => spelling.null
  | bool value => if value then spelling.yes else spelling.no
  | integer value => toString value
  | float value => floatText spelling.infinity spelling.notANumber value
  | string value => spelling.quote value
  | array items => "[" ++ spelling.comma.intercalate (writeItems spelling items) ++ "]"
  | object members =>
      "\x7b" ++ spelling.comma.intercalate (writeMembers spelling members) ++ "\x7d"

/-- The texts of several values. -/
def writeItems (spelling : Spelling) : List Json → List String
  | [] => []
  | item :: rest => write spelling item :: writeItems spelling rest

/-- The texts of members: name, colon and value. -/
def writeMembers (spelling : Spelling) : List (String × Json) → List String
  | [] => []
  | (name, value) :: rest =>
      (spelling.quote name ++ spelling.colon ++ write spelling value) :: writeMembers spelling rest

end

/-- A value in portable form. -/
def portable (value : Json) : String :=
  write portableSpelling value

/-- A value in the form in which it is shown to readers. -/
def shown (value : Json) : String :=
  write shownSpelling value

end HtmlQuery.Json
