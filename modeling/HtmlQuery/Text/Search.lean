/-! Looking for one text within another one. -/

namespace HtmlQuery.Text

/-- What stands before and behind the first occurrence of a text in another one. -/
def cutAt? (wanted : List Char) : List Char → Option (List Char × List Char)
  | [] => if wanted = [] then some ([], []) else none
  | c :: rest =>
      if wanted.isPrefixOf (c :: rest) then some ([], (c :: rest).drop wanted.length)
      else (cutAt? wanted rest).map fun (before, after) => (c :: before, after)

/-- Whether a text occurs in another one. -/
def occursIn (wanted text : List Char) : Bool :=
  (cutAt? wanted text).isSome

end HtmlQuery.Text
