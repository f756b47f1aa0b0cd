import HtmlQuery.Css.Selector
import HtmlQuery.Css.Token
import HtmlQuery.Text.Case

/-!
Reading selectors. Names must not have a namespace prefix, except the star and the empty one. The
arguments of `:not()` and `:is()` are compounds, that of `:has()` is a complex selector that may
begin with a combinator. Every call takes a token or leads to one that does, so four times the number
of tokens bounds the depth.
-/

namespace HtmlQuery.Css

/-- The tokens behind one blank at the front. -/
def skipBlank : List Token → List Token
  | .blank :: rest => rest
  | tokens => tokens

/-- Where a compound stands, as far as that decides what it may hold and where it ends. -/
structure Position where
  /-- A closing parenthesis ends the compound. -/
  isEnclosed : Bool
  /-- The compound is an argument, in which `:not()` is no condition. -/
  isArgument : Bool
  /-- The compound is the first one of its selector. -/
  isFirst : Bool

/-- Whether a token ends a compound. -/
def endsCompound (position : Position) : Token → Bool
  | .blank => true
  | .symbol ')' => position.isEnclosed
  | .symbol c => c == ',' || c == '+' || c == '>' || c == '~'
  | _ => false

/-- The combinator that a symbol stands for. -/
def Combinator.ofSymbol? : Token → Option Combinator
  | .symbol '+' => some next
  | .symbol '>' => some child
  | .symbol '~' => some later
  | _ => none

/-- The type at the front of a compound and the tokens behind it; without one any type will do. -/
def readType? (tokens : List Token) : Option (Option String × List Token) :=
  match tokens with
  | .ident _ :: .symbol '|' :: _ => none
  | .ident name :: rest => some (some name.lowered, rest)
  | .symbol '*' :: .symbol '|' :: .ident name :: rest => some (some name.lowered, rest)
  | .symbol '*' :: .symbol '|' :: .symbol '*' :: rest => some (none, rest)
  | .symbol '*' :: .symbol '|' :: _ => none
  | .symbol '*' :: rest => some (none, rest)
  | _ => some (none, tokens)

/-- The name of an attribute and the tokens behind it. -/
def readAttributeName? : List Token → Option (String × List Token)
  | .symbol '*' :: .symbol '|' :: .ident name :: rest => some (name.lowered, skipBlank rest)
  | .ident name :: .symbol '|' :: .symbol '=' :: rest =>
      some (name.lowered, .symbol '|' :: .symbol '=' :: rest)
  | .ident _ :: .symbol '|' :: _ => none
  | .ident name :: rest => some (name.lowered, skipBlank rest)
  | _ => none

/-- The comparison at the front of some tokens and those behind it. -/
def readComparison? : List Token → Option ((String → AttributeTest) × List Token)
  | .symbol '=' :: rest => some (.equal, rest)
  | .symbol '!' :: .symbol '=' :: rest => some (.unequal, rest)
  | .symbol '~' :: .symbol '=' :: rest => some (.word, rest)
  | .symbol '|' :: .symbol '=' :: rest => some (.hyphened, rest)
  | .symbol '^' :: .symbol '=' :: rest => some (.opening, rest)
  | .symbol '$' :: .symbol '=' :: rest => some (.ending, rest)
  | .symbol '*' :: .symbol '=' :: rest => some (.within, rest)
  | _ => none

/-- The text that a token carries where a value is demanded. -/
def value? : Token → Option String
  | .ident name => some name
  | .string value => some value
  | _ => none

/-- A condition on an attribute behind its opening bracket, and the tokens behind the closing one. -/
def readAttribute? (tokens : List Token) : Option (Simple × List Token) := do
  let (name, rest) ← readAttributeName? (skipBlank tokens)
  match rest with
  | .symbol ']' :: rest => some (.attribute name .present, rest)
  | _ => do
      let (test, rest) ← readComparison? rest
      match skipBlank rest with
      | token :: rest => do
          let value ← value? token
          match skipBlank rest with
          | .symbol ']' :: rest => some (.attribute name (test value), rest)
          | _ => none
      | [] => none

/-- Whether the positions among siblings of one type can be told for a type. -/
def isCountable : Option String → Bool
  | none => false
  | some name =>
      match name.toList with
      | [] => false
      | c :: rest =>
          (c.isAlpha || c == '_') && rest.all fun d =>
            d.isAlphanum || d == '_' || d == '.' || d == '-'

/-- The condition with a position among siblings of the given type. -/
def positional? (type : Option String) (ofType fromEnd : Bool) (series : Series) : Option Simple :=
  if ofType && !isCountable type then none else some (.position ofType fromEnd series)

/-- The name of a condition in lower case, with hyphens between its words. -/
def conditionName (name : String) : String :=
  String.ofList (name.toLower.toList.map fun c => if c = '_' then '-' else c)

/-- The condition of a name without arguments. -/
def condition? (position : Position) (compound : Compound) (name : String) : Option Simple :=
  match conditionName name with
  | "root" => some (.state .root)
  | "empty" => some (.state .empty)
  | "link" => some (.state .link)
  | "checked" => some (.state .checked)
  | "enabled" => some (.state .enabled)
  | "disabled" => some (.state .disabled)
  | "visited" | "hover" | "active" | "focus" | "target" => some (.state .never)
  | "first-child" => some (.position false false ⟨0, 1⟩)
  | "last-child" => some (.position false true ⟨0, 1⟩)
  | "first-of-type" => positional? compound.type true false ⟨0, 1⟩
  | "last-of-type" => positional? compound.type true true ⟨0, 1⟩
  | "only-child" => some (.only false)
  | "only-of-type" => if isCountable compound.type then some (.only true) else none
  | "scope" =>
      if position.isFirst || compound.type.isSome || !compound.conditions.isEmpty then some .scope
      else none
  | _ => none

/-- The arguments of a condition behind its opening parenthesis, and the tokens behind them. -/
def readArguments? : Nat → List Token → Option (List Token × List Token)
  | 0, _ => none
  | fuel + 1, tokens =>
      match skipBlank tokens with
      | .symbol ')' :: rest => some ([], rest)
      | token :: rest =>
          let isArgument := match token with
            | .ident _ | .string _ | .number _ | .symbol '+' | .symbol '-' => true
            | _ => false
          if isArgument then
            (readArguments? fuel rest).map fun (others, rest) => (token :: others, rest)
          else none
      | [] => none

/-- The series that arguments spell, which must not be strings. -/
def series? (arguments : List Token) : Option Series := do
  let pieces ← arguments.mapM fun token =>
    match token with
    | .ident name => some name
    | .number digits => some digits
    | .symbol c => some (String.singleton c)
    | _ => none
  Series.read? (String.join pieces).lowered

/-- The condition of a name with arguments. -/
def function? (type : Option String) (name : String) (arguments : List Token) : Option Simple :=
  match conditionName name, arguments with
  | "nth-child", _ => (series? arguments).bind (positional? type false false)
  | "nth-last-child", _ => (series? arguments).bind (positional? type false true)
  | "nth-of-type", _ => (series? arguments).bind (positional? type true false)
  | "nth-last-of-type", _ => (series? arguments).bind (positional? type true true)
  | "contains", [token] => (value? token).map .contains
  | "lang", [token] => do
      let range ← value? token
      if range = "" then none else some (.language range.lowered)
  | _, _ => none

mutual

/-- A compound and the tokens behind it; it takes at least one token. -/
def readCompound? (fuel : Nat) (position : Position) (tokens : List Token)
    : Option (Compound × List Token) :=
  match fuel with
  | 0 => none
  | fuel + 1 => do
      let front := skipBlank tokens
      let (type, rest) ← readType? front
      let isExplicit := rest.length < front.length
      let place := { position with isFirst := position.isFirst && !isExplicit }
      let (compound, rest) ← readConditions? fuel place (.mk type []) rest
      if rest.length < front.length then some (compound, rest) else none

/-- A compound with the conditions at the front of some tokens added, and the tokens behind them. -/
def readConditions? (fuel : Nat) (position : Position) (compound : Compound) (tokens : List Token)
    : Option (Compound × List Token) :=
  match fuel with
  | 0 => none
  | fuel + 1 =>
      let extended (condition : Simple) : Compound :=
        .mk compound.type (compound.conditions ++ [condition])
      match tokens with
      | [] => some (compound, [])
      | token :: rest =>
          if endsCompound position token then some (compound, token :: rest)
          else
            match token, rest with
            | .hash id, _ => readConditions? fuel position (extended (.id id)) rest
            | .symbol '.', .ident name :: rest =>
                readConditions? fuel position (extended (.classed name)) rest
            | .symbol '|', .ident name :: rest =>
                readConditions? fuel position (.mk (some name.lowered) []) rest
            | .symbol '[', _ => do
                let (condition, rest) ← readAttribute? rest
                readConditions? fuel position (extended condition) rest
            | .symbol ':', .ident name :: .symbol '(' :: rest => do
                let (condition, rest) ← readFunction? fuel position compound.type name rest
                readConditions? fuel position (extended condition) rest
            | .symbol ':', .ident name :: rest => do
                let condition ← condition? position compound name
                readConditions? fuel position (extended condition) rest
            | _, _ => none

/-- A condition with arguments behind its opening parenthesis, and the tokens behind it. -/
def readFunction? (fuel : Nat) (position : Position) (type : Option String) (name : String)
    (tokens : List Token)
    : Option (Simple × List Token) :=
  match fuel with
  | 0 => none
  | fuel + 1 =>
      match name.toLower with
      | "not" =>
          if position.isArgument then none
          else do
            let (compound, rest) ← readCompound? fuel ⟨true, true, false⟩ (skipBlank tokens)
            match rest with
            | .symbol ')' :: rest => some (.not compound, rest)
            | _ => none
      | "is" | "matches" | "where" => do
          let (compounds, rest) ← readAlternatives? fuel false (skipBlank tokens)
          some (.oneOf compounds, rest)
      | "has" => do
          let (start, rest) ←
            match skipBlank tokens with
            | [] => none
            | token :: rest =>
                match Combinator.ofSymbol? token with
                | some start => some (start, rest)
                | none => some (.descendant, token :: rest)
          let (target, rest) ← readComplex? fuel ⟨true, false, false⟩ rest
          match rest with
          | .symbol ')' :: rest => some (.has start target, rest)
          | _ => none
      | _ => do
          let (arguments, rest) ← readArguments? fuel tokens
          let condition ← function? type name arguments
          some (condition, rest)

/-- Compounds between commas up to a closing parenthesis, and the tokens behind it. -/
def readAlternatives? (fuel : Nat) (isLater : Bool) (tokens : List Token)
    : Option (List Compound × List Token) :=
  match fuel with
  | 0 => none
  | fuel + 1 => do
      let (compound, rest) ← readCompound? fuel ⟨true, true, isLater⟩ tokens
      match skipBlank rest with
      | .symbol ',' :: rest => do
          let (others, rest) ← readAlternatives? fuel true (skipBlank rest)
          some (compound :: others, rest)
      | .symbol ')' :: rest => some ([compound], rest)
      | _ => none

/-- A complex selector and the tokens behind it. -/
def readComplex? (fuel : Nat) (position : Position) (tokens : List Token)
    : Option (Complex × List Token) :=
  match fuel with
  | 0 => none
  | fuel + 1 => do
      let (compound, rest) ← readCompound? fuel position tokens
      readJoins? fuel { position with isFirst := false } (.compound compound) rest

/-- A complex selector with the compounds at the front of some tokens joined to it. -/
def readJoins? (fuel : Nat) (position : Position) (before : Complex) (tokens : List Token)
    : Option (Complex × List Token) :=
  match fuel with
  | 0 => none
  | fuel + 1 =>
      match skipBlank tokens with
      | [] => some (before, [])
      | token :: rest =>
          if token = .symbol ',' ∨ (position.isEnclosed = true ∧ token = .symbol ')') then
            some (before, token :: rest)
          else do
            let (combinator, rest) :=
              match Combinator.ofSymbol? token with
              | some combinator => (combinator, skipBlank rest)
              | none => (.descendant, token :: rest)
            let (compound, rest) ← readCompound? fuel position rest
            readJoins? fuel position (.join before combinator compound) rest

end

/-- Complex selectors between commas up to the end. -/
def readGroup? : Nat → List Token → Option Group
  | 0, _ => none
  | fuel + 1, tokens => do
      let (first, rest) ← readComplex? (4 * (tokens.length + 1)) ⟨false, false, true⟩ tokens
      match rest with
      | .symbol ',' :: rest => do
          let others ← readGroup? fuel (skipBlank rest)
          some (first :: others)
      | [] => some [first]
      | _ => none

/-- The group of selectors that a text spells. -/
def Group.read? (text : String) : Option Group :=
  let tokens := Token.scan text
  readGroup? (tokens.length + 1) (skipBlank tokens)

end HtmlQuery.Css
