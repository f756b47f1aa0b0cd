import HtmlQuery.JmesPath.Expression
import HtmlQuery.JmesPath.Token

/-!
Reading queries. Every token binds with some power to what stands in front of it; an expression goes
on as long as the next token binds more strongly than demanded. Commas between arguments and between
members may be missing.
-/

namespace HtmlQuery.JmesPath

/-- How strongly the first token binds to what stands in front of it. -/
def bindingPower : List Token → Nat
  | .pipe :: _ => 1
  | .or :: _ => 2
  | .and :: _ => 3
  | .equal :: _ | .unequal :: _ | .less :: _ | .lessOrEqual :: _ | .greater :: _
  | .greaterOrEqual :: _ => 5
  | .flatten :: _ => 9
  | .star :: _ => 20
  | .filter :: _ => 21
  | .dot :: _ => 40
  | .not :: _ => 45
  | .openBrace :: _ => 50
  | .openBracket :: _ => 55
  | .openParen :: _ => 60
  | _ => 0

/-- The least power of a token that doesn't end a projection. -/
def projectionPower : Nat := 10

/-- The comparison that a token stands for. -/
def relation? : Token → Option Relation
  | .less => some .less
  | .lessOrEqual => some .lessOrEqual
  | .greater => some .greater
  | .greaterOrEqual => some .greaterOrEqual
  | .equal => some .equal
  | .unequal => some .unequal
  | _ => none

/-- The parts of a slice behind the opening bracket, and the tokens behind the closing one. -/
def readSlice? (done : List (Option Int)) (part : Option Int)
    : List Token → Option (Expression × List Token)
  | .closeBracket :: rest =>
      match done ++ [part] with
      | [start, stop] => some (.slice start stop none, rest)
      | [start, stop, step] => some (.slice start stop step, rest)
      | _ => none
  | .colon :: rest => if 2 ≤ done.length then none else readSlice? (done ++ [part]) none rest
  | .number value :: rest => readSlice? done (some value) rest
  | _ => none

/-- Whether some tokens behind an opening bracket are an index or a slice. -/
def startsAccess : List Token → Bool
  | .number _ :: _ => true
  | .colon :: _ => true
  | _ => false

/-- An index or a slice behind the opening bracket, and the tokens behind the closing one. -/
def readAccess? : List Token → Option (Expression × List Token)
  | .number position :: .closeBracket :: rest => some (.index position, rest)
  | .number position :: .colon :: rest => readSlice? [] none (.number position :: .colon :: rest)
  | .colon :: rest => readSlice? [] none (.colon :: rest)
  | _ => none

/-- The tokens behind a closing bracket at the front. -/
def closeBracket? : List Token → Option (List Token)
  | .closeBracket :: rest => some rest
  | _ => none

mutual

/-- An expression that goes on as long as tokens bind more strongly than demanded. -/
def readExpression? (fuel power : Nat) (tokens : List Token) : Option (Expression × List Token) :=
  match fuel with
  | 0 => none
  | fuel + 1 => do
      let (left, rest) ← readFront? fuel tokens
      continue? fuel power left rest

/-- What a token at the front of an expression begins. -/
def readFront? (fuel : Nat) (tokens : List Token) : Option (Expression × List Token) :=
  match fuel with
  | 0 => none
  | fuel + 1 =>
      match tokens with
      | .literal value :: rest => some (.literal value, rest)
      | .name _ true :: .openParen :: _ => none
      | .name name _ :: rest => some (.field name, rest)
      | .current :: rest => some (.current, rest)
      | .star :: .closeBracket :: rest =>
          some (.projectValues .current .current, .closeBracket :: rest)
      | .star :: rest => do
          let (right, rest) ← readProjected? fuel 20 rest
          some (.projectValues .current right, rest)
      | .filter :: rest => readFilter? fuel .current rest
      | .openBrace :: rest => readMembers? fuel [] [] rest
      | .openParen :: rest => do
          let (inner, rest) ← readExpression? fuel 0 rest
          match rest with
          | .closeParen :: rest => some (inner, rest)
          | _ => none
      | .flatten :: rest => do
          let (right, rest) ← readProjected? fuel 9 rest
          some (.project (.flatten .current) right, rest)
      | .not :: rest => do
          let (operand, rest) ← readExpression? fuel 45 rest
          some (.not operand, rest)
      | .reference :: rest => do
          let (query, rest) ← readExpression? fuel 0 rest
          some (.reference query, rest)
      | .openBracket :: .star :: .closeBracket :: rest => do
          let (right, rest) ← readProjected? fuel 20 rest
          some (.project .current right, rest)
      | .openBracket :: rest =>
          if startsAccess rest then do
            let (access, rest) ← readAccess? rest
            projectSlice? fuel .current access rest
          else readList? fuel [] rest
      | _ => none

/-- An expression with all that follows and binds more strongly than demanded. -/
def continue? (fuel power : Nat) (left : Expression) (tokens : List Token)
    : Option (Expression × List Token) :=
  match fuel with
  | 0 => none
  | fuel + 1 =>
      if power < bindingPower tokens then do
        let (longer, rest) ← extend? fuel left tokens
        continue? fuel power longer rest
      else some (left, tokens)

/-- An expression with what the next token adds to it. -/
def extend? (fuel : Nat) (left : Expression) (tokens : List Token)
    : Option (Expression × List Token) :=
  match fuel with
  | 0 => none
  | fuel + 1 =>
      match tokens with
      | .dot :: .star :: rest => do
          let (right, rest) ← readProjected? fuel 40 rest
          some (.projectValues left right, rest)
      | .dot :: rest => do
          let (right, rest) ← readMember? fuel 40 rest
          some (.chain left right, rest)
      | .pipe :: rest => do
          let (right, rest) ← readExpression? fuel 1 rest
          some (.chain left right, rest)
      | .or :: rest => do
          let (right, rest) ← readExpression? fuel 2 rest
          some (.either left right, rest)
      | .and :: rest => do
          let (right, rest) ← readExpression? fuel 3 rest
          some (.both left right, rest)
      | .filter :: rest => readFilter? fuel left rest
      | .flatten :: rest => do
          let (right, rest) ← readProjected? fuel 9 rest
          some (.project (.flatten left) right, rest)
      | .openParen :: rest =>
          match left with
          | .field function => do
              let (arguments, rest) ← readArguments? fuel [] rest
              some (.call function arguments, rest)
          | _ => none
      | .openBracket :: .star :: .closeBracket :: rest => do
          let (right, rest) ← readProjected? fuel 20 rest
          some (.project left right, rest)
      | .openBracket :: rest =>
          if startsAccess rest then do
            let (access, rest) ← readAccess? rest
            match left with
            | .indexed _ _ => some (.indexed left access, rest)
            | _ => projectSlice? fuel left access rest
          else none
      | token :: rest => do
          let relation ← relation? token
          let (right, rest) ← readExpression? fuel 5 rest
          some (.compare relation left right, rest)
      | [] => none

/-- An index of a result, or a slice with what is put to its items. -/
def projectSlice? (fuel : Nat) (base access : Expression) (tokens : List Token)
    : Option (Expression × List Token) :=
  match fuel with
  | 0 => none
  | fuel + 1 =>
      match access with
      | .slice _ _ _ => do
          let (right, rest) ← readProjected? fuel 20 tokens
          some (.project (.indexed base access) right, rest)
      | _ => some (.indexed base access, tokens)

/-- What is put to the items of a projection. -/
def readProjected? (fuel power : Nat) (tokens : List Token) : Option (Expression × List Token) :=
  match fuel with
  | 0 => none
  | fuel + 1 =>
      if bindingPower tokens < projectionPower then some (.current, tokens)
      else
        match tokens with
        | .openBracket :: _ => readExpression? fuel power tokens
        | .filter :: _ => readExpression? fuel power tokens
        | .dot :: rest => readMember? fuel power rest
        | _ => none

/-- What may stand behind a dot. -/
def readMember? (fuel power : Nat) (tokens : List Token) : Option (Expression × List Token) :=
  match fuel with
  | 0 => none
  | fuel + 1 =>
      match tokens with
      | .name _ _ :: _ => readExpression? fuel power tokens
      | .star :: _ => readExpression? fuel power tokens
      | .openBracket :: rest => readList? fuel [] rest
      | .openBrace :: rest => readMembers? fuel [] [] rest
      | _ => none

/-- A condition behind its opening bracket and what is put to the items that satisfy it. -/
def readFilter? (fuel : Nat) (left : Expression) (tokens : List Token)
    : Option (Expression × List Token) :=
  match fuel with
  | 0 => none
  | fuel + 1 => do
      let (condition, rest) ← readExpression? fuel 0 tokens
      let rest ← closeBracket? rest
      match rest with
      | .flatten :: _ => some (.projectFiltered left .current condition, rest)
      | _ => do
          let (right, rest) ← readProjected? fuel 21 rest
          some (.projectFiltered left right condition, rest)

/-- The items of a list behind its opening bracket. -/
def readList? (fuel : Nat) (items : List Expression) (tokens : List Token)
    : Option (Expression × List Token) :=
  match fuel with
  | 0 => none
  | fuel + 1 => do
      let (item, rest) ← readExpression? fuel 0 tokens
      match rest with
      | .closeBracket :: rest => some (.list (items ++ [item]), rest)
      | .comma :: rest => readList? fuel (items ++ [item]) rest
      | _ => none

/-- Members behind an opening brace. -/
def readMembers? (fuel : Nat) (names : List String) (values : List Expression)
    (tokens : List Token)
    : Option (Expression × List Token) :=
  match fuel with
  | 0 => none
  | fuel + 1 =>
      match tokens with
      | .name name _ :: .colon :: rest => do
          let (value, rest) ← readExpression? fuel 0 rest
          let names := names ++ [name]
          let values := values ++ [value]
          match rest with
          | .comma :: rest => readMembers? fuel names values rest
          | .closeBrace :: rest => some (.members names values, rest)
          | _ => readMembers? fuel names values rest
      | _ => none

/-- The arguments of a function behind the opening parenthesis. -/
def readArguments? (fuel : Nat) (arguments : List Expression) (tokens : List Token)
    : Option (List Expression × List Token) :=
  match fuel with
  | 0 => none
  | fuel + 1 =>
      match tokens with
      | .closeParen :: rest => some (arguments, rest)
      | _ => do
          let (argument, rest) ← readExpression? fuel 0 tokens
          match rest with
          | .comma :: rest => readArguments? fuel (arguments ++ [argument]) rest
          | _ => readArguments? fuel (arguments ++ [argument]) rest

end

/-- The query that a text spells. -/
def Expression.read? (query : String) : Option Expression := do
  let tokens ← Token.scan? query
  let (expression, rest) ← readExpression? (8 * (tokens.length + 2)) 0 tokens
  if rest.isEmpty then some expression else none

end HtmlQuery.JmesPath
