import HtmlQuery.XPath.Bracket
import HtmlQuery.XPath.Fault
import HtmlQuery.XPath.Path

/-!
Reading predicates from tokens. `or` binds weaker than `and`, both group to the left. Whatever has
none of the known forms is refused as unsupported; only an integer that is too large is a fault.
-/

namespace HtmlQuery.XPath

/-- Why tokens are no predicate. -/
inductive Refusal where
  | unsupported
  | fault (fault : Fault)
  deriving DecidableEq, Repr

/-- A literal operand. -/
inductive Literal where
  | text (value : String)
  | number (value : Number)
  deriving DecidableEq, Repr

namespace Literal

/-- The literal that a row of tokens consists of. -/
def ofTokens? : List Token → Option Literal
  | [⟨_, .string, literal⟩] => some (text (Token.unquote literal))
  | [⟨_, .number, literal⟩] => some (number (Number.read literal))
  | _ => none

/-- A literal in a comparison of texts. -/
def asText : Literal → String
  | text value => value
  | number value => value.text

/-- A literal in a comparison of numbers. -/
def asNumber : Literal → Except Refusal Number
  | number value => .ok value
  | text _ => .error .unsupported

end Literal

namespace Predicate

/-- Whether tokens stand for the text of the node: a dot or `text()`. -/
def isTextSource (tokens : List Token) : Bool :=
  match tokens with
  | [⟨_, .dot, _⟩] => true
  | _ => Token.call? tokens == some ("text", [])

/-- Whether the arguments of a function are missing or stand for the text of the node. -/
def takesOwnText (arguments : List (List Token)) : Bool :=
  match arguments with
  | [] => true
  | [source] => isTextSource source
  | _ => false

/-- An argument that has to be a text; a number stands for its own spelling. -/
def textArgument : List Token → Except Refusal String
  | [⟨_, .string, literal⟩] => .ok (Token.unquote literal)
  | [⟨_, .number, literal⟩] => .ok literal
  | _ => .error .unsupported

/-- An argument that has to be a number; its fraction is cut off. -/
def integerArgument : List Token → Except Refusal Nat
  | [⟨_, .number, literal⟩] =>
      match (Number.read literal).floor? with
      | some value => .ok value
      | none => .error (.fault .infiniteInteger)
  | _ => .error .unsupported

/-- The equality that a relation stands for in a comparison of texts. -/
def equality (relation : Relation) : Except Refusal Equality :=
  match Equality.ofRelation? relation with
  | some equality => .ok equality
  | none => .error .unsupported

/-- A comparison whose subject is a part of the node's text. -/
def readTextPart (function : String) (arguments : List (List Token)) (equality : Equality)
    (value : String)
    : Except Refusal Predicate :=
  match function, arguments with
  | "substring", [start] => do
      .ok (.substring (← integerArgument start) none equality value)
  | "substring", [start, length] => do
      let first ← integerArgument start
      let count ← integerArgument length
      .ok (.substring first (some count) equality value)
  | "substring-after", [delimiter] => do
      .ok (.substringAfter (← textArgument delimiter) equality value)
  | "substring-before", [delimiter] => do
      .ok (.substringBefore (← textArgument delimiter) equality value)
  | "translate", [source, target] => do
      let sources ← textArgument source
      let targets ← textArgument target
      .ok (.translated (CharacterMap.ofTexts sources targets) equality value)
  | _, _ => .error .unsupported

/-- A comparison whose subject is a function call. -/
def readCallComparison (function : String) (arguments : List (List Token)) (relation : Relation)
    (literal : Literal)
    : Except Refusal Predicate :=
  if function = "position" ∧ arguments = [] then do
    .ok (.position relation (← literal.asNumber))
  else if function = "count" ∧ arguments.length = 1 then
    match arguments with
    | [[⟨_, .name, name⟩]] => do .ok (.count name relation (← literal.asNumber))
    | _ => .error .unsupported
  else if function = "string-length" ∧ takesOwnText arguments then do
    .ok (.textLength relation (← literal.asNumber))
  else if function = "normalize-space" ∧ takesOwnText arguments then do
    .ok (.textIs true (← equality relation) literal.asText)
  else
    match arguments with
    | source :: others =>
        if isTextSource source then do
          readTextPart function others (← equality relation) literal.asText
        else .error .unsupported
    | [] => .error .unsupported

/-- The comparison of a subject with a literal. -/
def readSubject (subject : List Token) (relation : Relation) (literal : Literal)
    : Except Refusal Predicate :=
  match subject with
  | [⟨_, .atSign, _⟩, ⟨_, .name, name⟩] => do
      .ok (.attributeIs name (← equality relation) literal.asText)
  | _ =>
      if isTextSource subject then do
        .ok (.textIs false (← equality relation) literal.asText)
      else
        match Token.call? subject with
        | some (function, arguments) => readCallComparison function arguments relation literal
        | none => .error .unsupported

/-- A comparison with a literal on one side; one on the left side changes places with its subject.
-/
def readComparison (left : List Token) (sign : Token) (right : List Token)
    : Except Refusal Predicate :=
  if left = [] ∨ right = [] then .error .unsupported
  else
    match Relation.ofText? sign.text with
    | none => .error .unsupported
    | some relation =>
        match Literal.ofTokens? right, Literal.ofTokens? left with
        | some literal, _ => readSubject left relation literal
        | none, some literal => readSubject right relation.swapped literal
        | none, none => .error .unsupported

/-- A test of a part of an attribute's value or of the node's text. -/
def readStringTest (test : StringTest) (subject value : List Token) : Except Refusal Predicate :=
  match subject with
  | [⟨_, .atSign, _⟩, ⟨_, .name, name⟩] => do
      .ok (.attributeTest test name (← textArgument value))
  | _ =>
      if isTextSource subject then do .ok (.textTest test (← textArgument value))
      else .error .unsupported

end Predicate

namespace Token

theorem push_parts (token : Token) (partition : Partition)
    : (partition.push token).parts = (token :: partition.first) :: partition.others.map Prod.snd :=
  rfl

theorem separate_parts (token : Token) (partition : Partition)
    : (partition.separate token).parts = [] :: partition.parts :=
  rfl

/-- No part is longer than the whole, and all are shorter if there is a separator. -/
theorem length_of_mem_parts (isSeparator : Token → Bool) (depth : Int) (tokens part : List Token)
    (h : part ∈ (partitionFrom isSeparator depth tokens).parts)
    : part.length + (partitionFrom isSeparator depth tokens).others.length ≤ tokens.length := by
  induction tokens generalizing depth part with
  | nil =>
      simp only [partitionFrom, Partition.parts, List.map_nil, List.mem_singleton] at h ⊢
      subst h
      simp
  | cons token rest ih =>
      have pushed (depth : Int)
          (h : part ∈ ((partitionFrom isSeparator depth rest).push token).parts)
          : part.length + ((partitionFrom isSeparator depth rest).push token).others.length
            ≤ rest.length + 1 := by
        rw [push_parts, List.mem_cons] at h
        have first := ih depth (partitionFrom isSeparator depth rest).first (by simp [Partition.parts])
        rcases h with h | h
        · subst h
          simp only [List.length_cons, Partition.push]
          omega
        · have := ih depth part (by simp only [Partition.parts, List.mem_cons]; exact Or.inr h)
          simp only [Partition.push]
          omega
      simp only [partitionFrom] at h ⊢
      split at h
      · rename_i opens
        simpa [opens] using pushed _ h
      · rename_i opens
        split at h
        · rename_i closes
          simpa [opens, closes] using pushed _ h
        · rename_i closes
          split at h
          · rename_i cut
            obtain ⟨rfl, cut⟩ := cut
            rw [separate_parts, List.mem_cons] at h
            have first := ih 0 (partitionFrom isSeparator 0 rest).first (by simp [Partition.parts])
            simp only [opens, closes, cut, and_self, if_true, if_false, Bool.false_eq_true,
              Partition.separate, List.length_cons]
            rcases h with h | h
            · subst h
              simp only [List.length_nil]
              omega
            · have := ih 0 part h
              omega
          · rename_i cut
            simpa [opens, closes, cut] using pushed _ h

/-- The parts between separators are shorter than the whole. -/
theorem length_lt_of_mem_parts {isSeparator : Token → Bool} {tokens part : List Token}
    (several : (partition isSeparator tokens).others ≠ [])
    (h : part ∈ (partition isSeparator tokens).parts)
    : part.length < tokens.length := by
  have bound := length_of_mem_parts isSeparator 0 tokens part h
  have positive : 0 < (partition isSeparator tokens).others.length := List.length_pos_iff.2 several
  simp only [partition] at bound positive
  omega

/-- What stands between parentheses is shorter than the whole. -/
theorem length_of_parenthesized? {tokens inner : List Token} (h : parenthesized? tokens = some inner)
    : inner.length + 1 ≤ tokens.length := by
  unfold parenthesized? at h
  split at h
  · split at h
    · cases h
      simp only [List.length_dropLast, List.length_cons]
      omega
    · cases h
  · cases h

/-- An argument of a call is shorter than the call. -/
theorem length_of_call? {tokens argument : List Token} {function : String}
    {arguments : List (List Token)} (h : call? tokens = some (function, arguments))
    (member : argument ∈ arguments)
    : argument.length + 2 ≤ tokens.length := by
  unfold call? at h
  split at h
  · split at h
    · cases h
      cases member
    · rename_i inner _ found
      cases h
      have outer := length_of_parenthesized? found
      have within := length_of_mem_parts (fun token => token.kind == .comma) 0 inner argument member
      simp only [List.length_cons]
      omega
    · cases h
  · cases h

end Token

namespace Predicate

/-- Predicates joined from the left. -/
def joinAll (connective : Connective) : List Predicate → Except Refusal Predicate
  | [] => .error .unsupported
  | first :: others => .ok (others.foldl (.join connective) first)

/-- The predicates of one or two tokens: a position, an attribute or an element below. -/
def atom? : List Token → Option Predicate
  | [⟨_, .number, literal⟩] => some (.position .equal (Number.read literal))
  | [⟨_, .atSign, _⟩, ⟨_, .name, name⟩] => some (.hasAttribute name)
  | [⟨_, .name, name⟩] => some (.hasDescendant name)
  | _ => none

/-- Reads the content of a predicate. -/
def read (tokens : List Token) : Except Refusal Predicate :=
  let disjuncts := Token.partition (Token.isKeyword Connective.or.word) tokens
  let conjuncts := Token.partition (Token.isKeyword Connective.and.word) tokens
  if _ : disjuncts.others ≠ [] then
    if disjuncts.parts.any List.isEmpty then .error .unsupported
    else do
      joinAll .or (← disjuncts.parts.attach.mapM fun ⟨part, _⟩ => read part)
  else if _ : conjuncts.others ≠ [] then
    if conjuncts.parts.any List.isEmpty then .error .unsupported
    else do
      joinAll .and (← conjuncts.parts.attach.mapM fun ⟨part, _⟩ => read part)
  else
    match atom? tokens with
    | some predicate => .ok predicate
    | none =>
        match _ : Token.parenthesized? tokens with
        | some inner => read inner
        | none =>
            let sides := Token.partition (fun token => token.kind == .relation) tokens
            match sides.others with
            | [(sign, right)] => readComparison sides.first sign right
            | _ :: _ => .error .unsupported
            | [] =>
                match _ : Token.call? tokens with
                | some ("last", []) => .ok .last
                | some ("not", [argument]) => do .ok (.not (← read argument))
                | some (function, [subject, value]) =>
                    match StringTest.ofName? function with
                    | some test => readStringTest test subject value
                    | none => .error .unsupported
                | _ => .error .unsupported
  termination_by tokens.length
  decreasing_by
    · exact Token.length_lt_of_mem_parts ‹_› ‹_›
    · exact Token.length_lt_of_mem_parts ‹_› ‹_›
    · have := Token.length_of_parenthesized? ‹_›
      omega
    · rename_i found
      have := Token.length_of_call? found (List.mem_singleton.2 rfl)
      omega

end Predicate

end HtmlQuery.XPath
