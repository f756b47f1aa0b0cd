import HtmlQuery.XPath.PredicateReader

/-! The three levels at which a predicate is read: operands of `or`, operands of `and`, and what is
neither. Nothing else needs to look into the recursion.
-/

namespace HtmlQuery.XPath.Predicate

/-- Whether a token is the word of a connective. -/
abbrev separates (connective : Connective) : Token → Bool :=
  Token.isKeyword connective.word

/-- Reads the operands of a connective and joins them. -/
def readOperands (connective : Connective) (partition : Partition) : Except Refusal Predicate :=
  if partition.parts.any List.isEmpty then .error .unsupported
  else do
    joinAll connective (← partition.parts.mapM read)

/-- Reads a function call that is no side of a comparison. -/
def readCall (function : String) (arguments : List (List Token)) : Except Refusal Predicate :=
  match function, arguments with
  | "last", [] => .ok .last
  | "not", [argument] => do .ok (.not (← read argument))
  | function, [subject, value] =>
      match StringTest.ofName? function with
      | some test => readStringTest test subject value
      | none => .error .unsupported
  | _, _ => .error .unsupported

/-- Reads a predicate that has no connective outside of its groups. -/
def readOperand (tokens : List Token) : Except Refusal Predicate :=
  match atom? tokens with
  | some predicate => .ok predicate
  | none =>
      match Token.parenthesized? tokens with
      | some inner => read inner
      | none =>
          let sides := Token.partition (fun token => token.kind == .relation) tokens
          match sides.others with
          | [(sign, right)] => readComparison sides.first sign right
          | _ :: _ => .error .unsupported
          | [] =>
              match Token.call? tokens with
              | some (function, arguments) => readCall function arguments
              | none => .error .unsupported

/-- Reads a comparison whose subject is the node's text or a function call. -/
def readSource (subject : List Token) (relation : Relation) (literal : Literal)
    : Except Refusal Predicate :=
  if isTextSource subject then
    (equality relation).map fun equality => .textIs false equality literal.asText
  else
    (Token.call? subject).elim (.error .unsupported) fun call =>
      readCallComparison call.fst call.snd relation literal

/-- Whether tokens name an attribute. -/
def isAttribute (tokens : List Token) : Bool :=
  tokens.map Token.kind == [.atSign, .name]

theorem eq_of_isAttribute {tokens : List Token} (named : isAttribute tokens = true)
    : ∃ start sign place name, tokens = [⟨start, .atSign, sign⟩, ⟨place, .name, name⟩] := by
  rcases tokens with - | ⟨⟨start, kind, sign⟩, - | ⟨⟨place, kind', name⟩, - | ⟨third, rest⟩⟩⟩
  · cases named
  · simp [isAttribute] at named
  · obtain ⟨rfl, rfl⟩ : kind = .atSign ∧ kind' = .name := by simpa [isAttribute] using named
    exact ⟨start, sign, place, name, rfl⟩
  · simp [isAttribute] at named

/-- A subject is an attribute, or else it is the node's text or a function call. -/
theorem readSubject_other {subject : List Token} (other : isAttribute subject = false)
    (relation : Relation) (literal : Literal)
    : readSubject subject relation literal = readSource subject relation literal := by
  rw [readSource]
  unfold readSubject
  split
  · cases other
  · split
    · cases equality relation <;> rfl
    · cases Token.call? subject <;> rfl

/-- A part of an attribute is tested, or else one of the node's text. -/
theorem readStringTest_other {subject : List Token} (other : isAttribute subject = false)
    (test : StringTest) (value : List Token)
    : readStringTest test subject value
      = if isTextSource subject then (textArgument value).map (.textTest test)
        else .error .unsupported := by
  unfold readStringTest
  split
  · cases other
  · split
    · cases textArgument value <;> rfl
    · rfl

theorem mapM_congr {ε α β : Type} {f g : α → Except ε β} {items : List α}
    (same : ∀ item ∈ items, f item = g item)
    : items.mapM f = items.mapM g := by
  induction items with
  | nil => rfl
  | cons item rest ih =>
      rw [List.mapM_cons, List.mapM_cons, same item (by simp),
        ih fun other member => same other (by simp [member])]

theorem mapM_attach_read (parts : List (List Token))
    : (parts.attach.mapM fun ⟨part, _⟩ => read part) = parts.mapM read := by
  rw [List.mapM_subtype (g := read) (fun _ _ => rfl), List.unattach_attach]

/-- A predicate is split at the outermost `or`, else at the outermost `and`. -/
theorem read_eq (tokens : List Token)
    : read tokens
      = if (Token.partition (separates .or) tokens).others ≠ [] then
          readOperands .or (Token.partition (separates .or) tokens)
        else if (Token.partition (separates .and) tokens).others ≠ [] then
          readOperands .and (Token.partition (separates .and) tokens)
        else readOperand tokens := by
  rw [read]
  simp only [mapM_attach_read, dite_eq_ite]
  congr 2
  unfold readOperand
  cases atom? tokens with
  | some => rfl
  | none =>
      cases Token.parenthesized? tokens with
      | some => rfl
      | none =>
          simp only
          cases (Token.partition (fun token => token.kind == .relation) tokens).others with
          | nil =>
              cases Token.call? tokens with
              | none => rfl
              | some call =>
                  obtain ⟨function, arguments⟩ := call
                  simp only [readCall]
                  split <;> split <;> simp_all
          | cons other others => rcases others with - | ⟨_, _⟩ <;> rfl

end HtmlQuery.XPath.Predicate
