import HtmlQuery.Proofs.XPath.OuterSeparators
import HtmlQuery.Proofs.XPath.PredicateCases

/-! Reading a predicate whose groups are all closed. Cutting it keeps every group in one piece, so no row
that is read on has a group of which it only holds one end.
-/

namespace HtmlQuery.XPath

namespace Token

-----------------------------------------------------------------------------------------
-- Parts that are read on
-----------------------------------------------------------------------------------------

theorem sparesBrackets_isComma : SparesBrackets isComma :=
  sparesBrackets_of_kind ⟨rfl, rfl⟩ fun token separates => by simpa using separates

/-- What stands between an opener and its partner consists of closed groups. -/
theorem balanced_of_closing? {opener : Token} {rest : List Token} {closing : Nat}
    (opens : opener.kind.isOpener = true) (found : closing? (opener :: rest) 0 = some closing)
    : Balanced (rest.take (closing - 1)) := by
  obtain ⟨inner, closer, behind, rfl, rfl, -, inside⟩ := group_of_closing? opens found
  rw [Nat.add_sub_cancel, List.take_left]
  exact inside

theorem balanced_of_parenthesized? {tokens inner : List Token}
    (found : parenthesized? tokens = some inner)
    : Balanced inner := by
  obtain ⟨_, _, -, -, -, inside⟩ := group_of_parenthesized? found
  exact inside

/-- The arguments of a call consist of closed groups. -/
theorem balanced_of_call? {tokens : List Token} {function : String}
    {arguments : List (List Token)} (found : call? tokens = some (function, arguments))
    {argument : List Token} (member : argument ∈ arguments)
    : Balanced argument := by
  unfold call? at found
  split at found
  · split at found
    · cases found
      cases member
    · rename_i inner _ inside
      cases found
      have splits := splitsExactly_partition sparesBrackets_isComma
        (balanced_of_parenthesized? inside)
      exact (splits.parts argument member).1
    · cases found
  · cases found

end Token

namespace Predicate

open Token (Balanced SparesBrackets)

theorem sparesBrackets_separates (connective : Connective)
    : SparesBrackets (separates connective) := by
  refine Token.sparesBrackets_of_kind ⟨rfl, rfl⟩ fun token word => (?_ : token.kind = .name)
  simp only [separates, Token.isKeyword, Bool.and_eq_true, beq_iff_eq] at word
  exact word.1

-----------------------------------------------------------------------------------------
-- One step of reading
-----------------------------------------------------------------------------------------

variable (reader : List Token → Except Refusal Predicate)

/-- Joins the operands of a connective, each of them read by the given reader. -/
def joinOperands (connective : Connective) (partition : Partition) : Except Refusal Predicate :=
  if partition.parts.any List.isEmpty then .error .unsupported
  else do
    joinAll connective (← partition.parts.mapM reader)

/-- Reads a function call; an argument that is a predicate is left to the given reader. -/
def readCallWith (function : String) (arguments : List (List Token)) : Except Refusal Predicate :=
  match function, arguments with
  | "last", [] => .ok .last
  | "not", [argument] => do .ok (.not (← reader argument))
  | function, [subject, value] =>
      match StringTest.ofName? function with
      | some test => readStringTest test subject value
      | none => .error .unsupported
  | _, _ => .error .unsupported

/-- Reads a predicate without connectives; predicates within it are left to the given reader. -/
def readOperandWith (tokens : List Token) : Except Refusal Predicate :=
  match atom? tokens with
  | some predicate => .ok predicate
  | none =>
      match Token.parenthesized? tokens with
      | some inner => reader inner
      | none =>
          let sides := Token.partition (fun token => token.kind == .relation) tokens
          match sides.others with
          | [(sign, right)] => readComparison sides.first sign right
          | _ :: _ => .error .unsupported
          | [] =>
              match Token.call? tokens with
              | some (function, arguments) => readCallWith reader function arguments
              | none => .error .unsupported

/-- One step of reading a predicate; predicates within it are left to the given reader. -/
def readWith (tokens : List Token) : Except Refusal Predicate :=
  if (Token.partition (separates .or) tokens).others ≠ [] then
    joinOperands reader .or (Token.partition (separates .or) tokens)
  else if (Token.partition (separates .and) tokens).others ≠ [] then
    joinOperands reader .and (Token.partition (separates .and) tokens)
  else readOperandWith reader tokens

/-- Reading is this step with itself as the reader. -/
theorem readWith_read : readWith read = read := by
  funext tokens
  rw [read_eq]
  rfl

variable {reader} {reader' : List Token → Except Refusal Predicate}

theorem joinOperands_congr {connective : Connective} {partition : Partition}
    (same : ∀ part ∈ partition.parts, reader part = reader' part)
    : joinOperands reader connective partition = joinOperands reader' connective partition := by
  rw [joinOperands, joinOperands, mapM_congr same]

theorem readCallWith_congr {function : String} {arguments : List (List Token)}
    (same : ∀ argument ∈ arguments, reader argument = reader' argument)
    : readCallWith reader function arguments = readCallWith reader' function arguments := by
  unfold readCallWith
  split
  · rfl
  · rw [same _ List.mem_cons_self]
  · rfl
  · rfl

theorem readOperandWith_congr {tokens : List Token}
    (inside : ∀ inner, Token.parenthesized? tokens = some inner → reader inner = reader' inner)
    (within : ∀ function arguments, Token.call? tokens = some (function, arguments) →
      ∀ argument ∈ arguments, reader argument = reader' argument)
    : readOperandWith reader tokens = readOperandWith reader' tokens := by
  unfold readOperandWith
  cases atom? tokens with
  | some => rfl
  | none =>
      cases group : Token.parenthesized? tokens with
      | some inner => exact inside inner group
      | none =>
          cases call : Token.call? tokens with
          | none => rfl
          | some pair =>
              obtain ⟨function, arguments⟩ := pair
              simp only [readCallWith_congr (within function arguments call)]

/-- A step only goes on with shorter rows of closed groups, if it is put to a row of closed groups. -/
theorem readWith_congr {tokens : List Token} (balanced : Balanced tokens)
    (same : ∀ row, Balanced row → row.length < tokens.length → reader row = reader' row)
    : readWith reader tokens = readWith reader' tokens := by
  have operands (connective : Connective)
      (several : (Token.partition (separates connective) tokens).others ≠ [])
      : joinOperands reader connective (Token.partition (separates connective) tokens)
        = joinOperands reader' connective (Token.partition (separates connective) tokens) := by
    refine joinOperands_congr fun part member => same part ?_ ?_
    · have splits := Token.splitsExactly_partition (sparesBrackets_separates connective) balanced
      exact (splits.parts part member).1
    · exact Token.length_lt_of_mem_parts several member
  unfold readWith
  split
  · rename_i several
    exact operands .or several
  · split
    · rename_i several
      exact operands .and several
    · refine readOperandWith_congr ?_ ?_
      · intro inner group
        exact same inner (Token.balanced_of_parenthesized? group)
          (Token.length_of_parenthesized? group)
      · intro function arguments call argument member
        have length := Token.length_of_call? call member
        exact same argument (Token.balanced_of_call? call member) (by omega)

/-- Only rows of closed groups matter for reading one of them: a reader that takes the same steps on such
rows reads them alike, whatever it makes of others. By induction on the length of the row.
-/
theorem eq_read_of_steps
    (steps : ∀ row, Balanced row → reader row = readWith reader row) (tokens : List Token)
    (balanced : Balanced tokens)
    : reader tokens = read tokens := by
  rw [steps tokens balanced, ← readWith_read]
  refine readWith_congr balanced fun row balanced' shorter => ?_
  exact eq_read_of_steps steps row balanced'
  termination_by tokens.length

end Predicate

namespace Token

/--
A row of closed groups is cut exactly at the separators that no group stands around. So whoever reads
predicates only meets rows of closed groups: a predicate's own tokens, which stand between partners, the
arguments of a function call, and all predicates that are read within a predicate.
-/
theorem partition_exact
    : (∀ (isSeparator : Token → Bool) (tokens : List Token), Balanced tokens →
        (∀ token, isSeparator token = true →
          token.kind.isOpener = false ∧ token.kind.isCloser = false) →
        SplitsExactly isSeparator tokens (partition isSeparator tokens))
      ∧ (∀ (opener : Token) (rest : List Token) (closing : Nat), opener.kind.isOpener = true →
        closing? (opener :: rest) 0 = some closing → Balanced (rest.take (closing - 1)))
      ∧ (∀ (tokens : List Token) (function : String) (arguments : List (List Token)),
        call? tokens = some (function, arguments) → ∀ argument ∈ arguments, Balanced argument)
      ∧ (∀ (reader : List Token → Except Refusal Predicate) (tokens : List Token),
        Balanced tokens →
        (∀ row, Balanced row → row.length < tokens.length → reader row = Predicate.read row) →
        Predicate.readWith reader tokens = Predicate.read tokens)
      ∧ ∀ reader : List Token → Except Refusal Predicate,
        (∀ row, Balanced row → reader row = Predicate.readWith reader row) →
        ∀ tokens, Balanced tokens → reader tokens = Predicate.read tokens := by
  refine ⟨fun isSeparator tokens balanced spares => ?_, fun opener rest closing => ?_,
    fun tokens function arguments found argument => ?_, fun reader tokens balanced same => ?_,
    fun reader steps => ?_⟩
  · exact splitsExactly_partition spares balanced
  · exact balanced_of_closing?
  · exact balanced_of_call? found
  · rw [Predicate.readWith_congr balanced same, Predicate.readWith_read]
  · exact Predicate.eq_read_of_steps steps

/-- Of the commas in `a,(b,c)` one is outside of the parentheses, and so is that of the arguments in
`f(a,b)`. What is read of `a or (b)` does not depend on rows as long as itself, nor on such with open
groups.
-/
theorem partition_exact_enclosed
    : SplitsExactly isComma
        [⟨0, .name, "a"⟩, ⟨1, .comma, ","⟩, ⟨2, .openParen, "("⟩, ⟨3, .name, "b"⟩, ⟨4, .comma, ","⟩,
          ⟨5, .name, "c"⟩, ⟨6, .closeParen, ")"⟩]
        ⟨[⟨0, .name, "a"⟩],
          [(⟨1, .comma, ","⟩, [⟨2, .openParen, "("⟩, ⟨3, .name, "b"⟩, ⟨4, .comma, ","⟩,
            ⟨5, .name, "c"⟩, ⟨6, .closeParen, ")"⟩])]⟩
      ∧ Balanced [⟨1, .name, "a"⟩]
      ∧ Balanced [⟨4, .name, "b"⟩]
      ∧ Predicate.readWith
          (fun row => if row.length < 5 then Predicate.read row else .error .unsupported)
          [⟨0, .name, "a"⟩, ⟨2, .name, "or"⟩, ⟨5, .openParen, "("⟩, ⟨6, .name, "b"⟩,
            ⟨7, .closeParen, ")"⟩]
        = Predicate.read [⟨0, .name, "a"⟩, ⟨2, .name, "or"⟩, ⟨5, .openParen, "("⟩, ⟨6, .name, "b"⟩,
            ⟨7, .closeParen, ")"⟩]
      ∧ (if Balanced [⟨0, .openParen, "("⟩, ⟨1, .name, "a"⟩, ⟨2, .closeParen, ")"⟩]
          then Predicate.read [⟨0, .openParen, "("⟩, ⟨1, .name, "a"⟩, ⟨2, .closeParen, ")"⟩]
          else .ok .last)
        = Predicate.read [⟨0, .openParen, "("⟩, ⟨1, .name, "a"⟩, ⟨2, .closeParen, ")"⟩] := by
  obtain ⟨splits, content, arguments, step, run⟩ := partition_exact
  refine ⟨?_, ?_, ?_, ?_, ?_⟩
  · exact splits isComma _ (by decide) sparesBrackets_isComma
  · exact content ⟨0, .openBracket, "["⟩ [⟨1, .name, "a"⟩, ⟨2, .closeBracket, "]"⟩] 2 rfl rfl
  · exact arguments [⟨0, .name, "f"⟩, ⟨1, .openParen, "("⟩, ⟨2, .name, "a"⟩, ⟨3, .comma, ","⟩,
      ⟨4, .name, "b"⟩, ⟨5, .closeParen, ")"⟩] "f" [[⟨2, .name, "a"⟩], [⟨4, .name, "b"⟩]] rfl _
      (by simp)
  · exact step _ _ (by decide) fun row _ shorter => if_pos shorter
  · refine run (fun row => if Balanced row then Predicate.read row else .ok .last) ?_ _ (by decide)
    intro row balanced
    have same := step (fun row => if Balanced row then Predicate.read row else .ok .last) row
      balanced fun other balanced' _ => if_pos balanced'
    rw [same]
    exact if_pos balanced

end Token

end HtmlQuery.XPath
