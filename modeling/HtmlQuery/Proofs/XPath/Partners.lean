import HtmlQuery.Proofs.XPath.Nesting
import Mathlib.Data.List.Induction

/-! Openers and the closers that belong to them. The search from an opener finds its partner wherever
there is one; where there is none, either the row ends within the group, or a closer of another kind
comes first.
-/

namespace HtmlQuery.XPath.Token

/-- Whether the token at one index opens a group that the token at another one closes: the closer is of
the opener's kind, and all groups in between are closed.
-/
def Partners (tokens : List Token) (first last : Nat) : Prop :=
  ∃ front opener inner closer rest,
    tokens = front ++ opener :: (inner ++ closer :: rest)
    ∧ first = front.length
    ∧ last = first + inner.length + 1
    ∧ opener.kind.closer? = some closer.kind
    ∧ Balanced inner

/-- Rows that leave groups open, which are given by their openers, innermost first. -/
inductive LeavesOpen : List TokenKind → List Token → Prop
  | none {row} (balanced : Balanced row) : LeavesOpen [] row
  | group {outer front opener inner} (before : LeavesOpen outer front)
    (opens : opener.kind.isOpener = true) (inside : Balanced inner)
    : LeavesOpen (opener.kind :: outer) (front ++ opener :: inner)

/-- Whether the row behind an opener ends before the opener's group is closed. -/
def EndsWithin (row : List Token) : Prop :=
  ∃ openers, LeavesOpen openers row

/-- Whether the row behind an opener of the given kind has a closer that comes while a group of another
kind is the innermost open one.
-/
def Interrupted (opener : TokenKind) (row : List Token) : Prop :=
  ∃ openers front closer rest,
    row = front ++ closer :: rest
    ∧ LeavesOpen openers front
    ∧ closer.kind.isCloser = true
    ∧ (openers.head?.getD opener).closer? ≠ some closer.kind

-----------------------------------------------------------------------------------------
-- Searching behind any index
-----------------------------------------------------------------------------------------

theorem drop_of_stands {tokens : List Token} {index : Nat} {token : Token}
    (stands : tokens[index]? = some token)
    : tokens.drop index = token :: tokens.drop (index + 1) := by
  obtain ⟨bound, rfl⟩ := List.getElem?_eq_some_iff.mp stands
  exact List.drop_eq_getElem_cons bound

theorem closing?_append (front row : List Token)
    : closing? (front ++ row) front.length = (closing? row 0).map (front.length + ·) := by
  simp [closing?]

/-- Only an opener has a partner. -/
theorem Partners.opener {tokens : List Token} {first last : Nat}
    (partners : Partners tokens first last)
    : ∃ opener, tokens[first]? = some opener ∧ opener.kind.isOpener = true := by
  obtain ⟨front, opener, inner, closer, rest, rfl, rfl, -, pair, -⟩ := partners
  exact ⟨opener, by simp, (kinds_of_pair pair).1⟩

theorem Partners.lt {tokens : List Token} {first last : Nat}
    (partners : Partners tokens first last)
    : first < last := by
  obtain ⟨-, -, -, -, -, -, -, rfl, -, -⟩ := partners
  omega

/-- A partner is what the search finds, so there is only one. -/
theorem Partners.closing?_eq {tokens : List Token} {first last : Nat}
    (partners : Partners tokens first last)
    : closing? tokens first = some last := by
  obtain ⟨front, opener, inner, closer, rest, rfl, rfl, rfl, pair, inside⟩ := partners
  rw [closing?_append, closing?_group pair inside rest, Option.map_some, Nat.add_assoc]

/-- What the search finds from an opener is its partner. -/
theorem partners_of_closing? {tokens : List Token} {first last : Nat} {opener : Token}
    (stands : tokens[first]? = some opener) (opens : opener.kind.isOpener = true)
    (found : closing? tokens first = some last)
    : Partners tokens first last := by
  obtain ⟨front, row, rfl, rfl⟩ : ∃ front row,
      tokens = front ++ opener :: row ∧ first = front.length := by
    have bound : first < tokens.length := (List.getElem?_eq_some_iff.mp stands).1
    refine ⟨tokens.take first, tokens.drop (first + 1), ?_, ?_⟩
    · rw [← drop_of_stands stands, List.take_append_drop]
    · rw [List.length_take_of_le (Nat.le_of_lt bound)]
  rw [closing?_append] at found
  obtain ⟨closing, behind, rfl⟩ := Option.map_eq_some_iff.mp found
  obtain ⟨inner, closer, rest, rfl, rfl, pair, inside⟩ := group_of_closing? opens behind
  exact ⟨front, opener, inner, closer, rest, rfl, rfl, by omega, pair, inside⟩

/-- All groups of a row are closed if parentheses around it are partners. -/
theorem balanced_iff {row : List Token}
    : Balanced row
      ↔ closing? (⟨0, .openParen, "("⟩ :: (row ++ [⟨0, .closeParen, ")"⟩])) 0
        = some (row.length + 1) := by
  constructor
  · intro balanced
    exact closing?_group rfl balanced []
  · intro found
    obtain ⟨inner, closer, rest, shape, length, -, inside⟩ := group_of_closing? rfl found
    obtain ⟨rfl, -⟩ := List.append_inj shape (by omega)
    exact inside

instance (row : List Token) : Decidable (Balanced row) :=
  decidable_of_iff _ balanced_iff.symm

-----------------------------------------------------------------------------------------
-- Groups that stay open
-----------------------------------------------------------------------------------------

theorem LeavesOpen.append {openers : List TokenKind} {row more : List Token}
    (leaves : LeavesOpen openers row) (balanced : Balanced more)
    : LeavesOpen openers (row ++ more) := by
  cases leaves with
  | none front => exact .none (front.append balanced)
  | group before opens inside =>
      rw [List.append_assoc, List.cons_append]
      exact .group before opens (inside.append balanced)

/-- The closer of the innermost open group leaves the others open. -/
theorem LeavesOpen.close {opener : TokenKind} {outer : List TokenKind} {row : List Token}
    (leaves : LeavesOpen (opener :: outer) row) {closer : Token}
    (pair : opener.closer? = some closer.kind)
    : LeavesOpen outer (row ++ [closer]) := by
  cases leaves with
  | @group _ front opener inner before opens inside =>
      have group : Balanced (opener :: (inner ++ closer :: [])) := .group pair inside .nil
      simpa using before.append group

/-- Behind a row the search goes on with the groups that the row leaves open, by induction on these. -/
theorem closingOffset?_leavesOpen {openers : List TokenKind} {row : List Token}
    (leaves : LeavesOpen openers row) {outer : List TokenKind} (some : outer ≠ [])
    (rest : List Token)
    : closingOffset? outer (row ++ rest)
      = (closingOffset? (openers ++ outer) rest).map (· + row.length) := by
  induction leaves generalizing rest with
  | none balanced => exact closingOffset?_nested balanced some rest
  | @group _ front opener inner _ opens inside ih =>
      rw [List.append_assoc, List.cons_append, ih, closingOffset?_opener opens,
        closingOffset?_nested inside (by simp)]
      simp only [Option.map_map, Function.comp_def, List.length_append, List.length_cons,
        List.cons_append]
      congr 1
      funext offset
      omega

/-- A row leaves groups open, or it has a closer that fits no group which is open there. By induction
on the row from the right, since the last token meets the groups that are open in front of it.
-/
theorem leavesOpen_or_stray (row : List Token)
    : (∃ openers, LeavesOpen openers row)
      ∨ ∃ openers front closer rest,
        row = front ++ closer :: rest
        ∧ LeavesOpen openers front
        ∧ closer.kind.isCloser = true
        ∧ ∀ opener ∈ openers.head?, opener.closer? ≠ some closer.kind := by
  induction row using List.reverseRecOn with
  | nil => exact .inl ⟨[], .none .nil⟩
  | append_singleton row token ih =>
      rcases ih with ⟨openers, leaves⟩ | ⟨openers, front, closer, rest, rfl, stray⟩
      · cases opens : token.kind.isOpener with
        | true => exact .inl ⟨_, .group leaves opens .nil⟩
        | false =>
            cases closes : token.kind.isCloser with
            | false => exact .inl ⟨openers, leaves.append (.single opens closes rfl)⟩
            | true =>
                by_cases fits : ∃ opener ∈ openers.head?, opener.closer? = some token.kind
                · obtain ⟨opener, innermost, pair⟩ := fits
                  obtain ⟨outer, rfl⟩ : ∃ outer, openers = opener :: outer :=
                    List.head?_eq_some_iff.mp innermost
                  exact .inl ⟨outer, leaves.close pair⟩
                · push Not at fits
                  exact .inr ⟨openers, row, token, [], rfl, leaves, closes, fits⟩
      · exact .inr ⟨openers, front, closer, rest ++ [token], by simp, stray⟩

-----------------------------------------------------------------------------------------
-- The three ends of a search
-----------------------------------------------------------------------------------------

/-- Behind an opener its group is closed, or the row ends within it, or a wrong closer comes first. -/
theorem partner_cases (opener : Token) (row : List Token)
    : (∃ inner closer rest,
        row = inner ++ closer :: rest
        ∧ opener.kind.closer? = some closer.kind
        ∧ Balanced inner)
      ∨ EndsWithin row
      ∨ Interrupted opener.kind row := by
  rcases leavesOpen_or_stray row with ends | ⟨openers, front, closer, rest, rfl, leaves, closes, stray⟩
  · exact .inr (.inl ends)
  · cases leaves with
    | none balanced =>
        -- Only the opener itself is open here: the closer fits it, or it fits nothing.
        by_cases pair : opener.kind.closer? = some closer.kind
        · exact .inl ⟨front, closer, rest, rfl, pair, balanced⟩
        · exact .inr (.inr ⟨[], front, closer, rest, rfl, .none balanced, closes, pair⟩)
    | group before opens inside =>
        exact .inr (.inr ⟨_, _, closer, rest, rfl, .group before opens inside, closes, stray _ rfl⟩)

theorem EndsWithin.closingOffset?_eq {row : List Token} (ends : EndsWithin row)
    (opener : TokenKind)
    : closingOffset? [opener] row = none := by
  obtain ⟨openers, leaves⟩ := ends
  have search := closingOffset?_leavesOpen leaves (List.cons_ne_nil opener []) []
  rwa [List.append_nil, closingOffset?, Option.map_none] at search

theorem Interrupted.closingOffset?_eq {opener : TokenKind} {row : List Token}
    (interrupted : Interrupted opener row)
    : closingOffset? [opener] row = none := by
  obtain ⟨openers, front, closer, rest, rfl, leaves, closes, other⟩ := interrupted
  have noOpener : closer.kind.isOpener = false := by
    revert closes
    cases closer.kind <;> decide
  have innermost : ∃ outer, openers ++ [opener] = openers.head?.getD opener :: outer := by
    cases openers <;> simp
  obtain ⟨outer, shape⟩ := innermost
  rw [closingOffset?_leavesOpen leaves (List.cons_ne_nil opener []), shape, closingOffset?, noOpener,
    closes]
  simp [other]

/-- An opener has no partner exactly where the row ends within its group or a closer of another kind
comes first.
-/
theorem closing?_eq_none_iff {tokens : List Token} {start : Nat} {opener : Token}
    (stands : tokens[start]? = some opener) (opens : opener.kind.isOpener = true)
    : closing? tokens start = none
      ↔ EndsWithin (tokens.drop (start + 1)) ∨ Interrupted opener.kind (tokens.drop (start + 1)) := by
  rw [closing?, drop_of_stands stands, closingOffset?_opener opens, Option.map_eq_none_iff, Option.map_eq_none_iff]
  constructor
  · intro none
    rcases partner_cases opener (tokens.drop (start + 1)) with group | failure
    · obtain ⟨inner, closer, rest, shape, pair, inside⟩ := group
      rw [shape, closingOffset?_nested inside (by simp), closingOffset?_closer [] pair] at none
      cases none
    · exact failure
  · intro failure
    rcases failure with ends | interrupted
    · exact ends.closingOffset?_eq opener.kind
    · exact interrupted.closingOffset?_eq

/--
From an opener the search finds the only index behind it up to which brackets and parentheses nest
properly and at which the opener's group is closed. It finds nothing where there is no such index, that
is where the row ends first or a closer of the wrong kind comes first.
-/
theorem closing_iff_partner {tokens : List Token} {start : Nat} {opener : Token}
    (stands : tokens[start]? = some opener) (opens : opener.kind.isOpener = true)
    : (∀ last, closing? tokens start = some last
        ↔ start < last
          ∧ Partners tokens start last
          ∧ ∀ other, start < other → Partners tokens start other → other = last)
      ∧ (closing? tokens start = none ↔ ∀ last, start < last → ¬Partners tokens start last)
      ∧ ((∀ last, start < last → ¬Partners tokens start last)
        ↔ EndsWithin (tokens.drop (start + 1))
          ∨ Interrupted opener.kind (tokens.drop (start + 1))) := by
  have none : closing? tokens start = none ↔ ∀ last, start < last → ¬Partners tokens start last := by
    rw [Option.eq_none_iff_forall_ne_some]
    refine forall_congr' fun last => ⟨fun other _ partners => other partners.closing?_eq, ?_⟩
    intro noPartner found
    have partners := partners_of_closing? stands opens found
    exact noPartner partners.lt partners
  refine ⟨fun last => ⟨fun found => ?_, fun ⟨_, partners, _⟩ => partners.closing?_eq⟩, none, ?_⟩
  · have partners := partners_of_closing? stands opens found
    refine ⟨partners.lt, partners, fun other _ partners' => ?_⟩
    exact Option.some.inj (partners'.closing?_eq.symm.trans found)
  · rw [← none]
    exact closing?_eq_none_iff stands opens

/-- The bracket of `[(a)]]` is closed by the first one behind it; that of `[(])` has no partner, since
the parenthesis in it is still open there.
-/
theorem closing_iff_partner_crossed
    : (Partners [⟨0, .openBracket, "["⟩, ⟨1, .openParen, "("⟩, ⟨2, .name, "a"⟩,
            ⟨3, .closeParen, ")"⟩, ⟨4, .closeBracket, "]"⟩, ⟨5, .closeBracket, "]"⟩] 0 4)
      ∧ (∀ last, 0 < last →
        ¬Partners [⟨0, .openBracket, "["⟩, ⟨1, .openParen, "("⟩, ⟨2, .closeBracket, "]"⟩,
            ⟨3, .closeParen, ")"⟩] 0 last) := by
  constructor
  · obtain ⟨found, -, -⟩ := @closing_iff_partner
      [⟨0, .openBracket, "["⟩, ⟨1, .openParen, "("⟩, ⟨2, .name, "a"⟩, ⟨3, .closeParen, ")"⟩,
        ⟨4, .closeBracket, "]"⟩, ⟨5, .closeBracket, "]"⟩] 0 ⟨0, .openBracket, "["⟩ rfl rfl
    exact ((found 4).mp rfl).2.1
  · obtain ⟨-, none, -⟩ := @closing_iff_partner
      [⟨0, .openBracket, "["⟩, ⟨1, .openParen, "("⟩, ⟨2, .closeBracket, "]"⟩,
        ⟨3, .closeParen, ")"⟩] 0 ⟨0, .openBracket, "["⟩ rfl rfl
    exact none.mp rfl

end HtmlQuery.XPath.Token
