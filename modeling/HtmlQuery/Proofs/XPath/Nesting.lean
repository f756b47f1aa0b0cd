import HtmlQuery.XPath.PredicateReader

/-! Rows of tokens in which every group is closed. A group is closed where it ends, and cutting a row
at separators never cuts into a group.
-/

namespace HtmlQuery.XPath

namespace Token

/-- Rows whose groups are all closed and that hold no separator outside of them. -/
inductive Nested : (Token → Bool) → List Token → Prop
  | nil {isSeparator} : Nested isSeparator []
  | plain {isSeparator token rest} (noOpener : token.kind.isOpener = false)
    (noCloser : token.kind.isCloser = false) (other : isSeparator token = false)
    (more : Nested isSeparator rest)
    : Nested isSeparator (token :: rest)
  | group {isSeparator opener inner closer rest}
    (pair : opener.kind.closer? = some closer.kind) (inside : Nested (fun _ => false) inner)
    (more : Nested isSeparator rest)
    : Nested isSeparator (opener :: (inner ++ closer :: rest))

/-- Rows whose groups are all closed. -/
abbrev Balanced : List Token → Prop :=
  Nested fun _ => false

variable {isSeparator : Token → Bool}

/-- A single token that no group begins or ends with. -/
theorem Nested.single {token : Token} (noOpener : token.kind.isOpener = false)
    (noCloser : token.kind.isCloser = false) (other : isSeparator token = false)
    : Nested isSeparator [token] :=
  .plain noOpener noCloser other .nil

/-- A row without groups and separators. -/
theorem Nested.of_plain {row : List Token}
    (flat : ∀ token ∈ row, token.kind.isOpener = false ∧ token.kind.isCloser = false)
    (none : ∀ token ∈ row, isSeparator token = false)
    : Nested isSeparator row := by
  induction row with
  | nil => exact .nil
  | cons token rest ih =>
      obtain ⟨noOpener, noCloser⟩ := flat token (by simp)
      refine .plain noOpener noCloser (none token (by simp)) (ih ?_ ?_)
      · exact fun other member => flat other (by simp [member])
      · exact fun other member => none other (by simp [member])

theorem Nested.append {left right : List Token} (first : Nested isSeparator left)
    (second : Nested isSeparator right)
    : Nested isSeparator (left ++ right) := by
  induction first with
  | nil => exact second
  | plain noOpener noCloser other _ ih => exact .plain noOpener noCloser other (ih second)
  | @group _ opener inner closer rest pair inside _ _ ih =>
      rw [List.cons_append, List.append_assoc, List.cons_append]
      exact .group pair inside (ih second)

theorem Nested.balanced {row : List Token} (nested : Nested isSeparator row) : Balanced row := by
  induction nested with
  | nil => exact .nil
  | plain noOpener noCloser _ _ ih => exact .plain noOpener noCloser rfl ih
  | group pair inside _ _ ih => exact .group pair inside ih

/-- What opens a group opens nothing that was opened before, and what closes it only closes. -/
theorem kinds_of_pair {opener closer : TokenKind} (pair : opener.closer? = some closer)
    : opener.isOpener = true ∧ closer.isOpener = false ∧ closer.isCloser = true := by
  cases opener <;> cases pair
  all_goals decide

-----------------------------------------------------------------------------------------
-- Closers
-----------------------------------------------------------------------------------------

theorem closingOffset?_opener {openers : List TokenKind} {opener : Token}
    (opens : opener.kind.isOpener = true) (rest : List Token)
    : closingOffset? openers (opener :: rest)
      = (closingOffset? (opener.kind :: openers) rest).map (· + 1) := by
  simp only [closingOffset?, opens, if_true]

theorem closingOffset?_closer {opener : TokenKind} {closer : Token} (outer : List TokenKind)
    (pair : opener.closer? = some closer.kind) (rest : List Token)
    : closingOffset? (opener :: outer) (closer :: rest)
      = if outer = [] then some 0 else (closingOffset? outer rest).map (· + 1) := by
  obtain ⟨-, noOpener, closes⟩ := kinds_of_pair pair
  simp only [closingOffset?, noOpener, closes, pair, Bool.false_eq_true, if_false, if_true]

theorem closingOffset?_plain {openers : List TokenKind} {token : Token}
    (noOpener : token.kind.isOpener = false) (noCloser : token.kind.isCloser = false)
    (rest : List Token)
    : closingOffset? openers (token :: rest) = (closingOffset? openers rest).map (· + 1) := by
  simp only [closingOffset?, noOpener, noCloser, Bool.false_eq_true, if_false]

/-- A row of closed groups closes none of those that are open before it, by induction on the row. -/
theorem closingOffset?_nested {row : List Token} (nested : Nested isSeparator row)
    {openers : List TokenKind} (some : openers ≠ []) (rest : List Token)
    : closingOffset? openers (row ++ rest)
      = (closingOffset? openers rest).map (· + row.length) := by
  induction nested generalizing openers rest with
  | nil => simp
  | plain noOpener noCloser _ _ ih =>
      rw [List.cons_append, closingOffset?_plain noOpener noCloser, ih some rest]
      simp [Function.comp_def, Nat.add_assoc]
  | @group _ opener inner closer more pair _ _ inside ih =>
      rw [List.cons_append, List.append_assoc, List.cons_append,
        closingOffset?_opener (kinds_of_pair pair).1, inside (by simp),
        closingOffset?_closer openers pair, if_neg some, ih some rest]
      simp only [Option.map_map, Function.comp_def, List.length_cons, List.length_append]
      congr 1
      funext offset
      omega

/-- A group is closed behind what is in it. -/
theorem closing?_group {opener closer : Token} {inner : List Token}
    (pair : opener.kind.closer? = some closer.kind) (inside : Nested isSeparator inner)
    (rest : List Token)
    : closing? (opener :: (inner ++ closer :: rest)) 0 = some (inner.length + 1) := by
  rw [closing?, List.drop_zero, closingOffset?_opener (kinds_of_pair pair).1,
    closingOffset?_nested inside (by simp), closingOffset?_closer [] pair, if_pos rfl]
  simp

-----------------------------------------------------------------------------------------
-- Groups that are closed
-----------------------------------------------------------------------------------------

/-- Rows that close some open groups, which are given by their openers, innermost first. -/
inductive Closes : List TokenKind → List Token → Prop
  | nil : Closes [] []
  | cons {opener outer inner closer rest} (pair : opener.closer? = some closer.kind)
    (inside : Balanced inner) (more : Closes outer rest)
    : Closes (opener :: outer) (inner ++ closer :: rest)

/-- More tokens in front of the innermost closer belong to the innermost group. -/
theorem Closes.prepend {opener : TokenKind} {outer : List TokenKind} {front row : List Token}
    (balanced : Balanced front) (closes : Closes (opener :: outer) row)
    : Closes (opener :: outer) (front ++ row) := by
  cases closes with
  | @cons _ _ inner closer rest pair inside more =>
      rw [← List.append_assoc]
      exact .cons pair (balanced.append inside) more

/-- Where the outermost group is closed, all groups are, by induction on the tokens. -/
theorem closes_of_closingOffset? {openers : List TokenKind} {tokens : List Token} {offset : Nat}
    (some : openers ≠ []) (found : closingOffset? openers tokens = .some offset)
    : ∃ row rest, tokens = row ++ rest ∧ row.length = offset + 1 ∧ Closes openers row := by
  induction tokens generalizing openers offset with
  | nil => cases found
  | cons token tokens ih =>
      obtain ⟨opener, outer, rfl⟩ := List.exists_cons_of_ne_nil some
      cases opens : token.kind.isOpener with
      | true =>
          rw [closingOffset?_opener opens] at found
          obtain ⟨inner, within, rfl⟩ := Option.map_eq_some_iff.mp found
          obtain ⟨row, rest, rfl, length, closes⟩ := ih (by simp) within
          cases closes with
          | @cons _ _ inside closer behind pair balanced more =>
              refine ⟨token :: (inside ++ closer :: behind), rest, rfl, congrArg (· + 1) length, ?_⟩
              have group : Balanced (token :: (inside ++ closer :: [])) := .group pair balanced .nil
              simpa using more.prepend group
      | false =>
          cases closer : token.kind.isCloser with
          | true =>
              simp only [closingOffset?, opens, closer, Bool.false_eq_true, if_false, if_true]
                at found
              split at found
              · rename_i pair
                split at found
                · rename_i last
                  cases found
                  exact ⟨[token], tokens, rfl, rfl, last ▸ .cons pair .nil .nil⟩
                · rename_i further
                  obtain ⟨inner, within, rfl⟩ := Option.map_eq_some_iff.mp found
                  obtain ⟨row, rest, rfl, length, closes⟩ := ih further within
                  exact ⟨token :: row, rest, rfl, congrArg (· + 1) length,
                    .cons pair .nil closes⟩
              · cases found
          | false =>
              rw [closingOffset?_plain opens closer] at found
              obtain ⟨inner, within, rfl⟩ := Option.map_eq_some_iff.mp found
              obtain ⟨row, rest, rfl, length, closes⟩ := ih some within
              have plain : Balanced [token] := .plain opens closer rfl .nil
              exact ⟨token :: row, rest, rfl, congrArg (· + 1) length, closes.prepend plain⟩

/-- The group that an opener begins is closed by its partner, with closed groups in between. -/
theorem group_of_closing? {opener : Token} (opens : opener.kind.isOpener = true)
    {tokens : List Token} {closing : Nat} (found : closing? (opener :: tokens) 0 = some closing)
    : ∃ inner closer rest,
        tokens = inner ++ closer :: rest
        ∧ closing = inner.length + 1
        ∧ opener.kind.closer? = some closer.kind
        ∧ Balanced inner := by
  simp only [closing?, List.drop_zero, Nat.zero_add, Option.map_id'] at found
  rw [closingOffset?_opener opens] at found
  obtain ⟨offset, within, rfl⟩ := Option.map_eq_some_iff.mp found
  obtain ⟨row, rest, rfl, length, closes⟩ := closes_of_closingOffset? (by simp) within
  cases closes with
  | @cons _ _ inner closer behind pair inside more =>
      cases more
      refine ⟨inner, closer, rest, by simp, ?_, pair, inside⟩
      simpa using length.symm

end Token

-----------------------------------------------------------------------------------------
-- Separators
-----------------------------------------------------------------------------------------

namespace Partition

/-- The partition with more tokens in front of its first part. -/
def pushAll (row : List Token) (partition : Partition) : Partition :=
  { partition with first := row ++ partition.first }

/-- The partition with one more separator and the part behind it. -/
def extend (partition : Partition) (separator : Token) (part : List Token) : Partition :=
  { partition with others := partition.others ++ [(separator, part)] }

/-- Two partitions one behind the other, with a separator in between. -/
def join (partition : Partition) (separator : Token) (behind : Partition) : Partition :=
  { partition with others := partition.others ++ (separator, behind.first) :: behind.others }

theorem parts_join (partition : Partition) (separator : Token) (behind : Partition)
    : (partition.join separator behind).parts = partition.parts ++ behind.parts := by
  simp [parts, join]

/-- The tokens of a partition in their order. -/
def whole (partition : Partition) : List Token :=
  partition.first ++ partition.others.flatMap fun other => other.fst :: other.snd

end Partition

namespace Token

variable {isSeparator : Token → Bool}

/-- Within a group nothing is cut, by induction on the row. -/
theorem partitionFrom_inside {inner : Token → Bool} {row : List Token} (nested : Nested inner row)
    {depth : Int} (inside : 0 < depth) (rest : List Token)
    : partitionFrom isSeparator depth (row ++ rest)
      = (partitionFrom isSeparator depth rest).pushAll row := by
  induction nested generalizing depth rest with
  | nil => rfl
  | plain noOpener noCloser _ _ ih =>
      have noCut : depth ≠ 0 := by omega
      rw [List.cons_append, partitionFrom, noOpener, noCloser]
      simp only [Bool.false_eq_true, if_false, noCut, false_and]
      rw [ih inside rest]
      rfl
  | @group _ opener row closer more pair _ _ within ih =>
      obtain ⟨opens, noOpener, closes⟩ := kinds_of_pair pair
      rw [List.cons_append, List.append_assoc, List.cons_append, partitionFrom, opens, if_pos rfl,
        within (by omega), partitionFrom, noOpener, closes]
      simp only [Bool.false_eq_true, if_false, if_true, Int.add_sub_cancel]
      rw [ih inside rest]
      simp [Partition.push, Partition.pushAll]

/-- A group belongs to one part. -/
theorem partition_group {opener closer : Token} {inner : List Token}
    (pair : opener.kind.closer? = some closer.kind) (inside : Nested (fun _ => false) inner)
    (rest : List Token)
    : partition isSeparator (opener :: (inner ++ closer :: rest))
      = (partition isSeparator rest).pushAll (opener :: (inner ++ [closer])) := by
  obtain ⟨opens, noOpener, closes⟩ := kinds_of_pair pair
  rw [partition, partitionFrom, opens, if_pos rfl, partitionFrom_inside inside (by omega),
    partitionFrom, noOpener, closes]
  simp [partition, Partition.push, Partition.pushAll]

/-- A row without separators belongs to one part, by induction on the row. -/
theorem partition_nested {row : List Token} (nested : Nested isSeparator row) (rest : List Token)
    : partition isSeparator (row ++ rest) = (partition isSeparator rest).pushAll row := by
  induction nested with
  | nil => rfl
  | plain noOpener noCloser other _ ih =>
      rw [List.cons_append, partition, partitionFrom, noOpener, noCloser, other]
      simp only [Bool.false_eq_true, and_false, if_false]
      rw [← partition, ih]
      rfl
  | group pair inside _ _ ih =>
      rw [List.cons_append, List.append_assoc, List.cons_append, partition_group pair inside, ih]
      simp [Partition.pushAll]

/-- A row without separators is not cut. -/
theorem partition_eq {row : List Token} (nested : Nested isSeparator row)
    : partition isSeparator row = ⟨row, []⟩ := by
  have whole := partition_nested nested []
  rw [List.append_nil] at whole
  rw [whole, partition, partitionFrom]
  simp [Partition.pushAll]

/-- A separator at the front makes an empty part. -/
theorem partition_separator {separator : Token} (noOpener : separator.kind.isOpener = false)
    (noCloser : separator.kind.isCloser = false) (separates : isSeparator separator = true)
    (rest : List Token)
    : partition isSeparator (separator :: rest)
      = (partition isSeparator rest).separate separator := by
  rw [partition, partitionFrom, noOpener, noCloser, separates]
  simp [partition]

/-- Cutting loses nothing, and it only takes place at separators, by induction on the tokens. -/
theorem whole_partitionFrom (depth : Int) (tokens : List Token)
    : (partitionFrom isSeparator depth tokens).whole = tokens
      ∧ ∀ other ∈ (partitionFrom isSeparator depth tokens).others, isSeparator other.fst = true := by
  induction tokens generalizing depth with
  | nil => simp [partitionFrom, Partition.whole]
  | cons token rest ih =>
      have pushed (depth : Int)
          : ((partitionFrom isSeparator depth rest).push token).whole = token :: rest
            ∧ ∀ other ∈ ((partitionFrom isSeparator depth rest).push token).others,
              isSeparator other.fst = true :=
        ⟨congrArg (token :: ·) (ih depth).1, (ih depth).2⟩
      rw [partitionFrom]
      split
      · exact pushed _
      · split
        · exact pushed _
        · split
          · rename_i cut
            refine ⟨congrArg (token :: ·) (ih depth).1, ?_⟩
            intro other member
            rcases List.mem_cons.mp member with rfl | member
            · exact cut.2
            · exact (ih depth).2 other member
          · exact pushed _

/-- What stands on both sides of a separator is cut on its own, by induction on the row in front. -/
theorem partition_join {row : List Token} (balanced : Nested (fun _ => false) row)
    {separator : Token} (noOpener : separator.kind.isOpener = false)
    (noCloser : separator.kind.isCloser = false) (separates : isSeparator separator = true)
    (more : List Token)
    : partition isSeparator (row ++ separator :: more)
      = (partition isSeparator row).join separator (partition isSeparator more) := by
  generalize unlimited : (fun _ => false : Token → Bool) = noSeparator at balanced
  induction balanced with
  | nil =>
      rw [List.nil_append, partition_separator noOpener noCloser separates]
      rfl
  | @plain _ token rest noOpener' noCloser' _ _ ih =>
      have later := ih unlimited
      rw [List.cons_append, partition, partition, partitionFrom, partitionFrom, noOpener',
        noCloser']
      simp only [Bool.false_eq_true, if_false, true_and]
      rw [← partition, ← partition, later]
      cases isSeparator token <;> rfl
  | @group _ opener inner closer rest pair inside _ _ ih =>
      have later := ih unlimited
      rw [List.cons_append, List.append_assoc, List.cons_append, partition_group pair inside,
        partition_group pair inside, later]
      rfl

/-- What stands behind the last separator is the last part. -/
theorem partition_extend {row more : List Token} (balanced : Nested (fun _ => false) row)
    {separator : Token} (noOpener : separator.kind.isOpener = false)
    (noCloser : separator.kind.isCloser = false) (separates : isSeparator separator = true)
    (last : Nested isSeparator more)
    : partition isSeparator (row ++ separator :: more)
      = (partition isSeparator row).extend separator more := by
  rw [partition_join balanced noOpener noCloser separates, partition_eq last]
  rfl

-----------------------------------------------------------------------------------------
-- Function calls
-----------------------------------------------------------------------------------------

/-- What stands between a parenthesis and its partner. -/
theorem parenthesized?_group {start place : Nat} {sign sign' : String} {inner : List Token}
    (inside : Nested isSeparator inner)
    : parenthesized? (⟨start, .openParen, sign⟩ :: (inner ++ [⟨place, .closeParen, sign'⟩]))
      = some inner := by
  have closes
      : closing? (⟨start, .openParen, sign⟩ :: (inner ++ ⟨place, .closeParen, sign'⟩ :: [])) 0
        = some (inner.length + 1) :=
    closing?_group rfl inside []
  rw [parenthesized?, closes, if_pos (by simp), List.dropLast_concat]

/-- Parentheses around tokens are partners. -/
theorem group_of_parenthesized? {tokens inner : List Token}
    (found : parenthesized? tokens = some inner)
    : ∃ opener closer,
        tokens = opener :: (inner ++ [closer])
        ∧ opener.kind = .openParen
        ∧ closer.kind = .closeParen
        ∧ Balanced inner := by
  unfold parenthesized? at found
  split at found
  · split at found
    · rename_i last
      cases found
      obtain ⟨inner, closer, behind, rfl, length, pair, inside⟩ := group_of_closing? rfl last
      obtain rfl : behind = [] := by
        rw [List.length_append, List.length_cons] at length
        exact List.length_eq_zero_iff.mp (by omega)
      rw [List.dropLast_concat]
      exact ⟨_, closer, rfl, rfl, (Option.some.inj pair).symm, inside⟩
    · cases found
  · cases found

/-- Whether a token stands between the arguments of a call. -/
abbrev isComma (token : Token) : Bool :=
  token.kind == .comma

/-- The arguments of a call are the parts between the commas. -/
theorem call?_group {position start place : Nat} {function sign sign' : String}
    {inner : List Token} (inside : Nested isSeparator inner)
    : call? (⟨position, .name, function⟩ :: ⟨start, .openParen, sign⟩
        :: (inner ++ [⟨place, .closeParen, sign'⟩]))
      = some (function, if inner = [] then [] else (partition isComma inner).parts) := by
  rw [call?, parenthesized?_group inside]
  cases inner <;> rfl

/-- A call is a name and a group behind it, so it is only cut where its name is. -/
theorem nested_of_call? {tokens : List Token} {function : String} {arguments : List (List Token)}
    (found : call? tokens = some (function, arguments)) (isSeparator : Token → Bool)
    : ∃ position rest,
        tokens = ⟨position, .name, function⟩ :: rest
        ∧ 2 ≤ rest.length
        ∧ Nested isSeparator rest := by
  unfold call? at found
  split at found
  · rename_i position name behind
    obtain ⟨inner, inside, rfl⟩ : ∃ inner, parenthesized? behind = some inner ∧ name = function := by
      split at found
      · rename_i inside
        cases found
        exact ⟨_, inside, rfl⟩
      · rename_i inside
        cases found
        exact ⟨_, inside, rfl⟩
      · cases found
    obtain ⟨opener, closer, rfl, opens, closes, balanced⟩ := group_of_parenthesized? inside
    refine ⟨position, _, rfl, by simp, .group ?_ balanced .nil⟩
    rw [opens, closes]
    rfl
  · cases found

end Token

end HtmlQuery.XPath
