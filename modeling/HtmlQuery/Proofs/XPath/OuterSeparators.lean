import HtmlQuery.Proofs.XPath.Partners

/-! Rows cut at the separators that no group stands around. Where all groups of a row are closed, it is
cut exactly there, and all groups of the parts are closed as well.
-/

namespace HtmlQuery.XPath.Token

/-- Whether a group stands around an index. -/
def InGroup (tokens : List Token) (index : Nat) : Prop :=
  ∃ first last, Partners tokens first last ∧ first < index ∧ index < last

/-- Whether a group stands around an index can be told by looking for the partners in front of it. -/
theorem inGroup_iff {tokens : List Token} {index : Nat}
    : InGroup tokens index
      ↔ ∃ first, first < index
        ∧ tokens[first]?.any (·.kind.isOpener) = true
        ∧ (closing? tokens first).any (index < ·) = true := by
  simp only [Option.any_eq_true, decide_eq_true_eq]
  constructor
  · intro inGroup
    obtain ⟨first, last, partners, before, behind⟩ := inGroup
    exact ⟨first, before, partners.opener, last, partners.closing?_eq, behind⟩
  · intro found
    obtain ⟨first, before, ⟨opener, stands, opens⟩, last, found, behind⟩ := found
    exact ⟨first, last, partners_of_closing? stands opens found, before, behind⟩

instance (tokens : List Token) (index : Nat) : Decidable (InGroup tokens index) :=
  decidable_of_iff _ inGroup_iff.symm

/-- The indices of the separators that no group stands around. -/
def outerSeparators (isSeparator : Token → Bool) (tokens : List Token) : List Nat :=
  (List.range tokens.length).filter fun index =>
    tokens[index]?.any isSeparator && !decide (InGroup tokens index)

variable {isSeparator : Token → Bool}

-----------------------------------------------------------------------------------------
-- Partners in rows whose groups are closed
-----------------------------------------------------------------------------------------

theorem Partners.last_lt {tokens : List Token} {first last : Nat}
    (partners : Partners tokens first last)
    : last < tokens.length := by
  obtain ⟨front, opener, inner, closer, rest, rfl, rfl, rfl, -, -⟩ := partners
  simp only [List.length_append, List.length_cons]
  omega

/-- Partners stay partners within a longer row. -/
theorem Partners.within {tokens : List Token} {first last : Nat}
    (partners : Partners tokens first last) (before behind : List Token)
    : Partners (before ++ (tokens ++ behind)) (before.length + first) (before.length + last) := by
  obtain ⟨front, opener, inner, closer, rest, rfl, rfl, rfl, pair, inside⟩ := partners
  refine ⟨before ++ front, opener, inner, closer, rest ++ behind, ?_, ?_, ?_, pair, inside⟩
  · simp
  · simp
  · omega

/-- Whether every opener of a row has a partner in it. -/
def Paired (row : List Token) : Prop :=
  ∀ first opener, row[first]? = some opener → opener.kind.isOpener = true →
    ∃ last, Partners row first last

theorem Paired.single {token : Token} (noOpener : token.kind.isOpener = false)
    : Paired [token] := by
  intro first opener stands opens
  obtain rfl : opener = token := List.mem_singleton.mp (List.mem_of_getElem? stands)
  rw [noOpener] at opens
  cases opens

theorem Paired.append {front rest : List Token} (paired : Paired front) (paired' : Paired rest)
    : Paired (front ++ rest) := by
  intro first opener stands opens
  by_cases less : first < front.length
  · rw [List.getElem?_append_left less] at stands
    obtain ⟨last, partners⟩ := paired first opener stands opens
    exact ⟨_, by simpa using partners.within [] rest⟩
  · obtain ⟨place, rfl⟩ := Nat.exists_eq_add_of_le (Nat.le_of_not_lt less)
    rw [List.getElem?_append_right (Nat.le_add_right ..), Nat.add_sub_cancel_left] at stands
    obtain ⟨last, partners⟩ := paired' place opener stands opens
    exact ⟨_, by simpa using partners.within front []⟩

theorem Paired.group {opener closer : Token} {inner : List Token} (paired : Paired inner)
    (pair : opener.kind.closer? = some closer.kind) (inside : Balanced inner)
    : Paired (opener :: (inner ++ [closer])) := by
  intro first opener' stands opens
  cases first with
  | zero => exact ⟨_, [], opener, inner, closer, [], rfl, rfl, rfl, pair, inside⟩
  | succ first =>
      have behind : Paired (inner ++ [closer]) := paired.append (.single (kinds_of_pair pair).2.1)
      rw [List.getElem?_cons_succ] at stands
      obtain ⟨last, partners⟩ := behind first opener' stands opens
      have moved := partners.within [opener] []
      rw [List.append_nil, List.length_singleton, Nat.add_comm 1 first] at moved
      exact ⟨_, moved⟩

theorem group_append (opener closer : Token) (inner rest : List Token)
    : opener :: (inner ++ closer :: rest) = opener :: (inner ++ [closer]) ++ rest := by
  simp

/-- In a row of closed groups every opener has a partner, by induction on the row. -/
theorem Nested.paired {row : List Token} (nested : Nested isSeparator row) : Paired row := by
  induction nested with
  | nil => simp [Paired]
  | plain noOpener _ _ _ ih => exact (Paired.single noOpener).append ih
  | @group _ opener inner closer rest pair inside _ within behind =>
      rw [group_append]
      exact (within.group pair inside).append behind

/-- No group begins in a row of closed groups and ends behind it. -/
theorem partners_append {front rest : List Token} (balanced : Balanced front) {first last : Nat}
    (partners : Partners (front ++ rest) first last)
    : Partners front first last
      ∨ ∃ place closing,
        Partners rest place closing
        ∧ first = front.length + place
        ∧ last = front.length + closing := by
  by_cases less : first < front.length
  · -- The opener has a partner in `front` already, and partners are unique.
    obtain ⟨opener, stands, opens⟩ := partners.opener
    rw [List.getElem?_append_left less] at stands
    obtain ⟨closing, alone⟩ := balanced.paired first opener stands opens
    have whole : Partners (front ++ rest) first closing := by simpa using alone.within [] rest
    obtain rfl : closing = last :=
      Option.some.inj (whole.closing?_eq.symm.trans partners.closing?_eq)
    exact .inl alone
  · obtain ⟨before, opener, inner, closer, behind, shape, rfl, rfl, pair, inside⟩ := partners
    obtain ⟨between, rfl⟩ : front <+: before :=
      List.prefix_of_prefix_length_le ⟨rest, rfl⟩ ⟨_, shape.symm⟩ (by omega)
    rw [List.append_assoc, List.append_cancel_left_eq] at shape
    refine .inr ⟨between.length, between.length + inner.length + 1, ?_, by simp, by simp; omega⟩
    exact ⟨between, opener, inner, closer, behind, shape, rfl, rfl, pair, inside⟩

-----------------------------------------------------------------------------------------
-- Indices that groups stand around
-----------------------------------------------------------------------------------------

theorem inGroup_append_left {front rest : List Token} (balanced : Balanced front) {index : Nat}
    (less : index < front.length)
    : InGroup (front ++ rest) index ↔ InGroup front index := by
  constructor
  · intro inGroup
    obtain ⟨first, last, partners, before, behind⟩ := inGroup
    rcases partners_append balanced partners with alone | ⟨place, closing, -, rfl, -⟩
    · exact ⟨first, last, alone, before, behind⟩
    · omega
  · intro inGroup
    obtain ⟨first, last, partners, before, behind⟩ := inGroup
    exact ⟨first, last, by simpa using partners.within [] rest, before, behind⟩

theorem inGroup_append_right {front rest : List Token} (balanced : Balanced front) {index : Nat}
    : InGroup (front ++ rest) (front.length + index) ↔ InGroup rest index := by
  constructor
  · intro inGroup
    obtain ⟨first, last, partners, before, behind⟩ := inGroup
    rcases partners_append balanced partners with alone | ⟨place, closing, others, rfl, rfl⟩
    · have bound := alone.last_lt
      omega
    · exact ⟨place, closing, others, by omega, by omega⟩
  · intro inGroup
    obtain ⟨first, last, partners, before, behind⟩ := inGroup
    exact ⟨_, _, by simpa using partners.within front [], by omega, by omega⟩

/-- Separators outside of groups are those of a row of closed groups and those behind it. -/
theorem outerSeparators_append {front : List Token} (balanced : Balanced front)
    (rest : List Token)
    : outerSeparators isSeparator (front ++ rest)
      = outerSeparators isSeparator front
        ++ (outerSeparators isSeparator rest).map (front.length + ·) := by
  rw [outerSeparators, List.length_append, List.range_add, List.filter_append, List.filter_map]
  congr 1
  · refine List.filter_congr fun index member => ?_
    have less := List.mem_range.mp member
    rw [List.getElem?_append_left less, decide_eq_decide.mpr (inGroup_append_left balanced less)]
  · refine congrArg _ (List.filter_congr fun index member => ?_)
    simp only [Function.comp_apply]
    rw [List.getElem?_append_right (Nat.le_add_right ..), Nat.add_sub_cancel_left,
      decide_eq_decide.mpr (inGroup_append_right balanced)]

theorem outerSeparators_single (token : Token)
    : outerSeparators isSeparator [token] = if isSeparator token then [0] else [] := by
  have alone : ¬InGroup [token] 0 := by
    intro inGroup
    obtain ⟨first, last, -, before, -⟩ := inGroup
    omega
  simp [outerSeparators, alone, List.filter_cons]

/-- Whether a test holds of no bracket and no parenthesis. -/
def SparesBrackets (isSeparator : Token → Bool) : Prop :=
  ∀ token, isSeparator token = true → token.kind.isOpener = false ∧ token.kind.isCloser = false

theorem sparesBrackets_of_kind {kind : TokenKind}
    (plain : kind.isOpener = false ∧ kind.isCloser = false)
    (same : ∀ token, isSeparator token = true → token.kind = kind)
    : SparesBrackets isSeparator := by
  intro token separates
  rw [same token separates]
  exact plain

/-- A group holds no separator outside of itself: its ends are none, and it stands around the rest. -/
theorem outerSeparators_group (spares : SparesBrackets isSeparator) {opener closer : Token}
    {inner : List Token} (pair : opener.kind.closer? = some closer.kind) (inside : Balanced inner)
    : outerSeparators isSeparator (opener :: (inner ++ [closer])) = [] := by
  obtain ⟨opens, -, closes⟩ := kinds_of_pair pair
  refine List.filter_eq_nil_iff.mpr fun index member => ?_
  have bound := List.mem_range.mp member
  rw [List.length_cons, List.length_append, List.length_singleton] at bound
  simp only [Bool.and_eq_true, Bool.not_eq_true', decide_eq_false_iff_not, not_and, not_not,
    Option.any_eq_true]
  intro separator
  obtain ⟨token, stands, separates⟩ := separator
  obtain ⟨noOpener, noCloser⟩ := spares token separates
  refine ⟨0, inner.length + 1, ?_, ?_, ?_⟩
  · exact ⟨[], opener, inner, closer, [], rfl, rfl, by simp, pair, inside⟩
  · rcases Nat.eq_zero_or_pos index with rfl | positive
    · obtain rfl : opener = token := by simpa using stands
      rw [noOpener] at opens
      cases opens
    · exact positive
  · rcases Nat.lt_or_eq_of_le (Nat.le_of_lt_succ bound) with less | rfl
    · exact less
    · obtain rfl : closer = token := by simpa using stands
      rw [noCloser] at closes
      cases closes

-----------------------------------------------------------------------------------------
-- Exact partitions
-----------------------------------------------------------------------------------------

/-- A partition at the separators that no group stands around: nothing is lost, and the parts consist of
closed groups and hold no such separator.
-/
structure SplitsExactly (isSeparator : Token → Bool) (tokens : List Token) (partition : Partition)
    : Prop where
  joined : partition.whole = tokens
  parts : ∀ part ∈ partition.parts, Balanced part ∧ outerSeparators isSeparator part = []
  separators : partition.others.map Prod.fst
    = (outerSeparators isSeparator tokens).filterMap (tokens[·]?)
  count : partition.parts.length = (outerSeparators isSeparator tokens).length + 1

/-- Indices that are moved behind a row lead to the same tokens there. -/
theorem filterMap_getElem?_append (front rest : List Token) (indices : List Nat)
    : (indices.map (front.length + ·)).filterMap ((front ++ rest)[·]?)
      = indices.filterMap (rest[·]?) := by
  rw [List.filterMap_map]
  congr 1
  funext index
  rw [Function.comp_apply, List.getElem?_append_right (Nat.le_add_right ..),
    Nat.add_sub_cancel_left]

/-- A row of closed groups without separators of its own belongs to the first part. -/
theorem SplitsExactly.pushAll {row tokens : List Token} {partition : Partition}
    (splits : SplitsExactly isSeparator tokens partition) (balanced : Balanced row)
    (uncut : outerSeparators isSeparator row = [])
    : SplitsExactly isSeparator (row ++ tokens) (partition.pushAll row) := by
  have outer : outerSeparators isSeparator (row ++ tokens)
      = (outerSeparators isSeparator tokens).map (row.length + ·) := by
    rw [outerSeparators_append balanced, uncut, List.nil_append]
  constructor
  · rw [← splits.joined]
    exact List.append_assoc ..
  · intro part member
    rcases List.mem_cons.mp member with rfl | member
    · obtain ⟨balanced', uncut'⟩ := splits.parts partition.first List.mem_cons_self
      have joined : outerSeparators isSeparator (row ++ partition.first) = [] := by
        rw [outerSeparators_append balanced, uncut, uncut']
        rfl
      exact ⟨balanced.append balanced', joined⟩
    · exact splits.parts part (List.mem_cons_of_mem _ member)
  · rw [outer, filterMap_getElem?_append]
    exact splits.separators
  · rw [outer, List.length_map]
    exact splits.count

/-- A separator at the front makes an empty part. -/
theorem SplitsExactly.separate {separator : Token} {tokens : List Token} {partition : Partition}
    (splits : SplitsExactly isSeparator tokens partition)
    (noOpener : separator.kind.isOpener = false) (noCloser : separator.kind.isCloser = false)
    (separates : isSeparator separator = true)
    : SplitsExactly isSeparator (separator :: tokens) (partition.separate separator) := by
  have alone : Balanced [separator] := .single noOpener noCloser rfl
  have outer : outerSeparators isSeparator ([separator] ++ tokens)
      = 0 :: (outerSeparators isSeparator tokens).map ([separator].length + ·) := by
    rw [outerSeparators_append alone, outerSeparators_single, if_pos separates]
    rfl
  have behind := filterMap_getElem?_append [separator] tokens (outerSeparators isSeparator tokens)
  rw [List.singleton_append] at outer behind
  constructor
  · exact congrArg (separator :: ·) splits.joined
  · intro part member
    rcases List.mem_cons.mp member with rfl | member
    · exact ⟨.nil, rfl⟩
    · exact splits.parts part member
  · rw [outer, List.filterMap_cons, behind, ← splits.separators]
    rfl
  · rw [outer, List.length_cons, List.length_map, separate_parts, List.length_cons, splits.count]

/-- Rows of closed groups are cut exactly, by induction on the row. -/
theorem splitsExactly_partition (spares : SparesBrackets isSeparator) {tokens : List Token}
    (balanced : Nested (fun _ => false) tokens)
    : SplitsExactly isSeparator tokens (partition isSeparator tokens) := by
  generalize unlimited : (fun _ => false : Token → Bool) = noSeparator at balanced
  induction balanced with
  | nil =>
      refine ⟨rfl, fun part member => ?_, rfl, rfl⟩
      obtain rfl : part = [] := List.mem_singleton.mp member
      exact ⟨.nil, rfl⟩
  | @plain _ token rest noOpener noCloser _ _ ih =>
      cases separates : isSeparator token with
      | true =>
          rw [partition_separator noOpener noCloser separates]
          exact (ih unlimited).separate noOpener noCloser separates
      | false =>
          rw [← List.singleton_append, partition_nested (.single noOpener noCloser separates)]
          refine (ih unlimited).pushAll (.single noOpener noCloser rfl) ?_
          rw [outerSeparators_single, separates]
          rfl
  | @group _ opener inner closer rest pair inside _ _ ih =>
      rw [partition_group pair inside, group_append]
      exact (ih unlimited).pushAll (.group pair inside .nil)
        (outerSeparators_group spares pair inside)

end HtmlQuery.XPath.Token
