import HtmlQuery.Proofs.XPath.NamedSteps
import HtmlQuery.Proofs.XPath.Spacing
import HtmlQuery.Proofs.XPath.WellFormed

/-! Names that attributes are looked up by. Whether one is refused depends neither on the attributes nor
on its letter case, and no predicate that can be read has one that is refused.
-/

namespace HtmlQuery

-----------------------------------------------------------------------------------------
-- Texts in lower case
-----------------------------------------------------------------------------------------

namespace Text

theorem lowerWithin_ne_nil (before after : List Char) (c : Char) : lowerWithin before c after ≠ [] := by
  unfold lowerWithin
  split
  · simp
  · split <;> simp

/-- Lowering drops no characters, by induction on the text. -/
theorem length_le_lowerFrom (before text : List Char)
    : text.length ≤ (lowerFrom before text).length := by
  induction text generalizing before with
  | nil => exact Nat.le_refl 0
  | cons c rest ih =>
      have here := List.length_pos_of_ne_nil (lowerWithin_ne_nil before rest c)
      have behind := ih (c :: before)
      rw [lowerFrom, List.length_append, List.length_cons]
      omega

/-- What isn't an image of others only occurs in a lowered text if it occurred before, by induction on
the text.
-/
theorem mem_of_mem_lowerFrom {before text : List Char} {c : Char} (other : ¬IsImage c)
    (member : c ∈ lowerFrom before text)
    : c ∈ text := by
  induction text generalizing before with
  | nil => cases member
  | cons d rest ih =>
      rcases List.mem_append.mp member with here | behind
      · rcases eq_or_isImage_of_mem_lowerWithin here with rfl | image
        · exact List.mem_cons_self
        · exact (other image).elim
      · exact List.mem_cons_of_mem d (ih behind)

/-- A mark that isn't lowered is found at the same place in the lowered text, by induction on the text.
-/
theorem dropWhile_lowerFrom {mark : Char} (other : ¬IsImage mark) (settled : Settled mark)
    (before text : List Char)
    : ∃ before',
      (lowerFrom before text).dropWhile (· != mark)
      = lowerFrom before' (text.dropWhile (· != mark)) := by
  obtain ⟨dotted, sigma, low⟩ := settled
  induction text generalizing before with
  | nil => exact ⟨before, rfl⟩
  | cons c rest ih =>
      by_cases same : c = mark
      · subst same
        have own : lowerWithin before c rest = [c] := by simp [lowerWithin, dotted, sigma, low]
        exact ⟨before, by simp [lowerFrom, own]⟩
      · obtain ⟨before', later⟩ := ih (c :: before)
        have passed : ∀ d ∈ lowerWithin before c rest, (d != mark) = true := by
          intro d member
          rw [bne_iff_ne]
          rintro rfl
          rcases eq_or_isImage_of_mem_lowerWithin member with equal | image
          · exact same equal.symm
          · exact other image
        refine ⟨before', ?_⟩
        rw [lowerFrom, List.dropWhile_append_of_pos passed, later,
          List.dropWhile_cons_of_pos (by simpa using same)]

end Text

namespace Attribute

open HtmlQuery.Text

-----------------------------------------------------------------------------------------
-- Refused names
-----------------------------------------------------------------------------------------

/-- The code points of the characters that occur in no document. -/
def forbiddenPoints : List Nat :=
  List.range 0x20 ++ [0xFFFE, 0xFFFF]

theorem toNat_mem_forbiddenPoints {c : Char} (forbidden : Document.isForbidden c = true)
    : c.toNat ∈ forbiddenPoints := by
  simp only [Document.isForbidden, Bool.or_eq_true, Bool.and_eq_true, decide_eq_true_eq,
    beq_iff_eq] at forbidden
  simp only [forbiddenPoints, List.mem_append, List.mem_range, List.mem_cons, List.not_mem_nil,
    or_false]
  omega

/-- Lowering leads to no forbidden character. -/
theorem not_isImage_of_isForbidden {c : Char} (forbidden : Document.isForbidden c = true)
    : ¬IsImage c := by
  have point := toNat_mem_forbiddenPoints forbidden
  have apart : ∀ n ∈ forbiddenPoints, ¬IsImage (Char.ofNat n) := by decide +kernel
  have other := apart _ point
  rwa [Char.ofNat_toNat] at other

theorem any_isForbidden_lower {text : List Char} (allowed : text.any Document.isForbidden = false)
    : (lower text).any Document.isForbidden = false := by
  rw [List.any_eq_false] at allowed ⊢
  intro c member forbidden
  exact allowed c (mem_of_mem_lowerFrom (not_isImage_of_isForbidden forbidden) member) forbidden

/-- A name without a brace in front is in no namespace. -/
theorem readName_plain {text : List Char} (allowed : text.any Document.isForbidden = false)
    (some : text ≠ []) (plain : '\x7b' ∉ text.head?)
    : readName text = .ok ([], text) := by
  unfold readName
  rw [if_neg (by simp [allowed])]
  split
  · exact (some rfl).elim
  · simp at plain
  · rfl

theorem readName_open {rest : List Char}
    (allowed : ('\x7b' :: rest).any Document.isForbidden = false)
    : readName ('\x7b' :: rest)
      = match rest.dropWhile (· != '\x7d') with
        | [] => .error .openNamespace
        | [_] => .error .empty
        | _ :: name => .ok (rest.takeWhile (· != '\x7d'), name) := by
  unfold readName
  rw [if_neg (by simp [allowed])]
  rfl

theorem not_isImage_brace : ¬IsImage '\x7d' := by
  decide

theorem settled_brace : Settled '\x7d' := by
  decide +kernel

/-- A name that isn't refused isn't refused in lower case either. -/
theorem exists_readName_lower {text : List Char} {found : List Char × List Char}
    (read : readName text = .ok found)
    : ∃ found', readName (lower text) = .ok found' := by
  have allowed : text.any Document.isForbidden = false := by
    by_contra forbidden
    unfold readName at read
    rw [if_pos (by simpa using forbidden)] at read
    cases read
  have allowed' := any_isForbidden_lower allowed
  cases text with
  | nil => cases read
  | cons c rest =>
      by_cases brace : c = '\x7b'
      · subst brace
        have front : lower ('\x7b' :: rest) = '\x7b' :: lowerFrom ['\x7b'] rest := rfl
        obtain ⟨before, behind⟩ :=
          dropWhile_lowerFrom not_isImage_brace settled_brace ['\x7b'] rest
        have length := length_le_lowerFrom before (rest.dropWhile (· != '\x7d'))
        rw [front] at allowed' ⊢
        rw [readName_open allowed] at read
        rw [readName_open allowed', behind]
        split at read
        · cases read
        · cases read
        · rename_i first name some shape
          have several := List.length_pos_of_ne_nil some
          rw [shape, List.length_cons] at length
          rw [shape]
          split
          · rename_i none
            rw [none, List.length_nil] at length
            omega
          · rename_i single
            rw [single, List.length_singleton] at length
            omega
          · exact ⟨_, rfl⟩
      · refine ⟨_, readName_plain allowed' (by simp [lower, lowerFrom, lowerWithin_ne_nil]) ?_⟩
        intro first
        rw [lower, lowerFrom, List.head?_append_of_ne_nil _ (lowerWithin_ne_nil _ _ _)] at first
        rcases eq_or_isImage_of_mem_lowerWithin (List.mem_of_head? first) with same | image
        · exact brace same.symm
        · exact absurd image (by decide)

/-- A name has a value or none unless it is refused. -/
theorem exists_get {name : String} {found : List Char × List Char}
    (read : readName name.toList = .ok found) (attributes : List Attribute)
    : ∃ value, get attributes name = .ok value := by
  rw [get, read]
  exact ⟨_, rfl⟩

/-- Looking up an attribute is refused just if its name is refused as it is written. -/
theorem lookup_eq_error {attributes : List Attribute} {name : String} {refusal : Refusal}
    : lookup attributes name = .error refusal ↔ readName name.toList = .error refusal := by
  cases read : readName name.toList with
  | error reason =>
      have fails : lookup attributes name = .error reason := by
        rw [lookup, get, read]
        rfl
      rw [fails, Except.error.injEq, Except.error.injEq]
  | ok found =>
      obtain ⟨value, first⟩ := exists_get read attributes
      obtain ⟨found', lowered⟩ := exists_readName_lower read
      rw [← String.toList_ofList (l := lower name.toList)] at lowered
      obtain ⟨value', second⟩ := exists_get lowered attributes
      refine iff_of_false ?_ (by simp)
      rw [lookup, first]
      cases value with
      | some value => rintro ⟨⟩
      | none =>
          intro fails
          have answered := second.symm.trans fails
          cases answered

-----------------------------------------------------------------------------------------
-- Names of path expressions
-----------------------------------------------------------------------------------------

/-- A text of allowed characters without a brace in front is looked up as it is. -/
theorem get_plain {name : String} (allowed : name.toList.any Document.isForbidden = false)
    (some : name.toList ≠ []) (plain : '\x7b' ∉ name.toList) (attributes : List Attribute)
    : get attributes name = .ok (valueOf? attributes name) := by
  rw [get, readName_plain allowed some fun first => plain (List.mem_of_head? first)]
  simp [bind, Except.bind, pure, Except.pure]

/-- Neither a forbidden character nor a brace starts or continues a name. -/
theorem not_name_of_isForbidden {c : Char} (forbidden : Document.isForbidden c = true)
    : Text.isNameStart c = false ∧ XPath.Token.isNamePart c = false ∧ c ≠ ':' := by
  have point := toNat_mem_forbiddenPoints forbidden
  have apart
      : ∀ n ∈ forbiddenPoints,
        Text.isNameStart (Char.ofNat n) = false
        ∧ XPath.Token.isNamePart (Char.ofNat n) = false
        ∧ Char.ofNat n ≠ ':' := by
    decide +kernel
  have other := apart _ point
  rwa [Char.ofNat_toNat] at other

/-- A name of a path expression is never refused. -/
theorem lookup_of_name {name : String} (named : XPath.Token.IsLexeme .name name.toList)
    (attributes : List Attribute)
    : lookup attributes name = .ok (lookup? attributes name) := by
  have some : name.toList ≠ [] := XPath.Token.ne_nil_of_isLexeme named
  have plain : '\x7b' ∉ name.toList :=
    XPath.Token.not_mem_name named (by decide) (by decide) (by decide)
  have allowed : name.toList.any Document.isForbidden = false := by
    rw [List.any_eq_false]
    intro c member forbidden
    obtain ⟨noStart, noPart, other⟩ := not_name_of_isForbidden forbidden
    exact XPath.Token.not_mem_name named noStart noPart other member
  have some' : name.lowered.toList ≠ [] := by
    have length := length_le_lowerFrom [] name.toList
    have several := List.length_pos_of_ne_nil some
    rw [String.lowered, String.toList_ofList, lower]
    exact List.ne_nil_of_length_pos (by omega)
  have plain' : '\x7b' ∉ name.lowered.toList := by
    rw [String.lowered, String.toList_ofList]
    exact fun member => plain (mem_of_mem_lowerFrom (by decide) member)
  have allowed' : name.lowered.toList.any Document.isForbidden = false := by
    rw [String.lowered, String.toList_ofList]
    exact any_isForbidden_lower allowed
  rw [lookup, get_plain allowed some plain, get_plain allowed' some' plain', lookup?]
  cases valueOf? attributes name <;> rfl

end Attribute

namespace XPath

/-- Readable tokens consist of what their kind allows. -/
theorem Token.Legible.isLexeme {tokens : List Token} (legible : Legible tokens)
    : ∀ token ∈ tokens, token.kind ≠ .error → IsLexeme token.kind token.text.toList := by
  induction legible with
  | nil => simp
  | readable lexeme _ ih => exact List.forall_mem_cons.mpr ⟨fun _ => lexeme, ih⟩
  | unreadable => simp

/-- The names that a predicate looks attributes up by, at every depth. -/
def Predicate.attributeNames : Predicate → List String
  | hasAttribute name => [name]
  | attributeIs name _ _ => [name]
  | attributeTest _ name _ => [name]
  | not predicate => predicate.attributeNames
  | join _ left right => left.attributeNames ++ right.attributeNames
  | _ => []

/-- All names that a well-formed predicate looks up stand in its row, by induction on the predicate. -/
theorem Predicate.WellFormed.names {row : List Token} {predicate : Predicate}
    (formed : predicate.WellFormed row)
    : ∀ name ∈ predicate.attributeNames, Names row name := by
  induction formed with
  | hasAttribute named => simpa [attributeNames] using named
  | attributeIs named => simpa [attributeNames] using named
  | attributeTest named => simpa [attributeNames] using named
  | not _ ih => exact ih
  | join _ _ _ left right => exact List.forall_mem_append.mpr ⟨left, right⟩
  | _ => simp [attributeNames]

/-- Predicates that are read look attributes up by names that are never refused. -/
theorem Path.lookup_of_read {expression : String} {path : Path} (found : read expression = .ok path)
    {step : Step} (within : step ∈ path.steps) {predicate : Predicate}
    (member : predicate ∈ step.predicates)
    : ∀ name ∈ predicate.attributeNames, ∀ attributes,
      Attribute.lookup attributes name = .ok (Attribute.lookup? attributes name) := by
  intro name among attributes
  have formed := (wellFormed_steps found step within).predicates predicate member
  obtain ⟨word, inside, kind, rfl⟩ := formed.names name among
  have readable : word.kind ≠ .error := by simp [kind]
  have lexeme := (Token.legible_scanFrom 0 expression.toList).isLexeme word inside readable
  exact Attribute.lookup_of_name (kind ▸ lexeme) attributes

end XPath

end HtmlQuery
