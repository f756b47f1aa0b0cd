import HtmlQuery.Proofs.Text.LowerCase
import HtmlQuery.Proofs.XPath.Connectives
import HtmlQuery.Proofs.XPath.EmptyDelimiter

/-! What is read of an expression is well-formed: evaluation can rely on it without looking. All that a
predicate compares with stands in the expression, in whichever way the predicate is written.
-/

namespace HtmlQuery.XPath

-----------------------------------------------------------------------------------------
-- Parts of rows
-----------------------------------------------------------------------------------------

namespace Token

variable {isSeparator : Token → Bool} {tokens : List Token}

theorem subset_of_mem_parts {part : List Token}
    (member : part ∈ (partition isSeparator tokens).parts)
    : part ⊆ tokens := by
  have whole : (partition isSeparator tokens).whole = tokens := (whole_partitionFrom 0 tokens).1
  intro token inside
  rw [← whole, Partition.whole, List.mem_append]
  rcases List.mem_cons.mp member with rfl | member
  · exact .inl inside
  · obtain ⟨other, behind, rfl⟩ := List.mem_map.mp member
    exact .inr (List.mem_flatMap.mpr ⟨other, behind, List.mem_cons_of_mem _ inside⟩)

/-- What is cut off stands behind a separator. -/
theorem separator_of_mem_others {other : Token × List Token}
    (member : other ∈ (partition isSeparator tokens).others)
    : other.fst ∈ tokens ∧ isSeparator other.fst = true := by
  have whole : (partition isSeparator tokens).whole = tokens := (whole_partitionFrom 0 tokens).1
  refine ⟨?_, (whole_partitionFrom 0 tokens).2 other member⟩
  rw [← whole, Partition.whole, List.mem_append]
  exact .inr (List.mem_flatMap.mpr ⟨other, member, List.mem_cons_self⟩)

theorem subset_of_parenthesized? {inner : List Token} (found : parenthesized? tokens = some inner)
    : inner ⊆ tokens := by
  obtain ⟨opener, closer, rfl, -⟩ := group_of_parenthesized? found
  intro token inside
  simp [inside]

theorem subset_of_call? {function : String} {arguments : List (List Token)} {argument : List Token}
    (found : call? tokens = some (function, arguments)) (member : argument ∈ arguments)
    : argument ⊆ tokens := by
  unfold call? at found
  split at found
  · split at found
    · cases found
      cases member
    · rename_i inner _ group
      cases found
      intro token inside
      have within := subset_of_parenthesized? group (subset_of_mem_parts member inside)
      exact List.mem_cons_of_mem _ within
    · cases found
  · cases found

end Token

-----------------------------------------------------------------------------------------
-- Well-formed predicates
-----------------------------------------------------------------------------------------

namespace Predicate

/-- Comparisons of texts that a row has a sign of. -/
def Equates (row : List Token) (equality : Equality) : Prop :=
  ∃ sign ∈ row,
    sign.kind = .relation ∧ sign.text ∈ ["=", "!="] ∧ sign.text = equality.text

/-- Comparisons of numbers that a row has a sign of, which may stand between exchanged sides. -/
def Relates (row : List Token) (relation : Relation) : Prop :=
  ∃ sign ∈ row,
    sign.kind = .relation
    ∧ sign.text ∈ ["<", "<=", ">", ">=", "=", "!="]
    ∧ (sign.text = relation.text ∨ sign.text = relation.swapped.text)

/-- Numbers of a row, none of which is negative. -/
def Denotes (row : List Token) (value : Number) : Prop :=
  ∃ literal ∈ row,
    literal.kind = .number
    ∧ Number.read literal.text = value
    ∧ Relation.lessOrEqual.holds 0 value = true

/-- What is left of a number of a row without its fraction. -/
def Truncates (row : List Token) (value : Nat) : Prop :=
  ∃ literal ∈ row, literal.kind = .number ∧ (Number.read literal.text).floor? = some value

/-- Connectives that a row has a word of. -/
def Connects (row : List Token) (connective : Connective) : Prop :=
  ∃ word ∈ row, word.kind = .name ∧ word.text ∈ ["and", "or"] ∧ word.text = connective.word

/-- Names that a row has a word of. -/
def Names (row : List Token) (name : String) : Prop :=
  ∃ word ∈ row, word.kind = .name ∧ word.text = name

/-- Predicates whose comparisons, numbers, connectives and names of attributes all stand in a row, at
every depth.
-/
inductive WellFormed (row : List Token) : Predicate → Prop
  | position {relation value} (compares : Relates row relation ∨ relation = .equal)
    (number : Denotes row value)
    : WellFormed row (.position relation value)
  | last : WellFormed row .last
  | hasAttribute {name} (named : Names row name) : WellFormed row (.hasAttribute name)
  | hasDescendant {name} : WellFormed row (.hasDescendant name)
  | attributeIs {name equality value} (named : Names row name) (compares : Equates row equality)
    : WellFormed row (.attributeIs name equality value)
  | attributeTest {test name value} (named : Names row name)
    : WellFormed row (.attributeTest test name value)
  | textIs {normalized equality value} (compares : Equates row equality)
    : WellFormed row (.textIs normalized equality value)
  | textTest {test value} : WellFormed row (.textTest test value)
  | substring {start length equality value} (first : Truncates row start)
    (count : ∀ length' ∈ length, Truncates row length') (compares : Equates row equality)
    : WellFormed row (.substring start length equality value)
  | substringAfter {delimiter equality value} (compares : Equates row equality)
    : WellFormed row (.substringAfter delimiter equality value)
  | substringBefore {delimiter equality value} (compares : Equates row equality)
    : WellFormed row (.substringBefore delimiter equality value)
  | translated {map equality value} (compares : Equates row equality)
    : WellFormed row (.translated map equality value)
  | count {name relation value} (compares : Relates row relation) (number : Denotes row value)
    : WellFormed row (.count name relation value)
  | textLength {relation value} (compares : Relates row relation) (number : Denotes row value)
    : WellFormed row (.textLength relation value)
  | not {predicate} (inside : WellFormed row predicate) : WellFormed row (.not predicate)
  | join {connective left right} (connects : Connects row connective)
    (first : WellFormed row left) (second : WellFormed row right)
    : WellFormed row (.join connective left right)

variable {row : List Token} {predicate : Predicate}

theorem denotes_read {position : Nat} {literal : String}
    (member : ⟨position, .number, literal⟩ ∈ row)
    : Denotes row (Number.read literal) := by
  refine ⟨_, member, rfl, rfl, ?_⟩
  cases Number.read literal with
  | infinite => rfl
  | finite numerator halvings =>
      simp [Relation.holds, Relation.admits, Decimal.Magnitude.compareNat, compare_gt_iff_gt]

theorem names_of_subset {start start' : Nat} {sign name : String}
    (within : [⟨start, .atSign, sign⟩, ⟨start', .name, name⟩] ⊆ row)
    : Names row name :=
  ⟨_, within (List.mem_cons_of_mem _ List.mem_cons_self), rfl, rfl⟩

theorem truncates_of_integerArgument {tokens : List Token} {value : Nat} (within : tokens ⊆ row)
    (found : integerArgument tokens = .ok value)
    : Truncates row value := by
  unfold integerArgument at found
  split at found
  · split at found
    · rename_i floor
      cases found
      exact ⟨_, within List.mem_cons_self, rfl, floor⟩
    · cases found
  · cases found

/-- The sign of a comparison of texts may stand between exchanged sides, too. -/
theorem Relates.equates {relation : Relation} {value : Equality} (relates : Relates row relation)
    (found : equality relation = .ok value)
    : Equates row value := by
  obtain ⟨sign, member, kind, -, text⟩ := relates
  refine ⟨sign, member, kind, ?_⟩
  cases relation
  all_goals
    cases found
    all_goals
      simp only [Relation.swapped, Relation.text, or_self] at text
      simp [text, Equality.text]

-----------------------------------------------------------------------------------------
-- Comparisons
-----------------------------------------------------------------------------------------

theorem wellFormed_of_readTextPart {function : String} {arguments : List (List Token)}
    {value : Equality} {text : String} (within : ∀ argument ∈ arguments, argument ⊆ row)
    (compares : Equates row value)
    (found : readTextPart function arguments value text = .ok predicate)
    : WellFormed row predicate := by
  unfold readTextPart at found
  split at found
  · obtain ⟨start, first, found⟩ := bind_eq_ok.mp found
    cases found
    have first := truncates_of_integerArgument (within _ (by simp)) first
    exact .substring first (by simp) compares
  · obtain ⟨start, first, found⟩ := bind_eq_ok.mp found
    obtain ⟨count, second, found⟩ := bind_eq_ok.mp found
    cases found
    have first := truncates_of_integerArgument (within _ (by simp)) first
    have second := truncates_of_integerArgument (within _ (by simp)) second
    exact .substring first (by simpa using second) compares
  · obtain ⟨_, _, found⟩ := bind_eq_ok.mp found
    cases found
    exact .substringAfter compares
  · obtain ⟨_, _, found⟩ := bind_eq_ok.mp found
    cases found
    exact .substringBefore compares
  · obtain ⟨_, _, found⟩ := bind_eq_ok.mp found
    obtain ⟨_, _, found⟩ := bind_eq_ok.mp found
    cases found
    exact .translated compares
  · cases found

/-- What a comparison consists of besides its subject. -/
structure Compared (row : List Token) (relation : Relation) (literal : Literal) : Prop where
  relates : Relates row relation
  number : ∀ value, literal.asNumber = .ok value → Denotes row value

variable {relation : Relation} {literal : Literal}

theorem wellFormed_of_readCallComparison {function : String} {arguments : List (List Token)}
    (within : ∀ argument ∈ arguments, argument ⊆ row) (compared : Compared row relation literal)
    (found : readCallComparison function arguments relation literal = .ok predicate)
    : WellFormed row predicate := by
  unfold readCallComparison at found
  split at found
  · obtain ⟨value, number, found⟩ := bind_eq_ok.mp found
    cases found
    exact .position (.inl compared.relates) (compared.number value number)
  · split at found
    · split at found
      · obtain ⟨value, number, found⟩ := bind_eq_ok.mp found
        cases found
        exact .count compared.relates (compared.number value number)
      · cases found
    · split at found
      · obtain ⟨value, number, found⟩ := bind_eq_ok.mp found
        cases found
        exact .textLength compared.relates (compared.number value number)
      · split at found
        · obtain ⟨value, equates, found⟩ := bind_eq_ok.mp found
          cases found
          exact .textIs (compared.relates.equates equates)
        · split at found
          · rename_i source others
            split at found
            · obtain ⟨value, equates, found⟩ := bind_eq_ok.mp found
              refine wellFormed_of_readTextPart ?_ (compared.relates.equates equates) found
              exact fun argument member => within argument (List.mem_cons_of_mem _ member)
            · cases found
          · cases found

theorem wellFormed_of_readSubject {subject : List Token} (within : subject ⊆ row)
    (compared : Compared row relation literal)
    (found : readSubject subject relation literal = .ok predicate)
    : WellFormed row predicate := by
  unfold readSubject at found
  split at found
  · obtain ⟨value, equates, found⟩ := bind_eq_ok.mp found
    cases found
    exact .attributeIs (names_of_subset within) (compared.relates.equates equates)
  · split at found
    · obtain ⟨value, equates, found⟩ := bind_eq_ok.mp found
      cases found
      exact .textIs (compared.relates.equates equates)
    · split at found
      · rename_i function arguments called
        refine wellFormed_of_readCallComparison ?_ compared found
        exact fun argument member => List.Subset.trans (Token.subset_of_call? called member) within
      · cases found

/-- A literal of a row may stand at either side of a sign. -/
theorem compared_of_literal {tokens : List Token} {sign : Token} (within : tokens ⊆ row)
    (known : Literal.ofTokens? tokens = some literal) (member : sign ∈ row)
    (compares : sign.kind = .relation)
    (text : sign.text = relation.text ∨ sign.text = relation.swapped.text)
    : Compared row relation literal where
  relates := by
    refine ⟨sign, member, compares, ?_, text⟩
    rcases text with text | text <;> rw [text] <;> cases relation <;> decide
  number := by
    intro value number
    unfold Literal.ofTokens? at known
    split at known
    · cases known
      cases number
    · cases known
      cases number
      exact denotes_read (within List.mem_cons_self)
    · cases known

theorem wellFormed_of_readComparison {left right : List Token} {sign : Token} (before : left ⊆ row)
    (behind : right ⊆ row) (member : sign ∈ row) (compares : sign.kind = .relation)
    (found : readComparison left sign right = .ok predicate)
    : WellFormed row predicate := by
  unfold readComparison at found
  split at found
  · cases found
  · split at found
    · cases found
    · rename_i relation known
      have text := text_of_ofText? known
      split at found
      · rename_i literal _
        exact wellFormed_of_readSubject before
          (compared_of_literal behind ‹_› member compares (.inl text)) found
      · rename_i literal _ _
        have swapped : sign.text = relation.swapped.swapped.text := by
          rw [text]
          cases relation <;> rfl
        exact wellFormed_of_readSubject behind
          (compared_of_literal before ‹_› member compares (.inr swapped)) found
      · cases found

-----------------------------------------------------------------------------------------
-- All predicates
-----------------------------------------------------------------------------------------

/-- Operands are joined by words of the row, by induction on those behind the first one. -/
theorem WellFormed.foldl_join {connective : Connective} {first : Predicate}
    {others : List Predicate} (connects : Connects row connective) (left : WellFormed row first)
    (right : ∀ other ∈ others, WellFormed row other)
    : WellFormed row (others.foldl (.join connective) first) := by
  induction others generalizing first with
  | nil => exact left
  | cons other others ih =>
      obtain ⟨second, rest⟩ := List.forall_mem_cons.mp right
      exact ih (.join connects left second) rest

/-- What is read is read from one of the items. -/
theorem exists_of_mem_mapM {ε α β : Type} {f : α → Except ε β} {items : List α} {results : List β}
    (found : items.mapM f = .ok results) {result : β} (member : result ∈ results)
    : ∃ item ∈ items, f item = .ok result := by
  induction items generalizing results with
  | nil =>
      cases found
      cases member
  | cons item rest ih =>
      rw [List.mapM_cons] at found
      obtain ⟨first, here, found⟩ := bind_eq_ok.mp found
      obtain ⟨others, later, found⟩ := bind_eq_ok.mp found
      cases found
      rcases List.mem_cons.mp member with rfl | member
      · exact ⟨item, by simp, here⟩
      · obtain ⟨other, inside, reads⟩ := ih later member
        exact ⟨other, by simp [inside], reads⟩

theorem wellFormed_of_readOperands {connective : Connective} {tokens : List Token}
    (within : tokens ⊆ row)
    (several : (Token.partition (separates connective) tokens).others ≠ [])
    (operands : ∀ part ∈ (Token.partition (separates connective) tokens).parts,
      ∀ operand, read part = .ok operand → WellFormed row operand)
    (found : readOperands connective (Token.partition (separates connective) tokens) = .ok predicate)
    : WellFormed row predicate := by
  obtain ⟨other, member⟩ := List.exists_mem_of_ne_nil _ several
  obtain ⟨inside, separates⟩ := Token.separator_of_mem_others member
  obtain ⟨kind, text⟩ : other.fst.kind = .name ∧ other.fst.text = connective.word := by
    simpa [Token.isKeyword] using separates
  have connects : Connects row connective := by
    refine ⟨other.fst, within inside, kind, ?_, text⟩
    rw [text]
    cases connective <;> decide
  obtain ⟨-, predicates, known, joins⟩ := readOperands_eq_ok.mp found
  have all : ∀ operand ∈ predicates, WellFormed row operand := by
    intro operand member
    obtain ⟨part, inside, reads⟩ := exists_of_mem_mapM known member
    exact operands part inside operand reads
  cases predicates with
  | nil => cases joins
  | cons first others =>
      cases joins
      obtain ⟨left, right⟩ := List.forall_mem_cons.mp all
      exact .foldl_join connects left right

theorem wellFormed_of_atom? {tokens : List Token} (within : tokens ⊆ row)
    (found : atom? tokens = some predicate)
    : WellFormed row predicate := by
  unfold atom? at found
  split at found
  · cases found
    exact .position (.inr rfl) (denotes_read (within List.mem_cons_self))
  · cases found
    exact .hasAttribute (names_of_subset within)
  · cases found
    exact .hasDescendant
  · cases found

theorem wellFormed_of_readStringTest {test : StringTest} {subject value : List Token}
    (within : subject ⊆ row) (found : readStringTest test subject value = .ok predicate)
    : WellFormed row predicate := by
  unfold readStringTest at found
  split at found
  · obtain ⟨_, _, found⟩ := bind_eq_ok.mp found
    cases found
    exact .attributeTest (names_of_subset within)
  · split at found
    · obtain ⟨_, _, found⟩ := bind_eq_ok.mp found
      cases found
      exact .textTest
    · cases found

theorem wellFormed_of_readCall {function : String} {arguments : List (List Token)}
    (within : ∀ argument ∈ arguments, argument ⊆ row)
    (inner : ∀ argument ∈ arguments, ∀ operand, read argument = .ok operand →
      WellFormed row operand)
    (found : readCall function arguments = .ok predicate)
    : WellFormed row predicate := by
  unfold readCall at found
  split at found
  · cases found
    exact .last
  · obtain ⟨operand, reads, found⟩ := bind_eq_ok.mp found
    cases found
    exact .not (inner _ (by simp) operand reads)
  · split at found
    · exact wellFormed_of_readStringTest (within _ (by simp)) found
    · cases found
  · cases found

/-- What is read of an operand is well-formed if that is so for all that is in it. -/
theorem wellFormed_of_readOperand {tokens : List Token} (within : tokens ⊆ row)
    (inner : ∀ part : List Token, part.length < tokens.length → part ⊆ row →
      ∀ operand, read part = .ok operand → WellFormed row operand)
    (found : readOperand tokens = .ok predicate)
    : WellFormed row predicate := by
  unfold readOperand at found
  split at found
  · cases found
    exact wellFormed_of_atom? within ‹_›
  · split at found
    · rename_i part group
      have shorter := Token.length_of_parenthesized? group
      exact inner part (by omega) (List.Subset.trans (Token.subset_of_parenthesized? group) within) _
        found
    · simp only at found
      split at found
      · rename_i sign right cut
        have side (part : List Token) (member : part ∈ (Token.partition isRelation tokens).parts)
            : part ⊆ row :=
          List.Subset.trans (Token.subset_of_mem_parts member) within
        obtain ⟨inside, compares⟩ :=
          @Token.separator_of_mem_others isRelation tokens (sign, right) (cut ▸ List.mem_cons_self)
        refine wellFormed_of_readComparison (side _ List.mem_cons_self) ?_ (within inside) ?_ found
        · exact side right (by simp [Partition.parts, cut])
        · simpa using compares
      · cases found
      · split at found
        · rename_i function arguments called
          have inside (argument : List Token) (member : argument ∈ arguments) : argument ⊆ row :=
            List.Subset.trans (Token.subset_of_call? called member) within
          refine wellFormed_of_readCall inside (fun argument member => ?_) found
          have shorter := Token.length_of_call? called member
          exact inner argument (by omega) (inside argument member)
        · cases found

/-- All predicates that are read are well-formed, by induction on the number of tokens. -/
theorem wellFormed_of_read {tokens : List Token} (within : tokens ⊆ row)
    (found : read tokens = .ok predicate)
    : WellFormed row predicate := by
  induction length : tokens.length using Nat.strongRecOn generalizing tokens predicate with
  | ind length ih =>
      subst length
      have inner (part : List Token) (shorter : part.length < tokens.length) (inside : part ⊆ row)
          (operand : Predicate) (reads : read part = .ok operand)
          : WellFormed row operand :=
        ih part.length shorter inside reads rfl
      have parts (connective : Connective)
          (several : (Token.partition (separates connective) tokens).others ≠ [])
          (part : List Token) (member : part ∈ (Token.partition (separates connective) tokens).parts)
          : ∀ operand, read part = .ok operand → WellFormed row operand :=
        inner part (Token.length_lt_of_mem_parts several member)
          (List.Subset.trans (Token.subset_of_mem_parts member) within)
      rw [read_eq] at found
      split at found
      · rename_i several
        exact wellFormed_of_readOperands within several (parts .or several) found
      · split at found
        · rename_i several
          exact wellFormed_of_readOperands within several (parts .and several) found
        · exact wellFormed_of_readOperand within inner found

end Predicate

-----------------------------------------------------------------------------------------
-- Steps and paths
-----------------------------------------------------------------------------------------

/-- All predicates that are understood are well-formed, by induction on the groups. -/
theorem Predicates.wellFormed_of_read {row tokens rest : List Token} {predicates : Predicates}
    (within : tokens ⊆ row) (found : read tokens = .ok (predicates, rest))
    : ∀ predicate ∈ predicates.known, predicate.WellFormed row := by
  have run := run_of_read found
  clear found
  induction run with
  | other | unclosed => simp
  | @group start text inner closer after extend others closes inside group _ ih =>
      have later := ih fun token member => within (by simp [member])
      unfold readGroup at group
      split at group
      · rename_i predicate reads
        cases group
        have here : predicate.WellFormed row := by
          refine Predicate.wellFormed_of_read (fun token member => within ?_) reads
          simp [member]
        exact List.forall_mem_cons.mpr ⟨here, later⟩
      · cases group
        exact later
      · cases group

namespace Step

/-- Steps that evaluation can rely on: their axis has a name, the names they ask for are in lower case,
and only nodes are ever put to a predicate.
-/
structure WellFormed (row : List Token) (step : Step) : Prop where
  axis : step.axis.name ∈
    ["ancestor", "attribute", "child", "descendant", "following", "following-sibling", "parent",
      "preceding", "preceding-sibling", "self"]
  low : ∀ name, step.test = .name name → name.lowered = name
  bare : step.axis = .attributes → step.predicates = []
  predicates : ∀ predicate ∈ step.predicates, predicate.WellFormed row

theorem low_of_nodeTest? {axis found : Axis} {tokens rest : List Token} {test : NodeTest}
    (tested : nodeTest? axis tokens = some (found, test, rest))
    : ∀ name, test = .name name → name.lowered = name := by
  unfold nodeTest? at tested
  split at tested
  case h_4 =>
    split at tested
    · split at tested
      · cases tested
        simp
      · split at tested
        · cases tested
          simp
        · cases tested
    · cases tested
    · cases tested
    · cases tested
      rintro name ⟨⟩
      exact String.lowered_lowered _
  case h_5 => cases tested
  all_goals
    cases tested
    rintro name ⟨⟩
  exact String.lowered_lowered _

/-- What a step tests and which predicates it has, if it is no dots. -/
theorem parts_of_readTest {row body : List Token} {suggested : Axis} {reading : Reading}
    (within : body ⊆ row) (found : readTest suggested body = .ok (some reading))
    : (∀ name, reading.step.test = .name name → name.lowered = name)
      ∧ ∀ predicate ∈ reading.step.predicates, predicate.WellFormed row := by
  unfold readTest at found
  rcases front : (axisName? body).getD (suggested, body) with ⟨axis, inner⟩
  rw [front] at found
  obtain ⟨name, naming, rfl, -, -⟩ := naming_of_axisName? front
  simp only at found
  split at found
  · cases found
  · rename_i test rest tested
    obtain ⟨front, rfl, -⟩ := test_of_nodeTest? tested
    unfold readGroups at found
    split at found
    · cases found
      exact ⟨low_of_nodeTest? tested, by simp⟩
    · obtain ⟨groups, reads, same⟩ := ok_of_map found
      cases same
      refine ⟨low_of_nodeTest? tested, Predicates.wellFormed_of_read ?_ reads⟩
      exact fun token member => within (by simp [member])

theorem wellFormed_of_read {row tokens : List Token} {isFirst : Bool} {reading : Reading}
    (within : tokens ⊆ row) (found : read isFirst tokens = .ok (some reading))
    : reading.step.WellFormed row := by
  obtain ⟨low, predicates⟩ :
      (∀ name, reading.step.test = .name name → name.lowered = name)
      ∧ ∀ predicate ∈ reading.step.predicates, predicate.WellFormed row := by
    obtain ⟨suggested, body, front, ⟨dots, rest, kind, rfl, -, reads⟩ | ⟨-, -, tested⟩⟩ :=
      cases_of_read found
    · obtain ⟨test, predicates, -⟩ := parts_of_dots kind (reads [])
      have test : reading.step.test = .anyNode := test
      have predicates : reading.step.predicates = [] := predicates
      simp [test, predicates]
    · obtain ⟨marker, rfl, -⟩ := marker_of_separator? front
      exact parts_of_readTest (fun token member => within (by simp [member])) tested
  exact {
    axis := by cases reading.step.axis <;> decide
    low := low
    bare := bare_of_read found
    predicates := predicates
  }

end Step

/-- All steps that are read are well-formed, by induction on them. -/
theorem Steps.wellFormed_of_read {row tokens : List Token} {isFirst : Bool} {reading : Steps}
    (within : tokens ⊆ row) (found : read isFirst tokens = .ok reading)
    : ∀ step ∈ reading.steps, step.WellFormed row := by
  have run := run_of_read found
  clear found
  induction run with
  | done => simp
  | @step isFirst tokens step others first _ _ ih =>
      have here := Step.wellFormed_of_read within first
      obtain ⟨marker, body, rfl, -⟩ := Step.body_of_read first
      have later := ih fun token member => within (by simp [member])
      exact List.forall_mem_cons.mpr ⟨here, later⟩

namespace Path

/-- All that is read of an expression is well-formed. -/
theorem wellFormed_steps {expression : String} {path : Path} (found : read expression = .ok path)
    : ∀ step ∈ path.steps, step.WellFormed (Token.scan expression) := by
  obtain ⟨reading, reads, same⟩ := bind_eq_ok.mp found
  cases same
  exact Steps.wellFormed_of_read (List.Subset.refl _) reads

/-- A step that compares a position and an attribute within `not` and parentheses and then a part of the
text, and a step to attributes.
-/
def nestedPath : Path where
  steps :=
    [⟨.child, .name "a",
      [.not (.join .or (.position .greater (.finite 2 0)) (.attributeIs "b" .unequal "c")),
        .substring 1 (some 2) .equal "d"]⟩,
    ⟨.attributes, .name "e", []⟩]
  remainder := ""
  ignored := []

/-- The number stands in front of its sign, and the names of the tests are in upper case. -/
theorem wellFormed_nestedPath
    : read "A[not(2<position()or(@b!='c'))][substring(.,1,2.5)='d']/attribute::E" = .ok nestedPath
      ∧ ∀ step ∈ nestedPath.steps,
        step.WellFormed
          (Token.scan "A[not(2<position()or(@b!='c'))][substring(.,1,2.5)='d']/attribute::E") := by
  have found : read "A[not(2<position()or(@b!='c'))][substring(.,1,2.5)='d']/attribute::E"
      = .ok nestedPath := by
    decide +kernel
  exact ⟨found, wellFormed_steps found⟩

end Path

end HtmlQuery.XPath
