import HtmlQuery.Proofs.Document.Numbering
import HtmlQuery.Proofs.Text.Trimming
import HtmlQuery.Proofs.XPath.Decisions
import HtmlQuery.Proofs.XPath.NumberTexts

/-! The texts that a literal stands for. A comparison takes a number as the text of its value, a test
takes it as it is written, so being equal to a number entails containing it only where both are the
same.
-/

namespace HtmlQuery.XPath

open HtmlQuery.Text
open Token

-----------------------------------------------------------------------------------------
-- Both texts of a literal
-----------------------------------------------------------------------------------------

/-- The tokens of literals, each with its text in comparisons and its text in tests. -/
inductive Stands : Token → String → String → Prop
  | text {literal : String}
    : Stands ⟨0, .string, literal⟩ (unquote literal) (unquote literal)
  | number {literal : String} (lexeme : IsLexeme .number literal.toList)
    : Stands ⟨0, .number, literal⟩ (Number.read literal).text literal

variable {document : Document} {candidate : Candidate} {literal : Token} {whole part : String}

theorem Stands.of_unquote {text : String} (unquoted : unquote text = whole)
    : Stands ⟨0, .string, text⟩ whole whole :=
  unquoted ▸ .text

theorem Stands.placed (stands : Stands literal whole part)
    : literal.placed (fun _ => 0) = literal := by
  cases stands <;> rfl

theorem Stands.placed_compared {subject : List Token} (stands : Stands literal whole part)
    (placed : subject.map (Token.placed fun _ => 0) = subject)
    : (subject ++ [sign .equal, literal]).map (Token.placed fun _ => 0)
      = subject ++ [sign .equal, literal] := by
  rw [List.map_append, placed, List.map_cons, List.map_singleton, stands.placed]
  rfl

theorem Stands.exists_ofTokens? (stands : Stands literal whole part)
    : ∃ value, Literal.ofTokens? [literal] = some value ∧ value.asText = whole := by
  cases stands
  · exact ⟨_, rfl, rfl⟩
  · exact ⟨_, rfl, rfl⟩

theorem Stands.textArgument (stands : Stands literal whole part)
    : Predicate.textArgument [literal] = .ok part := by
  cases stands <;> rfl

theorem Stands.isArgument (stands : Stands literal whole part) : IsArgument [literal] := by
  cases stands <;> exact isArgument_single rfl rfl rfl

/-- What a literal stands for in tests is what it stands for in comparisons if that begins and ends
with it.
-/
theorem Stands.eq_of_begins_of_ends (stands : Stands literal whole part)
    (begins : part.toList <+: whole.toList) (ends : part.toList <:+ whole.toList)
    : whole = part := by
  cases stands with
  | text => rfl
  | number lexeme => exact Number.text_of_begins_of_ends lexeme begins ends

/-- White space at its ends is not part of a number's text. -/
theorem Stands.trimmed_eq (stands : Stands literal whole part) (differ : whole ≠ part)
    : whole.trimmed = whole := by
  cases stands with
  | text => exact (differ rfl).elim
  | number =>
      have visible := (Number.text_facts (Number.read part)).2
      have unpadded : Unpadded (Number.read part).text.toList :=
        ⟨fun c first => visible c (List.mem_of_head? first),
          fun c last => visible c (List.mem_of_getLast? last)⟩
      rw [String.trimmed, unpadded.trim_eq, String.ofList_toList]

-----------------------------------------------------------------------------------------
-- Reading comparisons and tests
-----------------------------------------------------------------------------------------

theorem Stands.read_attributeIs (stands : Stands literal whole part) {name : String}
    (named : IsOperandName name)
    : Predicate.read (attributeOf name ++ [sign .equal, literal])
      = .ok (.attributeIs name .equal whole) := by
  obtain ⟨value, found, rfl⟩ := stands.exists_ofTokens?
  have nested : Token.Nested divides (attributeOf name) :=
    .plain rfl rfl rfl (.single rfl rfl named.divides)
  exact Predicate.read_literal_right (nested.mono Predicate.divides_of_endsSide)
    (by simp [attributeOf]) found .equal 0

theorem Stands.read_attributeTest (stands : Stands literal whole part) (test : StringTest)
    (name : String)
    : Predicate.read (call test.name [attributeOf name, [literal]])
      = .ok (.attributeTest test name part) := by
  have all : ∀ row ∈ [attributeOf name, [literal]], IsArgument row := by
    simpa using ⟨isArgument_attributeOf name, stands.isArgument⟩
  rw [Predicate.read_test test all]
  simp only [attributeOf, mark, word, Predicate.readStringTest, stands.textArgument]
  rfl

theorem Stands.read_textIs (stands : Stands literal whole part) {source : List Token}
    (own : OwnText source)
    : Predicate.read (source ++ [sign .equal, literal]) = .ok (.textIs false .equal whole) := by
  obtain ⟨value, found, rfl⟩ := stands.exists_ofTokens?
  have read := Predicate.read_literal_right (own.nested.mono Predicate.divides_of_endsSide)
    own.isArgument.nonempty found .equal 0
  rw [Predicate.readSubject_other own.isAttribute, Predicate.readSource, own.isTextSource,
    if_pos rfl] at read
  exact read

theorem Stands.read_textTest (stands : Stands literal whole part) (test : StringTest)
    {source : List Token} (own : OwnText source)
    : Predicate.read (call test.name [source, [literal]]) = .ok (.textTest test part) := by
  have all : ∀ row ∈ [source, [literal]], IsArgument row := by
    simpa using ⟨own.isArgument, stands.isArgument⟩
  rw [Predicate.read_test test all, Predicate.readStringTest_other own.isAttribute,
    own.isTextSource, if_pos rfl, stands.textArgument]
  rfl

/-- A part of the own text is compared with the text of the literal. -/
theorem Stands.read_part (stands : Stands literal whole part) {function : String}
    {source : List Token} {others : List (List Token)} {predicate : Predicate}
    (plain : divides (word function) = false) (partial' : function ∉ Predicate.wholeFunctions)
    (own : OwnText source) (all : ∀ row ∈ others, IsArgument row)
    (found : Predicate.readTextPart function others .equal whole = .ok predicate)
    : Predicate.read (call function (source :: others) ++ [sign .equal, literal])
      = .ok predicate := by
  obtain ⟨value, denotes, rfl⟩ := stands.exists_ofTokens?
  obtain ⟨subject, reads⟩ := Predicate.reads_part plain partial' own all found
  have whole := Predicate.read_literal_right (subject.nested.mono Predicate.divides_of_endsSide)
    subject.nonempty denotes .equal 0
  exact whole.trans reads

-----------------------------------------------------------------------------------------
-- Comparisons and tests of a text
-----------------------------------------------------------------------------------------

theorem StringTest.holds_self (test : StringTest) (value : String)
    : test.holds value value = true := by
  cases test with
  | contains => cases text : value.toList <;> simp [holds, occursIn, cutAt?, text]
  | startsWith => simp [holds]
  | endsWith => simp [holds]

/-- A text equals a literal if that consists of its characters. -/
theorem Equality.holds_ofList (characters : List Char) (value : String)
    : Equality.equal.holds (String.ofList characters) value
      = decide (value.toList = characters) := by
  rw [Bool.eq_iff_iff, decide_eq_true_iff, holds, beq_iff_eq, ← String.toList_inj,
    String.toList_ofList, eq_comm]

/-- Rows whose comparisons and tests are about a text that they show of nodes, be it missing or not.
Every text without white space at its ends is shown of some node.
-/
structure Shows (subject : List Token) (shown : Document → Node → Option String) : Prop where
  equal : ∀ {document candidate literal whole part}, Stands literal whole part →
    (Decides document candidate (subject ++ [sign .equal, literal]) true
      ↔ shown document candidate.node = some whole)
  tested : ∀ {document candidate literal whole part actual} (test : StringTest),
    Stands literal whole part → shown document candidate.node = some actual →
    (Decides document candidate (call test.name [subject, [literal]]) true
      ↔ test.holds actual part = true)
  attained : ∀ text : String, text.trimmed = text →
    ∃ document ref node,
      document.Reachable ∧ document.node? ref = some node ∧ shown document node = some text

/-- The value of an attribute, which only elements have. -/
def attributeText? (name : String) : Node → Option String
  | .element _ _ attributes => Attribute.lookup? attributes name
  | _ => none

/-- An element with a text as the value of an attribute and as its own text. -/
def displaying (name text : String) : Document :=
  .fragment [.element "p" [⟨name, text, false⟩] [.text text]]

theorem branch?_displaying (name text : String)
    : (displaying name text).branch? 1
      = some (.mk 1 (.element "p" [⟨name, text, false⟩]) text [] "") := by
  simp [displaying, Document.fragment, Content.plant, Document.branch?, Document.branches,
    Branch.findAmong?, Branch.find?]

theorem node?_displaying (name text : String)
    : (displaying name text).node? (.element 1) = some (.element 1 "p" [⟨name, text, false⟩]) := by
  rw [Document.node?, branch?_displaying]

theorem fullText_displaying (name text : String)
    : (displaying name text).fullText (.element 1) = text := by
  rw [Document.fullText, branch?_displaying]
  simp [Branch.fullText, Branch.fullTextAmong]

theorem shows_attribute {name : String} (named : IsOperandName name)
    : Shows (attributeOf name) fun _ node => attributeText? name node where
  equal := by
    intro document candidate literal whole part stands
    rw [decides_iff (stands.read_attributeIs named) (stands.placed_compared rfl), Predicate.holds]
    cases candidate.node with
    | document | text => simp [attributeText?]
    | element id tag attributes =>
        simp only [attributeText?]
        cases Attribute.lookup? attributes name <;> simp [Equality.holds]
  tested := by
    intro document candidate literal whole part actual test stands shown
    have placed : (call test.name [attributeOf name, [literal]]).map (Token.placed fun _ => 0)
        = call test.name [attributeOf name, [literal]] := by
      cases stands <;> cases test <;> rfl
    rw [decides_iff (stands.read_attributeTest test name) placed, Predicate.holds]
    cases node : candidate.node with
    | document | text => simp [attributeText?, node] at shown
    | element id tag attributes =>
        simp only [attributeText?, node] at shown
        simp [shown]
  attained := by
    intro text unpadded
    refine ⟨displaying name text, .element 1, .element 1 "p" [⟨name, text, false⟩], .fragment _,
      node?_displaying name text, ?_⟩
    simp [attributeText?, Attribute.lookup?, Attribute.valueOf?]

theorem shows_ownText {source : List Token} (own : OwnText source)
    : Shows source fun document node => some (trimmedText document node) where
  equal := by
    intro document candidate literal whole part stands
    have placed : source.map (Token.placed fun _ => 0) = source := by cases own <;> rfl
    rw [decides_iff (stands.read_textIs own) (stands.placed_compared placed), Predicate.holds]
    simp [Equality.holds]
  tested := by
    intro document candidate literal whole part actual test stands shown
    have placed : (call test.name [source, [literal]]).map (Token.placed fun _ => 0)
        = call test.name [source, [literal]] := by
      cases own <;> cases stands <;> cases test <;> rfl
    rw [decides_iff (stands.read_textTest test own) placed, Predicate.holds,
      Option.some.inj shown, Except.ok.injEq]
  attained := by
    intro text unpadded
    refine ⟨displaying "n" text, .element 1, .element 1 "p" [⟨"n", text, false⟩], .fragment _,
      node?_displaying "n" text, ?_⟩
    exact congrArg some ((congrArg String.trimmed (fullText_displaying "n" text)).trans unpadded)

-----------------------------------------------------------------------------------------
-- Equality and parts
-----------------------------------------------------------------------------------------

/-- Whether nodes that equal a literal, as a row shows them, always pass the tests for it as well. -/
def Entails (literal : Token) (subject : List Token) : Prop :=
  ∀ (document : Document) (ref : NodeRef) (node : Node) (position size : Nat),
    document.Reachable → document.node? ref = some node →
    Decides document ⟨node, position, size⟩ (subject ++ [sign .equal, literal]) true →
    ∀ test : StringTest,
      Decides document ⟨node, position, size⟩ (call test.name [subject, [literal]]) true

/-- Equality entails the tests just if the literal stands for the same text in both. -/
theorem Shows.entails_iff {subject : List Token} {shown : Document → Node → Option String}
    (shows : Shows subject shown) (stands : Stands literal whole part)
    : Entails literal subject ↔ whole = part := by
  constructor
  · intro entails
    by_contra differ
    obtain ⟨document, ref, node, reachable, known, displayed⟩ :=
      shows.attained whole (stands.trimmed_eq differ)
    have passes (test : StringTest) : test.holds whole part = true :=
      (shows.tested test stands displayed).mp
        (entails document ref node 1 1 reachable known ((shows.equal stands).mpr displayed) test)
    refine differ (stands.eq_of_begins_of_ends ?_ ?_)
    · exact List.isPrefixOf_iff_prefix.mp (passes .startsWith)
    · exact List.isSuffixOf_iff_suffix.mp (passes .endsWith)
  · rintro rfl document ref node position size - - equal test
    have displayed := (shows.equal stands).mp equal
    exact (shows.tested test stands displayed).mpr (test.holds_self whole)

/--
Nodes that equal a literal also contain it, begin and end with it, just if it is a string or a number
that is written like the text of its value. This is so for the value of an attribute and for the text
of a node.
-/
theorem equality_entails_tests_iff {name text : String} {kind : TokenKind}
    (named : IsOperandName name) (known : kind = .string ∨ kind = .number)
    (lexeme : IsLexeme kind text.toList)
    : (Entails ⟨0, kind, text⟩ (attributeOf name)
        ↔ (kind = .number → (Number.read text).text = text))
      ∧ ∀ source, OwnText source →
        (Entails ⟨0, kind, text⟩ source ↔ (kind = .number → (Number.read text).text = text)) := by
  obtain ⟨whole, part, stands, same⟩
      : ∃ whole part, Stands ⟨0, kind, text⟩ whole part
        ∧ (whole = part ↔ (kind = .number → (Number.read text).text = text)) := by
    rcases known with rfl | rfl
    · exact ⟨_, _, .text, by simp⟩
    · exact ⟨_, _, .number lexeme, by simp⟩
  refine ⟨?_, fun source own => ?_⟩
  · rw [(shows_attribute named).entails_iff stands, same]
  · rw [(shows_ownText own).entails_iff stands, same]

theorem isOperandName_n : IsOperandName "n" :=
  ⟨.single (by decide) (List.all_eq_true.mp rfl), by intro connective; cases connective <;> decide⟩

/-- The integer is written like its text, the fraction has a zero too many. -/
theorem equality_entails_tests_integer
    : IsOperandName "n"
      ∧ IsLexeme .number "10".toList
      ∧ IsLexeme .number "1.50".toList
      ∧ Decides (displaying "n" "10") ⟨.element 1 "p" [⟨"n", "10", false⟩], 1, 1⟩
        (attributeOf "n" ++ [sign .equal, ⟨0, .number, "10"⟩]) true
      ∧ Decides (displaying "n" "10") ⟨.element 1 "p" [⟨"n", "10", false⟩], 1, 1⟩
        (call "contains" [attributeOf "n", [⟨0, .number, "10"⟩]]) true
      ∧ Entails ⟨0, .number, "10"⟩ [mark .dot]
      ∧ ¬Entails ⟨0, .number, "1.50"⟩ (attributeOf "n")
      ∧ ¬Entails ⟨0, .number, "1.50"⟩ (call "text" []) := by
  have ten : (Number.read "10").text = "10" := by decide +kernel
  have fraction : (Number.read "1.50").text = "1.5" := by decide +kernel
  have lexeme : IsLexeme .number "10".toList := .single (by decide) (List.all_eq_true.mp rfl)
  have lexeme' : IsLexeme .number "1.50".toList := by
    have shape : "1.50".toList = '1' :: ([] ++ '.' :: '5' :: ['0']) := by decide
    rw [shape]
    exact .double (by decide) (by simp) (by decide) (List.all_eq_true.mp rfl)
  have equal : Decides (displaying "n" "10") ⟨.element 1 "p" [⟨"n", "10", false⟩], 1, 1⟩
      (attributeOf "n" ++ [sign .equal, ⟨0, .number, "10"⟩]) true := by
    refine ((shows_attribute isOperandName_n).equal (.number lexeme)).mpr ?_
    rw [ten]
    rfl
  obtain ⟨ofValue, ofText⟩ := equality_entails_tests_iff isOperandName_n (.inr rfl) lexeme
  obtain ⟨ofValue', ofText'⟩ := equality_entails_tests_iff isOperandName_n (.inr rfl) lexeme'
  refine ⟨isOperandName_n, lexeme, lexeme', equal, ?_, ?_, ?_, ?_⟩
  · exact ofValue.mpr (fun _ => ten) _ _ _ 1 1 (.fragment _) (node?_displaying "n" "10") equal
      .contains
  · exact (ofText _ .dot).mpr fun _ => ten
  · intro entails
    exact absurd (ofValue'.mp entails rfl) (by rw [fraction]; decide)
  · intro entails
    exact absurd ((ofText' _ .text).mp entails rfl) (by rw [fraction]; decide)

/-- An attribute equals a number that is written with a zero in front, and does not contain it. -/
theorem equality_without_containment
    : (displaying "n" "1").node? (.element 1) = some (.element 1 "p" [⟨"n", "1", false⟩])
      ∧ IsLexeme .number "01".toList
      ∧ Decides (displaying "n" "1") ⟨.element 1 "p" [⟨"n", "1", false⟩], 1, 1⟩
        (attributeOf "n" ++ [sign .equal, ⟨0, .number, "01"⟩]) true
      ∧ ¬Decides (displaying "n" "1") ⟨.element 1 "p" [⟨"n", "1", false⟩], 1, 1⟩
        (call "contains" [attributeOf "n", [⟨0, .number, "01"⟩]]) true := by
  have one : (Number.read "01").text = "1" := by decide +kernel
  have lexeme : IsLexeme .number "01".toList := .single (by decide) (List.all_eq_true.mp rfl)
  have shown : attributeText? "n" (.element 1 "p" [⟨"n", "1", false⟩]) = some "1" := rfl
  refine ⟨node?_displaying "n" "1", lexeme, ?_, ?_⟩
  · refine ((shows_attribute isOperandName_n).equal (.number lexeme)).mpr ?_
    rw [one, shown]
  · intro decides
    have contains := ((shows_attribute isOperandName_n).tested .contains (.number lexeme) shown).mp
      decides
    exact absurd contains (by decide)

end HtmlQuery.XPath
