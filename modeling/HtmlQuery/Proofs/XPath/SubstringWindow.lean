import HtmlQuery.Proofs.XPath.FilteredSelection

/-! Parts of a text by the positions of its characters, which count from one. A part that is to begin
in front of the first character is taken from there on with its full length, so it ends too late.
-/

namespace HtmlQuery.XPath

open Token

-----------------------------------------------------------------------------------------
-- Characters by their positions
-----------------------------------------------------------------------------------------

/-- The characters of a text at some of its positions, which count from one. -/
def charactersAt (inside : Nat → Bool) (text : List Char) : List Char :=
  ((text.zipIdx 1).filter fun (_, position) => inside position).map Prod.fst

/-- The positions from a first one on, as many as a length allows. -/
def window (start length position : Nat) : Bool :=
  start ≤ position ∧ position < start + length

/-- The entries between two indices are a slice; by induction on the text, with the index of its first
character generalised.
-/
theorem between_zipIdx (start stop first : Nat) (text : List Char)
    : ((text.zipIdx first).filter fun (_, position) =>
        decide (start ≤ position ∧ position < stop)).map Prod.fst
      = (text.take (stop - first)).drop (start - first) := by
  induction text generalizing first with
  | nil => simp
  | cons c rest ih =>
      rw [List.zipIdx_cons]
      by_cases before : first < stop
      · have taken : stop - first = stop - (first + 1) + 1 := by omega
        rw [taken, List.take_succ_cons]
        by_cases behind : start ≤ first
        · have none : start - first = 0 := by omega
          have none' : start - (first + 1) = 0 := by omega
          rw [List.filter_cons_of_pos (by simp [behind, before]), List.map_cons, ih, none, none']
          rfl
        · have dropped : start - first = start - (first + 1) + 1 := by omega
          rw [List.filter_cons_of_neg (by simp [behind]), ih, dropped]
          rfl
      · have none : stop - first = 0 := by omega
        have none' : stop - (first + 1) = 0 := by omega
        rw [List.filter_cons_of_neg (by simp [before]), ih, none, none']
        simp

/-- The characters from a position on are what is left without those in front. -/
theorem charactersAt_from (start : Nat) (text : List Char)
    : charactersAt (start ≤ ·) text = text.drop (start - 1) := by
  have all := between_zipIdx start (1 + text.length) 1 text
  rw [Nat.add_sub_cancel_left, List.take_length] at all
  rw [← all, charactersAt]
  congr 1
  refine List.filter_congr fun entry member => ?_
  have last := List.snd_lt_of_mem_zipIdx member
  simp only [decide_eq_decide]
  omega

/-- The characters in a window are a slice. -/
theorem charactersAt_window (start length : Nat) (text : List Char)
    : charactersAt (window start length) text
      = (text.take (start + length - 1)).drop (start - 1) :=
  between_zipIdx start (start + length) 1 text

/-- A window that begins at the first character or later is what is cut out of a text. -/
theorem charactersAt_window_one (start length : Nat) (text : List Char)
    : charactersAt (window (max start 1) length) text = (text.drop (start - 1)).take length := by
  have first : max start 1 - 1 = start - 1 := by omega
  have stop : max start 1 + length - 1 = start - 1 + length := by omega
  rw [charactersAt_window, List.take_drop, first, stop]

/-- A window may begin at the first character instead of the position in front of it just if there is
no character in which they differ.
-/
theorem charactersAt_window_one_eq_iff (start length : Nat) (text : List Char)
    : charactersAt (window start length) text = charactersAt (window (max start 1) length) text
      ↔ 1 ≤ start ∨ length = 0 ∨ text.length < length := by
  rcases Nat.eq_zero_or_pos start with rfl | positive
  · rw [charactersAt_window, charactersAt_window]
    have stop : max 0 1 + length - 1 = length := by omega
    have first : max 0 1 - 1 = 0 := rfl
    simp only [Nat.zero_add, Nat.zero_sub, List.drop_zero, stop, first]
    rw [List.take_eq_take_iff]
    omega
  · exact iff_of_true (by rw [Nat.max_eq_left positive]) (.inl positive)

-----------------------------------------------------------------------------------------
-- Comparisons of parts
-----------------------------------------------------------------------------------------

/-- A comparison of the part of the own text that some integers tell with a literal. -/
def partCompared (source : List Token) (integers : List String) (literal : Token) : List Token :=
  call "substring" (source :: integers.map fun digits => [⟨0, .number, digits⟩])
    ++ [sign .equal, literal]

variable {document : Document} {source : List Token} {literal : Token} {value part : String}
  {digits digits' : String} {start length : Nat}

/-- What is cut out of a text with some integers is compared with the literal. -/
theorem partCompared_says (start : Nat) (extent : Option Nat) (own : OwnText source)
    (stands : Stands literal value part) {integers : List String}
    {characters : List Char → List Char}
    (found : Predicate.readTextPart "substring"
        (integers.map fun digits => [⟨0, .number, digits⟩]) .equal value
      = .ok (.substring start extent .equal value))
    (cut : ∀ text, substring text start extent = String.ofList (characters text.toList))
    : Says document (partCompared source integers literal) fun ref =>
        decide (value.toList = characters (document.ownText ref)) := by
  have arguments
      : ∀ row ∈ integers.map fun digits => [(⟨0, .number, digits⟩ : Token)], IsArgument row := by
    simpa using fun _ _ => isArgument_single rfl rfl rfl
  have enclosed : Enclosed (partCompared source integers literal) := by
    refine stands.enclosed_compared (enclosed_call "substring" ?_) .equal
    simpa using ⟨own.enclosed, fun _ _ => enclosed_single (by simp) rfl rfl⟩
  refine says_of_read enclosed (stands.read_part rfl (by decide) own arguments found) ?_
  intro candidate
  rw [Predicate.holds, cut, Equality.holds_ofList]
  rfl

/-- The literal is compared with the characters from a position on. -/
theorem partCompared_from (own : OwnText source)
    (first : (Literal.number (.finite start 0)).Spelled ⟨0, .number, digits⟩)
    (stands : Stands literal value part)
    : Says document (partCompared source [digits] literal) fun ref =>
        decide (value.toList = charactersAt (start ≤ ·) (document.ownText ref)) := by
  refine partCompared_says start none own stands ?_ fun text => ?_
  · simp only [List.map_singleton, Predicate.readTextPart, first.integerArgument]
    rfl
  · rw [charactersAt_from]
    rfl

/-- The literal is compared with the characters in a window that begins at a character. -/
theorem partCompared_window (own : OwnText source)
    (first : (Literal.number (.finite start 0)).Spelled ⟨0, .number, digits⟩)
    (extent : (Literal.number (.finite length 0)).Spelled ⟨0, .number, digits'⟩)
    (stands : Stands literal value part)
    : Says document (partCompared source [digits, digits'] literal) fun ref =>
        decide (value.toList
          = charactersAt (window (max start 1) length) (document.ownText ref)) := by
  refine partCompared_says start (some length) own stands ?_ fun text => ?_
  · simp only [List.map_cons, List.map_nil, Predicate.readTextPart, first.integerArgument,
      extent.integerArgument]
    rfl
  · rw [charactersAt_window_one]
    rfl

/--
A part of the own text, as integers written in digits tell it, consists of the characters from a
position on, or those in the window that begins there, or at the first character if it would begin in
front of it. Those are the characters in the window itself just if it doesn't begin in front of the
first character, or has no length, or is longer than the text.
-/
theorem substring_selects_window_iff (own : OwnText source) (begins : IsDecimal digits start)
    (exact : Decimal.Representable start) (spans : IsDecimal digits' length)
    (exact' : Decimal.Representable length) (document : Document)
    : (∀ {literal value part}, Stands literal value part →
        Says document (partCompared source [digits] literal) (fun ref =>
          decide (value.toList = charactersAt (start ≤ ·) (document.ownText ref)))
        ∧ Says document (partCompared source [digits, digits'] literal) (fun ref =>
          decide (value.toList
            = charactersAt (window (max start 1) length) (document.ownText ref))))
      ∧ ∀ candidate,
        (∀ {literal value part}, Stands literal value part →
          Decides document candidate (partCompared source [digits, digits'] literal)
            (decide (value.toList
              = charactersAt (window start length) (document.ownText candidate.node.ref))))
        ↔ 1 ≤ start ∨ length = 0 ∨ (document.ownText candidate.node.ref).length < length := by
  have first : (Literal.number (.finite start 0)).Spelled ⟨0, .number, digits⟩ :=
    .number begins.isLexeme (begins.read exact)
  have extent : (Literal.number (.finite length 0)).Spelled ⟨0, .number, digits'⟩ :=
    .number spans.isLexeme (spans.read exact')
  refine ⟨fun stands => ⟨partCompared_from own first stands,
    partCompared_window own first extent stands⟩, fun candidate => ?_⟩
  rw [← charactersAt_window_one_eq_iff]
  constructor
  · intro decides
    -- the literal that quotes the characters of the window tells the two windows apart
    have quoted : Stands ⟨0, .string, quote '"' (String.ofList (charactersAt (window start length)
        (document.ownText candidate.node.ref)))⟩ _ _ :=
      .of_unquote (unquote_quote (.inl rfl) _)
    have placed : (partCompared source [digits, digits'] _).map (Token.placed fun _ => 0)
        = partCompared source [digits, digits'] _ :=
      quoted.placed_compared (by cases own <;> rfl)
    have same := (decides quoted).unique
      ((partCompared_window own first extent quoted).decides candidate) placed
    simpa using same
  · intro same _ _ _ stands
    rw [same]
    exact (partCompared_window own first extent stands).decides candidate

/-- Two elements whose texts begin alike, but for their first characters. -/
def beganAlike : Document :=
  .fragment [.element "p" [] [.text " hello "], .element "p" [] [.text "yellow"]]

theorem substring_selects_window_hello
    : beganAlike.Reachable
      ∧ OwnText [mark .dot]
      ∧ IsDecimal "02" 2
      ∧ IsDecimal "3" 3
      ∧ Decimal.Representable 2
      ∧ Decimal.Representable 3
      ∧ charactersAt (2 ≤ ·) "hello".toList = "ello".toList
      ∧ charactersAt (window 2 3) "hello".toList = "ell".toList
      ∧ outcome beganAlike "*" [.node .document] = .ok [.node (.element 1), .node (.element 2)]
      ∧ outcome beganAlike "*[substring(., 02)='ello']" [.node .document]
        = .ok [.node (.element 1)]
      ∧ outcome beganAlike "*[substring(., 02, 3)='ell']" [.node .document]
        = .ok [.node (.element 1), .node (.element 2)] := by
  have reachable : beganAlike.Reachable := .fragment _
  have digits : Text.isDigit '0' = true ∧ Text.isDigit '2' = true := by decide
  have two : IsDecimal "02" 2 := ⟨by decide, by simpa using digits, by decide⟩
  have three : IsDecimal "3" 3 := isDecimal_toString 3
  have exact : Decimal.Representable 2 := Decimal.representable_of_le (by decide)
  have exact' : Decimal.Representable 3 := Decimal.representable_of_le (by decide)
  have ello : Stands ⟨0, .string, "'ello'"⟩ "ello" "ello" := .of_unquote (by decide +kernel)
  have ell : Stands ⟨0, .string, "'ell'"⟩ "ell" "ell" := .of_unquote (by decide +kernel)
  have all : outcome beganAlike "*" [.node .document]
      = .ok [.node (.element 1), .node (.element 2)] := by
    rw [outcome_of_covers extensible_star.1]
    cbv
  obtain ⟨compares, -⟩ := substring_selects_window_iff .dot two exact three exact' beganAlike
  have rest := ((compares ello).1.filters reachable).outcome_star "substring(., 02)='ello'"
    (by decide +kernel) [.node .document]
  have cut := ((compares ell).2.filters reachable).outcome_star "substring(., 02, 3)='ell'"
    (by decide +kernel) [.node .document]
  have first : beganAlike.ownText (.element 1) = "hello".toList := by cbv
  have second : beganAlike.ownText (.element 2) = "yellow".toList := by cbv
  have hello : charactersAt (2 ≤ ·) "hello".toList = "ello".toList := by decide +kernel
  have yellow : charactersAt (2 ≤ ·) "yellow".toList ≠ "ello".toList := by decide +kernel
  have hell : charactersAt (window 2 3) "hello".toList = "ell".toList := by decide +kernel
  have second' : max 2 1 = 2 := rfl
  have yell : charactersAt (window 2 3) "yellow".toList = "ell".toList := by decide +kernel
  rw [all] at rest cut
  refine ⟨reachable, .dot, two, three, exact, exact', hello, hell, all, rest.trans ?_,
    cut.trans ?_⟩
  · simp only [Except.map, List.filter_cons, List.filter_nil, Item.isKept, first, second, hello,
      decide_true, if_true, decide_eq_true_iff, yellow.symm, if_false]
  · simp only [Except.map, List.filter_cons, List.filter_nil, Item.isKept, first, second, second',
      hell, yell, decide_true, if_true]

/-- A window in front of the first character isn't shortened by the part that has no characters: of two
positions from zero on, only one has a character, but two are cut out.
-/
theorem substring_window_zero
    : IsDecimal "0" 0
      ∧ IsDecimal "2" 2
      ∧ (Document.fragment [.element "p" [] [.text "abc"]]).ownText (.element 1) = "abc".toList
      ∧ charactersAt (window 0 2) "abc".toList = "a".toList
      ∧ outcome (.fragment [.element "p" [] [.text "abc"]]) "p[substring(., 0, 2)='a']"
          [.node .document]
        = .ok []
      ∧ outcome (.fragment [.element "p" [] [.text "abc"]]) "p[substring(., 0, 2)='ab']"
          [.node .document]
        = .ok [.node (.element 1)] := by
  have covers : Path.Covers ⟨[⟨.child, .name "p", [.substring 0 (some 2) .equal "a"]⟩], "", []⟩
      "p[substring(., 0, 2)='a']" :=
    ⟨by decide +kernel, by decide⟩
  have covers' : Path.Covers ⟨[⟨.child, .name "p", [.substring 0 (some 2) .equal "ab"]⟩], "", []⟩
      "p[substring(., 0, 2)='ab']" :=
    ⟨by decide +kernel, by decide⟩
  have children : Axis.child.nodes (.fragment [.element "p" [] [.text "abc"]]) .document
      = [.element 1 "p" []] := by
    cbv
  have named : [Node.element 1 "p" []].filter (NodeTest.name "p").accepts
      = [.element 1 "p" []] := by
    decide +kernel
  refine ⟨isDecimal_toString 0, isDecimal_toString 2, by cbv, by decide +kernel, ?_, ?_⟩
  · rw [outcome_of_covers covers, Path.select_step, Step.select_node _ (by decide), children, named]
    cbv
  · rw [outcome_of_covers covers', Path.select_step, Step.select_node _ (by decide), children, named]
    cbv

end HtmlQuery.XPath
