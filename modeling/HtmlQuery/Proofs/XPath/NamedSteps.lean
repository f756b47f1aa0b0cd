import HtmlQuery.Proofs.XPath.LexicalRow
import HtmlQuery.Proofs.XPath.PathSpelling

/-! Steps whose test is a name at the end of an expression. They are read in whatever letter case the
name is written; the test keeps it in lower case.
-/

namespace HtmlQuery.XPath

-----------------------------------------------------------------------------------------
-- Names behind marks
-----------------------------------------------------------------------------------------

namespace Token

variable {name : String}

/-- Names hold no characters but those that they begin or go on with, and a colon. -/
theorem not_mem_name (named : IsLexeme .name name.toList) {c : Char}
    (noStart : Text.isNameStart c = false) (noPart : isNamePart c = false) (other : c ≠ ':')
    : c ∉ name.toList := by
  intro member
  rcases Joined.mem named c member with starts | part | same
  · simp [starts] at noStart
  · simp [part] at noPart
  · exact other same

theorem isNameStart_of_name (named : IsLexeme .name name.toList)
    : ∀ c ∈ name.toList.head?, Text.isNameStart c = true := by
  intro c first
  generalize name.toList = text at named first
  cases named with
  | single starts | double starts =>
      cases first
      exact starts

/-- A name is laid out on its own. -/
theorem laid_name (named : IsLexeme .name name.toList) (start : Nat)
    : Laid start [⟨start, .name, name⟩] name.toList := by
  have whole : Laid start _ (name.toList ++ []) :=
    .lexeme named (ends_nil .name name.toList) (.done (by simp))
  simpa only [String.ofList_toList, List.append_nil] using whole

/-- A name is laid out directly behind a mark that nothing can prolong. -/
theorem laid_mark_name (kind : TokenKind) (single : kind.isMark = true)
    (ends : ∀ next, Ends kind kind.sign.toList next) (named : IsLexeme .name name.toList)
    (start : Nat)
    : Laid start
        [⟨start, kind, kind.sign⟩, ⟨start + kind.sign.toList.length, .name, name⟩]
        (kind.sign.toList ++ name.toList) := by
  have whole : Laid start _ (kind.sign.toList ++ name.toList) :=
    .lexeme (isLexeme_sign single) (ends _) (laid_name named _)
  simpa only [String.ofList_toList] using whole

/-- A name is laid out behind an axis. -/
theorem laid_axis_name (axis : Axis) (named : IsLexeme .name name.toList) (start : Nat)
    : ∃ start' start'',
      Laid start [⟨start, .name, axis.name⟩, ⟨start', .doubleColon, "::"⟩, ⟨start'', .name, name⟩]
        (axis.name ++ "::" ++ name).toList := by
  have plain : isPlainName axis.name = true := by cases axis <;> rfl
  have behind : Laid (start + axis.name.toList.length) _ ("::".toList ++ name.toList) :=
    laid_mark_name .doubleColon rfl (fun _ => trivial) named _
  have ends : Ends .name axis.name.toList ("::".toList ++ name.toList) := by
    refine ⟨?_, .inr ?_⟩
    · rintro c ⟨⟩
      decide
    · rintro more ⟨⟩ c ⟨⟩
      decide
  have whole : Laid start _ (axis.name.toList ++ ("::".toList ++ name.toList)) :=
    .lexeme (isLexeme_of_isPlainName plain) ends behind
  have shape : (axis.name ++ "::" ++ name).toList
      = axis.name.toList ++ ("::".toList ++ name.toList) := by
    simp
  rw [String.ofList_toList] at whole
  rw [shape]
  exact ⟨_, _, whole⟩

end Token

-----------------------------------------------------------------------------------------
-- Steps at the end
-----------------------------------------------------------------------------------------

namespace Step

/-- A name at the end is the whole test. -/
theorem readBody_name (axis : Axis) (start : Nat) (name : String)
    : readBody axis [⟨start, .name, name⟩]
      = .ok (some ⟨⟨axis, .name name.lowered, []⟩, [], []⟩) := by
  rw [readBody_other axis (by simp)]
  simp only [readTest, axisName?, Option.getD_none, nodeTest?, readGroups]
  split
  · rfl
  · rw [Predicates.read_other (by simp)]
    rfl

/-- A name at the end behind an at sign demands an attribute. -/
theorem readBody_attribute (axis : Axis) (start start' : Nat) (name : String)
    : readBody axis [⟨start, .atSign, "@"⟩, ⟨start', .name, name⟩]
      = .ok (some ⟨⟨.attributes, .name name.lowered, []⟩, [], []⟩) := by
  rw [readBody_other axis (by simp)]
  rfl

/-- An axis in front of a name leads to what has the name. -/
theorem readBody_axis (suggested axis : Axis) (start start' start'' : Nat) (name : String)
    : readBody suggested [⟨start, .name, axis.name⟩, ⟨start', .doubleColon, "::"⟩,
        ⟨start'', .name, name⟩]
      = .ok (some ⟨⟨axis, .name name.lowered, []⟩, [], []⟩) := by
  rw [readBody_other suggested (by simp), ← readBody_name axis start'' name,
    readBody_other axis (by simp)]
  simp only [readTest, axisName?, Axis.ofName?_eq_some.mpr rfl, Option.map_some, Option.getD_some,
    Option.getD_none]

end Step

namespace Path

/-- A single step that takes all tokens makes a path. -/
theorem exists_covers_of_read {expression : String} {step : Step}
    (found : Step.read true (Token.scan expression) = .ok (some ⟨step, [], []⟩))
    : ∃ path : Path, path.Covers expression ∧ path.steps = [step] :=
  covers_of_steps (Steps.read_of_step found (Steps.read_nil false)) (by simp)

/-- Behind a slash, a single step goes on from what is in front. -/
theorem exists_covers_next_of_laid {expression : String} {tokens : List Token} {step : Step}
    (laid : Token.Laid 1 tokens expression.toList) (other : '/' ∉ expression.toList.head?)
    (found : Step.readBody .child tokens = .ok (some ⟨step, [], []⟩))
    : Separated (Token.scan ("/" ++ expression))
      ∧ ∃ path : Path, path.Covers ("/" ++ expression) ∧ path.steps = [step] := by
  have ends : Token.Ends .slash ['/'] expression.toList := fun c first =>
    beq_false_of_ne fun same => other (same ▸ first)
  have lexeme : Token.IsLexeme .slash ['/'] := rfl
  have whole : Token.Laid 0 _ (['/'] ++ expression.toList) := .lexeme lexeme ends laid
  have shape : ("/" ++ expression).toList = ['/'] ++ expression.toList := String.toList_append ..
  have scanned := whole.scanFrom_eq
  rw [← shape] at scanned
  constructor
  · rw [Token.scan, scanned]
    exact ⟨_, rfl, .inl rfl⟩
  · apply exists_covers_of_read
    rw [Token.scan, scanned, Step.read_eq]
    exact found

variable {name : String}

theorem exists_covers_attribute (named : Token.IsLexeme .name name.toList)
    : ∃ path : Path,
      path.Covers ("@" ++ name) ∧ path.steps = [⟨.attributes, .name name.lowered, []⟩] := by
  have laid : Token.Laid 0 _ ("@".toList ++ name.toList) :=
    Token.laid_mark_name .atSign rfl (fun _ => trivial) named 0
  apply exists_covers_of_read
  rw [Token.scan, String.toList_append, laid.scanFrom_eq, Step.read_eq]
  exact Step.readBody_attribute .child _ _ name

theorem exists_covers_next_attribute (named : Token.IsLexeme .name name.toList)
    : Separated (Token.scan ("/@" ++ name))
      ∧ ∃ path : Path,
        path.Covers ("/@" ++ name) ∧ path.steps = [⟨.attributes, .name name.lowered, []⟩] := by
  have shape : "/@" ++ name = "/" ++ ("@" ++ name) := by simp [← String.toList_inj]
  have laid : Token.Laid 1 _ ("@".toList ++ name.toList) :=
    Token.laid_mark_name .atSign rfl (fun _ => trivial) named 1
  rw [← String.toList_append] at laid
  rw [shape]
  exact exists_covers_next_of_laid laid (by simp) (Step.readBody_attribute .child _ _ name)

theorem exists_covers_axis (axis : Axis) (named : Token.IsLexeme .name name.toList)
    : ∃ path : Path,
      path.Covers (axis.name ++ "::" ++ name) ∧ path.steps = [⟨axis, .name name.lowered, []⟩] := by
  obtain ⟨_, _, laid⟩ := Token.laid_axis_name axis named 0
  apply exists_covers_of_read
  rw [Token.scan, laid.scanFrom_eq, Step.read_eq]
  exact Step.readBody_axis .child axis _ _ _ name

/-- Behind two slashes, a name in lower case leads to all elements below that have it. -/
theorem covers_descendants (name : String) (named : Token.IsLexeme .name name.toList)
    (low : name.lowered = name)
    : Covers ⟨[⟨.descendant, .name name, []⟩], "", []⟩ ("//" ++ name) := by
  have laid : Token.Laid 0 _ ("//".toList ++ name.toList) :=
    Token.laid_mark_name .doubleSlash rfl (fun _ => trivial) named 0
  have tested := Step.readBody_name .descendant (0 + "//".toList.length) name
  rw [low] at tested
  refine covers_iff.mpr ⟨by simp, [], ?_, rfl⟩
  rw [Token.scan, String.toList_append, laid.scanFrom_eq]
  refine Steps.read_of_step ?_ (Steps.read_nil false)
  rw [Step.read_eq]
  exact tested

/-- Behind a slash, a name leads to children. -/
theorem exists_covers_next_name (named : Token.IsLexeme .name name.toList)
    : Separated (Token.scan ("/" ++ name))
      ∧ ∃ path : Path,
        path.Covers ("/" ++ name) ∧ path.steps = [⟨.child, .name name.lowered, []⟩] := by
  have inner : '/' ∉ name.toList.head? := fun first =>
    Token.not_mem_name named (by decide) (by decide) (by decide) (List.mem_of_head? first)
  exact exists_covers_next_of_laid (Token.laid_name named 1) inner
    (Step.readBody_name .child _ name)

/-- Behind a slash, a name leads along the axis in front of it. -/
theorem exists_covers_next_axis (axis : Axis) (named : Token.IsLexeme .name name.toList)
    : Separated (Token.scan ("/" ++ (axis.name ++ "::" ++ name)))
      ∧ ∃ path : Path,
        path.Covers ("/" ++ (axis.name ++ "::" ++ name))
        ∧ path.steps = [⟨axis, .name name.lowered, []⟩] := by
  obtain ⟨_, _, laid⟩ := Token.laid_axis_name axis named 1
  refine exists_covers_next_of_laid laid ?_ (Step.readBody_axis .child axis _ _ _ name)
  cases axis <;> simp [Axis.name]

end Path

end HtmlQuery.XPath
