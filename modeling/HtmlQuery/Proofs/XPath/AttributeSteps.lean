import HtmlQuery.Proofs.XPath.Concatenation
import HtmlQuery.Proofs.XPath.NamedSteps

/-! Attributes behind a double slash. A step to attributes starts from the context nodes themselves,
also behind a separator that leads other steps further down. So it finds the same as behind a step to
all elements below only where these happen to have the same values as the context nodes.
-/

namespace HtmlQuery

namespace Document

end Document

namespace XPath

variable {document : Document} {name : String} {test : NodeTest}

/-- What may stand behind an at sign: a name in any letter case, or an asterisk for all names. -/
inductive NamesAttribute : String → NodeTest → Prop
  | name {name : String} (named : Token.IsLexeme .name name.toList)
    : NamesAttribute name (.name name.lowered)
  | all : NamesAttribute "*" .anyName

-----------------------------------------------------------------------------------------
-- What steps select
-----------------------------------------------------------------------------------------

/-- What stands behind a separator up to the end of an expression that leads to attributes. -/
theorem NamesAttribute.exists_laid (names : NamesAttribute name test) (start : Nat)
    : ∃ tokens,
      Token.Laid start tokens ("@" ++ name).toList
      ∧ ∀ suggested,
        Step.readBody suggested tokens = .ok (some ⟨⟨.attributes, test, []⟩, [], []⟩) := by
  rw [String.toList_append]
  cases names with
  | name named =>
      exact ⟨_, Token.laid_mark_name .atSign rfl (fun _ => trivial) named start,
        fun suggested => Step.readBody_attribute suggested _ _ name⟩
  | all =>
      have sign : Token.IsLexeme .atSign "@".toList := rfl
      have star : Token.IsLexeme .asterisk "*".toList := rfl
      have behind : Token.Laid (start + 1) _ ("*".toList ++ []) :=
        .lexeme star trivial (.done (by simp))
      exact ⟨_, .lexeme sign trivial behind, fun suggested => rfl⟩

/-- A paragraph with a number and an element with the same number in it. -/
def numbered : Document :=
  .fragment [.element "p" [⟨"n", "1", false⟩] [.element "b" [⟨"n", "1", false⟩] []]]

end XPath

end HtmlQuery
