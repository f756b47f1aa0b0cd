import HtmlQuery.Proofs.XPath.PredicateSpelling
import HtmlQuery.XPath.Evaluate

/-! What rows of tokens say of a candidate: the truth value of the predicate that they are read as. -/

namespace HtmlQuery.XPath

variable {document : Document} {candidate : Candidate} {row : List Token} {predicate : Predicate}
  {value : Bool}

/-- A row of tokens, wherever they stand, is read as a predicate that has a truth value for a
candidate.
-/
def Decides (document : Document) (candidate : Candidate) (row : List Token) (value : Bool) : Prop :=
  ∃ predicate,
    (∀ tokens, tokens.map (Token.placed fun _ => 0) = row → Predicate.read tokens = .ok predicate)
    ∧ predicate.holds document candidate = .ok value

theorem decides_of_read (found : Predicate.read row = .ok predicate)
    (holds : predicate.holds document candidate = .ok value)
    : Decides document candidate row value := by
  refine ⟨predicate, fun tokens same => ?_, holds⟩
  rw [← Predicate.read_placed (fun _ => 0), same, found]

theorem decides_of_spelled {level : Predicate.Level}
    (spelled : Predicate.Spelled level predicate row)
    (holds : predicate.holds document candidate = .ok value)
    : Decides document candidate row value :=
  decides_of_read spelled.reads.whole holds

/-- A row that is read has the truth value of its predicate. -/
theorem decides_iff (found : Predicate.read row = .ok predicate)
    (placed : row.map (Token.placed fun _ => 0) = row)
    : Decides document candidate row value ↔ predicate.holds document candidate = .ok value := by
  refine ⟨?_, decides_of_read found⟩
  rintro ⟨predicate', reads, holds⟩
  obtain rfl := Except.ok.inj (found.symm.trans (reads row placed))
  exact holds

/-- A row has one truth value for a candidate. -/
theorem Decides.unique {other : Bool} (decides : Decides document candidate row value)
    (decides' : Decides document candidate row other)
    (placed : row.map (Token.placed fun _ => 0) = row)
    : value = other := by
  obtain ⟨predicate, found, holds⟩ := decides
  obtain ⟨predicate', found', holds'⟩ := decides'
  obtain rfl := Except.ok.inj ((found row placed).symm.trans (found' row placed))
  exact Except.ok.inj (holds.symm.trans holds')

end HtmlQuery.XPath
