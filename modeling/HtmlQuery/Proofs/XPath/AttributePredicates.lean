import HtmlQuery.Proofs.XPath.FilteredSelection

/-! Predicates about an attribute. What is in brackets is cut at the words of the connectives before
anything else, so only other names are names behind an at sign; a predicate with one of those words is
skipped.
-/

namespace HtmlQuery

/-- Whether a node is an element with an attribute of a name, written like that or in lower case. -/
def Document.hasAttribute (document : Document) (name : String) (ref : NodeRef) : Bool :=
  (document.attributes ref).any fun entry => entry.name == name || entry.name == name.lowered

namespace XPath

open Token

variable {document : Document} {name : String}

-----------------------------------------------------------------------------------------
-- Attributes of nodes
-----------------------------------------------------------------------------------------

theorem isSome_lookup? (attributes : List Attribute) (name : String)
    : (Attribute.lookup? attributes name).isSome
      = attributes.any fun entry => entry.name == name || entry.name == name.lowered := by
  rw [Bool.eq_iff_iff, Attribute.lookup?, Option.isSome_or, Attribute.valueOf?, Attribute.valueOf?,
    Option.isSome_map, Option.isSome_map, Bool.or_eq_true, List.find?_isSome, List.find?_isSome,
    List.any_eq_true]
  simp only [Bool.or_eq_true, and_or_left, exists_or]

theorem keeps_hasAttribute (document : Document) (name : String)
    : (Predicate.hasAttribute name).Keeps document (document.hasAttribute name) := by
  intro node position size known
  rw [Predicate.holds, Document.hasAttribute, ← isSome_lookup?, Document.attributes, known]
  cases node <;> rfl

/-- The attribute of a node has a value; other nodes than elements have no attributes. -/
theorem keeps_attributeIs (document : Document) (name value : String)
    : (Predicate.attributeIs name .equal value).Keeps document fun ref =>
        Attribute.lookup? (document.attributes ref) name == some value := by
  intro node position size known
  simp only [Predicate.holds, Document.attributes, known]
  cases node with
  | document | text => rfl
  | element id tag attributes =>
      cases found : Attribute.lookup? attributes name <;> simp [found, Equality.holds]

-----------------------------------------------------------------------------------------
-- Names behind an at sign
-----------------------------------------------------------------------------------------

theorem read_attributeOf (named : IsOperandName name)
    : Predicate.read (attributeOf name) = .ok (.hasAttribute name) :=
  (Predicate.Spelled.hasAttribute named).reads.whole

/-- An at sign on its own is refused, whatever operands stand behind it. -/
theorem readOperands_atSign (connective : Connective) (others : List (Token × List Token))
    : Predicate.readOperands connective ⟨[mark .atSign], others⟩ = .error .unsupported := by
  have refused : Predicate.read [mark .atSign] = .error .unsupported := by
    rw [Predicate.read_eq]
    rfl
  rw [Predicate.readOperands]
  split
  · rfl
  · rw [Partition.parts, List.mapM_cons, refused]
    rfl

/-- The word of a connective behind an at sign is taken for the connective, and so nothing is left for
the at sign.
-/
theorem read_atSign_word (connective : Connective) {rest : List Token}
    (uncut : ∀ connective, Nested (Predicate.separates connective) rest)
    : Predicate.read (attributeOf connective.word ++ rest) = .error .unsupported := by
  have cut : partition (Predicate.separates connective) (attributeOf connective.word ++ rest)
      = ⟨[mark .atSign], [(word connective.word, rest)]⟩ := by
    have alone : Balanced [mark .atSign] := .single rfl rfl rfl
    have separates : Predicate.separates connective (word connective.word) = true := by
      simp [isKeyword, word]
    exact partition_extend alone rfl rfl separates (uncut connective)
  rw [Predicate.read_eq]
  cases connective with
  | or =>
      rw [cut, if_pos (by simp), readOperands_atSign]
  | and =>
      have whole : Nested (Predicate.separates .or) (attributeOf Connective.and.word ++ rest) :=
        .plain rfl rfl rfl (.plain rfl rfl rfl (uncut .or))
      rw [partition_eq whole, cut, if_neg (by simp), if_pos (by simp), readOperands_atSign]

theorem enclosed_attributeOf (name : String) : Enclosed (attributeOf name) where
  readable := by simp [attributeOf, mark, word]
  balanced := .plain rfl rfl rfl (.single rfl rfl rfl)

-----------------------------------------------------------------------------------------
-- Names that are understood
-----------------------------------------------------------------------------------------

/--
Behind an at sign, each name but the words of the connectives is understood: the predicate keeps just
the elements with an attribute of that name, and with a literal behind it those whose attribute has the
literal's text. With the word of a connective, both are skipped.
-/
theorem attribute_predicates_iff (reachable : document.Reachable)
    (named : IsLexeme .name name.toList) {literal : Token} {value part : String}
    (stands : Stands literal value part)
    : (Filters document (attributeOf name) (document.hasAttribute name)
          ∧ Filters document (attributeOf name ++ [sign .equal, literal]) (fun ref =>
            Attribute.lookup? (document.attributes ref) name == some value)
        ↔ ∀ connective : Connective, name ≠ connective.word)
      ∧ ∀ connective : Connective, name = connective.word →
        Skipped (attributeOf name) ∧ Skipped (attributeOf name ++ [sign .equal, literal]) := by
  have enclosed := stands.enclosed_compared (enclosed_attributeOf name) .equal
  have skipped : ∀ connective : Connective, name = connective.word →
      Skipped (attributeOf name) ∧ Skipped (attributeOf name ++ [sign .equal, literal]) := by
    rintro connective rfl
    refine ⟨skipped_of_read (enclosed_attributeOf _) ?_, skipped_of_read enclosed ?_⟩
    · rw [← List.append_nil (attributeOf connective.word)]
      exact read_atSign_word connective fun _ => .nil
    · refine read_atSign_word connective fun _ => ?_
      cases stands <;> exact .plain rfl rfl rfl (.single rfl rfl rfl)
  refine ⟨⟨?_, fun other => ?_⟩, skipped⟩
  · rintro ⟨filters, -⟩ connective same
    exact (skipped connective same).1.not_filters (lexical_attributeOf named) filters
  · have operand : IsOperandName name := ⟨named, other⟩
    exact ⟨filters_of_read reachable (enclosed_attributeOf name) (read_attributeOf operand)
        (keeps_hasAttribute document name),
      filters_of_read reachable enclosed (stands.read_attributeIs operand)
        (keeps_attributeIs document name value)⟩

/-- Two elements, the first of which has an attribute. -/
def labelledFirst : Document :=
  .fragment [.element "p" [⟨"n", "v", false⟩] [], .element "p" [] []]

/-- The first element is the one with the attribute; with a word that joins, both are kept. -/
theorem attribute_predicates_first
    : labelledFirst.Reachable
      ∧ IsLexeme .name "n".toList
      ∧ IsLexeme .name "or".toList
      ∧ Stands ⟨0, .string, "'v'"⟩ "v" "v"
      ∧ outcome labelledFirst "*" [.node .document] = .ok [.node (.element 1), .node (.element 2)]
      ∧ outcome labelledFirst "*[@n]" [.node .document] = .ok [.node (.element 1)]
      ∧ outcome labelledFirst "*[ @n='v']" [.node .document] = .ok [.node (.element 1)]
      ∧ outcome labelledFirst "*[@or]" [.node .document]
        = .ok [.node (.element 1), .node (.element 2)] := by
  have reachable : labelledFirst.Reachable := .fragment _
  have plain : IsLexeme .name "n".toList := isLexeme_of_isPlainName (by decide)
  have joins : IsLexeme .name "or".toList := isLexeme_of_isPlainName (by decide)
  have stands : Stands ⟨0, .string, "'v'"⟩ "v" "v" := .of_unquote (by decide +kernel)
  obtain ⟨star, extensible⟩ := extensible_star
  have all : outcome labelledFirst "*" [.node .document]
      = .ok [.node (.element 1), .node (.element 2)] := by
    rw [outcome_of_covers star]
    cbv
  have known : labelledFirst.attributes (.element 1) = [⟨"n", "v", false⟩] := by cbv
  have none : labelledFirst.attributes (.element 2) = [] := by cbv
  have other : ∀ connective : Connective, "n" ≠ connective.word := by
    intro connective
    cases connective <;> decide
  obtain ⟨filters, compares⟩ := (attribute_predicates_iff reachable plain stands).1.mpr other
  obtain ⟨skipped, -⟩ := (attribute_predicates_iff reachable joins stands).2 .or rfl
  have kept := filters.outcome_star "@n" (by decide +kernel) [.node .document]
  have equal := compares.outcome_star " @n='v'" (by decide +kernel) [.node .document]
  have both := (skipped _ "*" "@or" star extensible (by decide +kernel)).2 labelledFirst
    [.node .document]
  rw [all] at kept equal both
  refine ⟨reachable, plain, joins, stands, all, kept.trans ?_, equal.trans ?_, both⟩
  · simp [Except.map, Item.isKept, Document.hasAttribute, known, none]
  · simp [Except.map, Item.isKept, Attribute.lookup?, Attribute.valueOf?, known, none]

/-- An element without any attribute passes for one with an attribute whose name is a word that joins:
the predicate is skipped.
-/
theorem attribute_predicate_or
    : IsLexeme .name "or".toList
      ∧ (Document.fragment [.element "p" [] []]).hasAttribute "or" (.element 1) = false
      ∧ outcome (.fragment [.element "p" [] []]) "*[@or]" [.node .document]
        = .ok [.node (.element 1)]
      ∧ ∃ path : Path, path.Covers "*[@or]" ∧ path.ignored = ["[@or]"] := by
  have covers : Path.Covers ⟨[anyChild], "", ["[@or]"]⟩ "*[@or]" := ⟨by decide +kernel, by decide⟩
  refine ⟨isLexeme_of_isPlainName (by decide), by cbv, ?_, _, covers, rfl⟩
  rw [outcome_of_covers covers]
  cbv

end XPath

end HtmlQuery
