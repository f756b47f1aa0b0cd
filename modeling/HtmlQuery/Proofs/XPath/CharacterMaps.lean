import HtmlQuery.Proofs.XPath.FilteredSelection

/-! Character maps against the rule for a single character: the counterpart of its first occurrence, or
nothing where there is none. A map is built entry by entry, and entries that are there stay.
-/

namespace HtmlQuery.XPath

open Token

namespace CharacterMap

/-- What a character becomes: it stays if it doesn't occur among the sources, else it becomes the target
at the index of its first occurrence, or nothing if there are fewer targets.
-/
def counterpart (sources targets : List Char) (c : Char) : List Char :=
  match sources.idxOf? c with
  | none => [c]
  | some index => targets[index]?.toList

-----------------------------------------------------------------------------------------
-- Entries of a map
-----------------------------------------------------------------------------------------

/-- Maps list their characters in ascending order. -/
def Ascending (map : CharacterMap) : Prop :=
  map.Pairwise fun entry later => entry.fst.toNat < later.fst.toNat

/-- The characters of a map are those that it had and the one that was added. -/
theorem mem_add {source : Char} {target : Option Char} {map : CharacterMap}
    {entry : Char × Option Char} (member : entry ∈ map.add source target)
    : entry = (source, target) ∨ entry ∈ map := by
  induction map with
  | nil => exact .inl (List.mem_singleton.mp member)
  | cons first rest ih =>
      rw [add] at member
      split at member
      · exact .inr member
      · split at member
        · exact List.mem_cons.mp member
        · rcases List.mem_cons.mp member with rfl | member
          · exact .inr List.mem_cons_self
          · exact (ih member).imp_right (List.mem_cons_of_mem first)

theorem Ascending.add {map : CharacterMap} (ascending : map.Ascending) (source : Char)
    (target : Option Char)
    : (map.add source target).Ascending := by
  induction map with
  | nil => exact List.pairwise_singleton ..
  | cons first rest ih =>
      obtain ⟨before, others⟩ := List.pairwise_cons.mp ascending
      rw [CharacterMap.add]
      split
      · exact ascending
      · rename_i other
        split
        · rename_i less
          refine List.pairwise_cons.mpr ⟨fun entry member => ?_, ascending⟩
          rcases List.mem_cons.mp member with rfl | member
          · exact less
          · exact Nat.lt_trans less (before entry member)
        · rename_i notLess
          refine List.pairwise_cons.mpr ⟨fun entry member => ?_, ih others⟩
          rcases mem_add member with rfl | member
          · have distinct : first.fst.toNat ≠ source.toNat := fun same =>
              other (Char.toNat_inj.mp same.symm)
            simp only at *
            omega
          · exact before entry member

theorem lookup_first (c : Char) (entry : Char × Option Char) (rest : CharacterMap)
    : List.lookup c (entry :: rest) = if c = entry.fst then some entry.snd else rest.lookup c := by
  rw [List.lookup_cons]
  by_cases same : c = entry.fst
  · simp [same]
  · simp [beq_false_of_ne same, same]

/-- An entry that is added only counts for a character that has none yet. -/
theorem lookup_add {map : CharacterMap} (ascending : map.Ascending) (source : Char)
    (target : Option Char) (c : Char)
    : (map.add source target).lookup c
      = (map.lookup c).or (if c = source then some target else none) := by
  induction map with
  | nil => simp only [CharacterMap.add, lookup_first, List.lookup_nil, Option.none_or]
  | cons first rest ih =>
      obtain ⟨before, others⟩ := List.pairwise_cons.mp ascending
      rw [CharacterMap.add]
      split
      · rename_i known
        by_cases same : c = first.fst <;> simp [lookup_first, same, known]
      · split
        · rename_i less
          by_cases same : c = source
          · have missing : List.lookup source (first :: rest) = none := by
              refine List.lookup_eq_none_iff.mpr fun entry member => ?_
              have above : source.toNat < entry.fst.toNat := by
                rcases List.mem_cons.mp member with rfl | member
                · exact less
                · exact Nat.lt_trans less (before entry member)
              simpa using fun equal : source = entry.fst => above.ne (congrArg Char.toNat equal)
            simp [same, missing, lookup_first source (source, target)]
          · simp [lookup_first c (source, target), same]
        · rw [lookup_first, lookup_first, ih others]
          by_cases same : c = first.fst <;> simp [same]

/-- Of all entries that are added, the first one for a character counts; by induction on the entries.
-/
theorem lookup_addAll {map : CharacterMap} (ascending : map.Ascending)
    (entries : List (Char × Option Char)) (c : Char)
    : (entries.foldl (fun map (source, target) => map.add source target) map).lookup c
      = (map.lookup c).or (entries.lookup c) := by
  induction entries generalizing map with
  | nil => simp
  | cons entry others ih =>
      rw [List.foldl_cons, ih (ascending.add ..), lookup_add ascending, Option.or_assoc,
        lookup_first]
      by_cases same : c = entry.fst <;> simp [same]

/-- The first pair with a character is that at the index of its first occurrence; by induction on the
sources.
-/
theorem lookup_pairs (sources targets : List Char) (c : Char)
    : (pairs sources targets).lookup c = (sources.idxOf? c).map fun index => targets[index]? := by
  induction sources generalizing targets with
  | nil => rfl
  | cons source sources ih =>
      by_cases same : c = source
      · cases targets <;> simp [pairs, List.idxOf?_cons, same]
      · have other : ¬source = c := fun equal => same equal.symm
        cases targets
        all_goals
          simp only [pairs, lookup_first, List.idxOf?_cons, same, beq_iff_eq, other, if_false, ih]
          cases List.idxOf? c sources <;> rfl

/-- Targets without a source are not paired, by induction on the sources. -/
theorem pairs_take (sources targets : List Char)
    : pairs sources (targets.take sources.length) = pairs sources targets := by
  induction sources generalizing targets with
  | nil => rfl
  | cons source sources ih =>
      cases targets with
      | nil => rfl
      | cons target targets => exact congrArg (_ :: ·) (ih targets)

/-- A map of two texts sends each character to its counterpart. -/
theorem image_ofTexts (source target : String) (c : Char)
    : (ofTexts source target).image c = counterpart source.toList target.toList c := by
  have empty : Ascending [] := List.Pairwise.nil
  rw [image, ofTexts, lookup_addAll empty, lookup_pairs, counterpart]
  cases source.toList.idxOf? c with
  | none => rfl
  | some index =>
      cases found : target.toList[index]? <;> simp [found]

end CharacterMap

-----------------------------------------------------------------------------------------
-- Translated texts
-----------------------------------------------------------------------------------------

/-- A comparison of the own text with a literal, after its characters went through a map. -/
def translated (source : List Token) (first second literal : Token) : List Token :=
  call "translate" [source, [first], [second]] ++ [sign .equal, literal]

/--
The comparison is about the counterparts of the characters, one for one: what a character becomes isn't
translated again. Targets beyond the number of sources don't change the map.
-/
theorem translated_says_counterparts {source : List Token} {first second literal : Token}
    {sources targets value : String} {whole whole' part : String} (own : OwnText source)
    (given : Stands first whole sources) (wanted : Stands second whole' targets)
    (stands : Stands literal value part) (document : Document)
    : Says document (translated source first second literal) (fun ref =>
        decide (value.toList = (document.ownText ref).flatMap
          (CharacterMap.counterpart sources.toList targets.toList)))
      ∧ CharacterMap.ofTexts sources (String.ofList (targets.toList.take sources.toList.length))
        = CharacterMap.ofTexts sources targets := by
  have arguments : ∀ row ∈ [[first], [second]], IsArgument row := by
    simpa using ⟨given.isArgument, wanted.isArgument⟩
  have found : Predicate.read (translated source first second literal)
      = .ok (.translated (.ofTexts sources targets) .equal value) := by
    refine stands.read_part rfl (by decide) own arguments ?_
    simp only [Predicate.readTextPart, given.textArgument, wanted.textArgument]
    rfl
  have enclosed : Enclosed (translated source first second literal) := by
    refine stands.enclosed_compared (enclosed_call "translate" ?_) .equal
    simpa using ⟨own.enclosed, given.enclosed, wanted.enclosed⟩
  refine ⟨says_of_read enclosed found fun candidate => ?_, ?_⟩
  · rw [Predicate.holds, CharacterMap.apply, funext (CharacterMap.image_ofTexts sources targets)]
    exact congrArg Except.ok (Equality.holds_ofList _ value)
  · rw [CharacterMap.ofTexts, String.toList_ofList, CharacterMap.pairs_take, CharacterMap.ofTexts]

/-- Two elements with different texts. -/
def spelledApart : Document :=
  .fragment [.element "p" [] [.text "cabx"], .element "p" [] [.text " ca "]]

/-- Only the first `a` of the sources counts, what it becomes isn't translated again, and `x` has no
counterpart.
-/
theorem translated_says_counterparts_cabx
    : spelledApart.Reachable
      ∧ OwnText [mark .dot]
      ∧ Stands ⟨0, .string, "'aabx'"⟩ "aabx" "aabx"
      ∧ Stands ⟨0, .string, "'bcd'"⟩ "bcd" "bcd"
      ∧ Stands ⟨0, .string, "'cbd'"⟩ "cbd" "cbd"
      ∧ "cabx".toList.flatMap (CharacterMap.counterpart "aabx".toList "bcd".toList) = "cbd".toList
      ∧ outcome spelledApart "*" [.node .document] = .ok [.node (.element 1), .node (.element 2)]
      ∧ outcome spelledApart "*[translate(., 'aabx', 'bcd')='cbd']" [.node .document]
        = .ok [.node (.element 1)] := by
  have reachable : spelledApart.Reachable := .fragment _
  have sources : Stands ⟨0, .string, "'aabx'"⟩ "aabx" "aabx" := .of_unquote (by decide +kernel)
  have targets : Stands ⟨0, .string, "'bcd'"⟩ "bcd" "bcd" := .of_unquote (by decide +kernel)
  have value : Stands ⟨0, .string, "'cbd'"⟩ "cbd" "cbd" := .of_unquote (by decide +kernel)
  have all : outcome spelledApart "*" [.node .document]
      = .ok [.node (.element 1), .node (.element 2)] := by
    rw [outcome_of_covers extensible_star.1]
    cbv
  obtain ⟨spoken, -⟩ :=
    translated_says_counterparts .dot sources targets value spelledApart
  have kept := (spoken.filters reachable).outcome_star "translate(., 'aabx', 'bcd')='cbd'"
    (by decide +kernel) [.node .document]
  have first : spelledApart.ownText (.element 1) = "cabx".toList := by cbv
  have second : spelledApart.ownText (.element 2) = "ca".toList := by cbv
  have becomes : "cabx".toList.flatMap (CharacterMap.counterpart "aabx".toList "bcd".toList)
      = "cbd".toList := by
    decide +kernel
  have other : "ca".toList.flatMap (CharacterMap.counterpart "aabx".toList "bcd".toList)
      ≠ "cbd".toList := by
    decide +kernel
  rw [all] at kept
  refine ⟨reachable, .dot, sources, targets, value, becomes, all, kept.trans ?_⟩
  simp only [Except.map, List.filter_cons, List.filter_nil, Item.isKept, first, second, becomes,
    decide_true, if_true, decide_eq_true_iff, other.symm, if_false]

end HtmlQuery.XPath
