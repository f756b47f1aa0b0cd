import HtmlQuery.Proofs.Document.InTree
import HtmlQuery.Proofs.XPath.FurtherPredicate
import HtmlQuery.Proofs.XPath.LiteralTexts

/-! What a further predicate lets through. Behind an expression that may be followed by one, it filters
what the expression selects, if it only looks at the nodes; one that is refused changes nothing.
-/

namespace HtmlQuery

/-- Whether an item is a node that is kept. -/
def Item.isKept (keep : NodeRef → Bool) : Item → Bool
  | .node ref => keep ref
  | .text _ => false

/-- The text of a node without the white space at its ends. -/
def Document.ownText (document : Document) (ref : NodeRef) : List Char :=
  (document.fullText ref).trimmed.toList

namespace XPath

variable {document : Document} {predicate : Predicate} {keep : NodeRef → Bool}

-----------------------------------------------------------------------------------------
-- Candidates
-----------------------------------------------------------------------------------------

/-- A predicate only leaves nodes out, by induction on the nodes. -/
theorem sublist_of_keepFrom {size position : Nat} {nodes kept : List Node}
    (found : keepFrom document predicate size position nodes = .ok kept)
    : kept.Sublist nodes := by
  induction nodes generalizing position kept with
  | nil =>
      cases found
      exact .slnil
  | cons node rest ih =>
      rw [keepFrom] at found
      obtain ⟨keeps, -, found⟩ := bind_eq_ok.mp found
      obtain ⟨others, later, found⟩ := bind_eq_ok.mp found
      cases found
      split
      · exact (ih later).cons_cons node
      · exact (ih later).cons node

/-- Several predicates only leave nodes out, by induction on the predicates. -/
theorem sublist_of_keepAll {predicates : List Predicate} {nodes kept : List Node}
    (found : keepAll document predicates nodes = .ok kept)
    : kept.Sublist nodes := by
  induction predicates generalizing nodes with
  | nil =>
      cases found
      exact .refl _
  | cons predicate others ih =>
      rw [keepAll] at found
      obtain ⟨remaining, first, later⟩ := bind_eq_ok.mp found
      exact (ih later).trans (sublist_of_keepFrom first)

/-- A predicate that only looks at the nodes is a filter, by induction on the nodes. -/
theorem keepFrom_eq_filter {nodes : List Node}
    (holds : ∀ node ∈ nodes, ∀ position size,
      predicate.holds document ⟨node, position, size⟩ = .ok (keep node.ref))
    (size position : Nat)
    : keepFrom document predicate size position nodes
      = .ok (nodes.filter fun node => keep node.ref) := by
  induction nodes generalizing position with
  | nil => rfl
  | cons node rest ih =>
      have first := holds node List.mem_cons_self position size
      have others := ih (fun other member => holds other (List.mem_cons_of_mem node member))
      rw [keepFrom, first, others, List.filter_cons]
      rfl

/-- Further predicates are put to what the ones before kept, by induction on those. -/
theorem keepAll_append (document : Document) (known others : List Predicate) (nodes : List Node)
    : keepAll document (known ++ others) nodes
      = keepAll document known nodes >>= keepAll document others := by
  induction known generalizing nodes with
  | nil => rfl
  | cons predicate known ih =>
      rw [List.cons_append, keepAll, keepAll]
      cases keepFrom document predicate nodes.length 1 nodes with
      | error fault => rfl
      | ok kept => exact ih kept

-----------------------------------------------------------------------------------------
-- Steps
-----------------------------------------------------------------------------------------

/-- Whether a predicate decides for each node of a document by its name alone. -/
def Predicate.Keeps (document : Document) (predicate : Predicate) (keep : NodeRef → Bool) : Prop :=
  ∀ node position size,
    document.node? node.ref = some node →
    predicate.holds document ⟨node, position, size⟩ = .ok (keep node.ref)

namespace Step

variable {axis : Axis} {test : NodeTest} {known : List Predicate}

/-- One more predicate filters what a step selects from a node. -/
theorem selectFrom_filtered (sound : document.Sound) (nodes : axis ≠ .attributes)
    (keeps : predicate.Keeps document keep) (ref : NodeRef)
    : selectFrom document ⟨axis, test, known ++ [predicate]⟩ ref
      = (selectFrom document ⟨axis, test, known⟩ ref).map (List.filter (Item.isKept keep)) := by
  simp only [selectFrom, if_neg nodes, keepAll_append]
  cases candidates : keepAll document known ((axis.nodes document ref).filter test.accepts) with
  | error fault => rfl
  | ok kept =>
      have holds : ∀ node ∈ kept, ∀ position size,
          predicate.holds document ⟨node, position, size⟩ = .ok (keep node.ref) := by
        intro node member position size
        have among := List.mem_of_mem_filter ((sublist_of_keepAll candidates).subset member)
        exact keeps node position size (Document.node?_of_axis sound axis among)
      simp only [bind, Except.bind, keepAll, keepFrom_eq_filter holds, Except.map, List.filter_map]
      rfl

/-- One more predicate filters what a step selects, by induction on the items. -/
theorem select_filtered (sound : document.Sound) (nodes : axis ≠ .attributes)
    (keeps : predicate.Keeps document keep) (items : List Item)
    : select document ⟨axis, test, known ++ [predicate]⟩ items
      = (select document ⟨axis, test, known⟩ items).map (List.filter (Item.isKept keep)) := by
  induction items with
  | nil => rfl
  | cons item rest ih =>
      cases item with
      | text value => exact ih
      | node ref =>
          rw [select, select, selectFrom_filtered sound nodes keeps, ih]
          cases selectFrom document ⟨axis, test, known⟩ ref with
          | error fault => rfl
          | ok own =>
              cases select document ⟨axis, test, known⟩ rest with
              | error fault => rfl
              | ok others => simp [bind, Except.bind, Except.map]

end Step

-----------------------------------------------------------------------------------------
-- Rows in brackets
-----------------------------------------------------------------------------------------

/-- Rows that can stand in brackets: they can be read up to the closing one. -/
structure Token.Enclosed (row : List Token) : Prop where
  readable : ∀ token ∈ row, token.kind ≠ .error
  balanced : Balanced row

/-- Which groups are closed doesn't depend on the positions of tokens, by induction on the row. -/
theorem Token.balanced_of_placed {isSeparator : Token → Bool} {tokens : List Token}
    {place : Token → Nat} (nested : Nested isSeparator (tokens.map (placed place)))
    : Balanced tokens := by
  generalize same : tokens.map (placed place) = row at nested
  induction nested generalizing tokens with
  | nil =>
      obtain rfl := List.map_eq_nil_iff.mp same
      exact .nil
  | plain noOpener noCloser _ _ ih =>
      obtain ⟨token, tokens, rfl, rfl, rfl⟩ := List.map_eq_cons_iff.mp same
      exact .plain noOpener noCloser rfl (ih rfl)
  | group pair _ _ inside ih =>
      obtain ⟨opener, _, rfl, rfl, group⟩ := List.map_eq_cons_iff.mp same
      obtain ⟨inner, _, rfl, rfl, closed⟩ := List.map_eq_append_iff.mp group
      obtain ⟨closer, rest, rfl, rfl, rfl⟩ := List.map_eq_cons_iff.mp closed
      exact .group pair (inside rfl) (ih rfl)

theorem Token.Enclosed.append {row more : List Token} (enclosed : Enclosed row)
    (enclosed' : Enclosed more)
    : Enclosed (row ++ more) where
  readable := List.forall_mem_append.mpr ⟨enclosed.readable, enclosed'.readable⟩
  balanced := enclosed.balanced.append enclosed'.balanced

theorem Token.enclosed_single {token : Token} (readable : token.kind ≠ .error)
    (noOpener : token.kind.isOpener = false) (noCloser : token.kind.isCloser = false)
    : Enclosed [token] where
  readable := by simpa using readable
  balanced := .single noOpener noCloser rfl

theorem Token.enclosed_arguments {arguments : List (List Token)}
    (all : ∀ row ∈ arguments, Enclosed row)
    : Enclosed ([mark .comma].intercalate arguments) := by
  induction arguments with
  | nil => exact ⟨by simp, .nil⟩
  | cons row others ih =>
      have first := all row (by simp)
      cases others with
      | nil => simpa using first
      | cons next others =>
          have later := ih fun row member => all row (by simp [member])
          rw [List.intercalate_cons_cons]
          exact (first.append (enclosed_single (by simp [mark]) rfl rfl)).append later

theorem Token.enclosed_call {arguments : List (List Token)} (function : String)
    (all : ∀ row ∈ arguments, Enclosed row)
    : Enclosed (call function arguments) := by
  obtain ⟨readable, balanced⟩ := enclosed_arguments all
  refine ⟨?_, .plain rfl rfl rfl (.group rfl balanced .nil)⟩
  simp only [call, List.forall_mem_cons, List.forall_mem_append]
  exact ⟨by simp [word], by simp [mark], readable, by simp [mark]⟩

theorem Token.OwnText.enclosed {source : List Token} (own : OwnText source) : Enclosed source := by
  cases own with
  | dot => exact enclosed_single (by simp [mark]) rfl rfl
  | text => exact enclosed_call "text" (by simp)

theorem Stands.enclosed {literal : Token} {whole part : String}
    (stands : Stands literal whole part)
    : Token.Enclosed [literal] := by
  cases stands <;> exact Token.enclosed_single (by simp) rfl rfl

/-- What is compared with a literal can stand in brackets on its own. -/
theorem Stands.enclosed_compared {literal : Token} {whole part : String}
    (stands : Stands literal whole part) {subject : List Token} (enclosed : Token.Enclosed subject)
    (relation : Relation)
    : Token.Enclosed (subject ++ [Token.sign relation, literal]) := by
  have related : Token.Enclosed [Token.sign relation] :=
    Token.enclosed_single (by simp [Token.sign]) rfl rfl
  exact enclosed.append (related.append stands.enclosed)

theorem Token.Enclosed.of_placed {tokens : List Token}
    (enclosed : Enclosed (tokens.map (placed fun _ => 0)))
    : Enclosed tokens where
  readable := fun token member =>
    enclosed.readable (token.placed fun _ => 0) (List.mem_map.mpr ⟨token, member, rfl⟩)
  balanced := balanced_of_placed enclosed.balanced

-----------------------------------------------------------------------------------------
-- Expressions
-----------------------------------------------------------------------------------------

open Grammar

/--
Behind each expression that may be followed by a predicate, a row in brackets, however it is laid out,
is understood and lets just the nodes through that are to be kept.
-/
def Filters (document : Document) (row : List Token) (keep : NodeRef → Bool) : Prop :=
  ∀ (path : Path) (expression inner : String),
    path.Covers expression →
    Extensible (Token.scan expression) →
    (Token.scan inner).map (Token.placed fun _ => 0) = row →
    (∃ further : Path,
      further.Covers (predicated expression inner) ∧ further.ignored = path.ignored)
    ∧ ∀ items,
      outcome document (predicated expression inner) items
        = (outcome document expression items).map (List.filter (Item.isKept keep))

/--
Behind each expression that may be followed by a predicate, a row in brackets, however it is laid out,
is skipped and lets all nodes through.
-/
def Skipped (row : List Token) : Prop :=
  ∀ (path : Path) (expression inner : String),
    path.Covers expression →
    Extensible (Token.scan expression) →
    (Token.scan inner).map (Token.placed fun _ => 0) = row →
    (∃ further : Path,
      further.Covers (predicated expression inner)
      ∧ further.ignored = path.ignored ++ ["[" ++ inner ++ "]"])
    ∧ ∀ document items,
      outcome document (predicated expression inner) items = outcome document expression items

/-- One more predicate behind an expression filters what that results in. -/
theorem outcome_predicated (sound : document.Sound) {path : Path} {expression inner : String}
    (covers : path.Covers expression) (extensible : Extensible (Token.scan expression))
    (enclosed : Token.Enclosed (Token.scan inner))
    (found : Predicate.read (Token.scan inner) = .ok predicate)
    (keeps : predicate.Keeps document keep)
    : (∃ further : Path,
        further.Covers (predicated expression inner) ∧ further.ignored = path.ignored)
      ∧ ∀ items,
        outcome document (predicated expression inner) items
          = (outcome document expression items).map (List.filter (Item.isKept keep)) := by
  obtain ⟨front, axis, test, known, further, nodes, steps, covers', steps', ignored⟩ :=
    Path.covers_understood covers extensible enclosed.readable enclosed.balanced found
  refine ⟨⟨further, covers', ignored⟩, fun items => ?_⟩
  rw [outcome_of_covers covers, outcome_of_covers covers', Path.select, Path.select, steps, steps',
    Path.selectSteps_append, Path.selectSteps_append]
  cases Path.selectSteps document front items with
  | error fault => rfl
  | ok selected =>
      simp only [Except.bind, Path.selectSteps, Step.select_filtered sound nodes keeps]
      cases Step.select document ⟨axis, test, known⟩ selected <;> rfl

/-- A row that is read as a predicate filters by it. -/
theorem filters_of_read (reachable : document.Reachable) {row : List Token}
    (enclosed : Token.Enclosed row) (found : Predicate.read row = .ok predicate)
    (keeps : predicate.Keeps document keep)
    : Filters document row keep := by
  rintro path expression inner covers extensible rfl
  rw [Predicate.read_placed] at found
  exact outcome_predicated reachable.sound covers extensible enclosed.of_placed found keeps

/-- A row that is refused is skipped. -/
theorem skipped_of_read {row : List Token} (enclosed : Token.Enclosed row)
    (refused : Predicate.read row = .error .unsupported)
    : Skipped row := by
  rintro path expression inner covers extensible rfl
  rw [Predicate.read_placed] at refused
  have enclosed := enclosed.of_placed
  obtain ⟨further, covers', steps, ignored⟩ :=
    Path.covers_refused covers extensible enclosed.readable enclosed.balanced refused
  refine ⟨⟨further, covers', ignored⟩, fun document items => ?_⟩
  rw [outcome_of_covers covers, outcome_of_covers covers', Path.select, Path.select, steps]

/-- What a row says of nodes by their names: it decides so for each candidate, and in brackets it lets
just those nodes through.
-/
structure Says (document : Document) (row : List Token) (keep : NodeRef → Bool) : Prop where
  decides : ∀ candidate, Decides document candidate row (keep candidate.node.ref)
  filters : document.Reachable → Filters document row keep

theorem says_of_read {row : List Token} (enclosed : Token.Enclosed row)
    (found : Predicate.read row = .ok predicate)
    (holds : ∀ candidate, predicate.holds document candidate = .ok (keep candidate.node.ref))
    : Says document row keep where
  decides := fun candidate => decides_of_read found (holds candidate)
  filters := fun reachable =>
    filters_of_read reachable enclosed found fun node position size _ => holds ⟨node, position, size⟩

/-- Each row of readable tokens is that of some text. -/
theorem Token.Lexical.exists_text {row : List Token} (lexical : Lexical row)
    : ∃ text, (scan text).map (placed fun _ => 0) = row := by
  obtain ⟨tokens, text, laid, same⟩ := exists_laid lexical 0
  refine ⟨String.ofList (' ' :: text), ?_⟩
  rw [scan, String.toList_ofList, laid.scanFrom_eq, same]

/-- A star is an expression that may be followed by a predicate. -/
theorem extensible_star
    : Path.Covers ⟨[anyChild], "", []⟩ "*" ∧ Extensible (Token.scan "*") := by
  have scanned : Token.scan "*" = [⟨0, .asterisk, "*"⟩] := by decide +kernel
  refine ⟨⟨by decide +kernel, by decide⟩, ?_⟩
  rw [scanned]
  exact .first (.inl rfl) (.mk .none (by simp) (.name (.inr rfl)) .nil)

/-- What a row in brackets lets through of all children. -/
theorem Filters.outcome_star {row : List Token} (filters : Filters document row keep) (inner : String)
    (same : (Token.scan inner).map (Token.placed fun _ => 0) = row) (items : List Item)
    : outcome document (predicated "*" inner) items
      = (outcome document "*" items).map (List.filter (Item.isKept keep)) := by
  obtain ⟨star, extensible⟩ := extensible_star
  exact (filters _ "*" inner star extensible same).2 items

/-- A row that is skipped filters nothing: behind a star, it can't be skipped and understood at once. -/
theorem Skipped.not_filters {row : List Token} (skipped : Skipped row)
    (lexical : Token.Lexical row)
    : ¬Filters document row keep := by
  intro filters
  obtain ⟨inner, text⟩ := lexical.exists_text
  obtain ⟨star, extensible⟩ := extensible_star
  obtain ⟨⟨further, covers, none⟩, -⟩ := filters _ "*" inner star extensible text
  obtain ⟨⟨further', covers', one⟩, -⟩ := skipped _ "*" inner star extensible text
  obtain rfl := Except.ok.inj (covers.1.symm.trans covers'.1)
  rw [none] at one
  cases one

end XPath

end HtmlQuery
