import TagFilter.Proofs.RoundTrip

/-!
# The queries that can be read

A reading builds no empty query inside another and no connective with fewer than
two operands, and its leaves are ones that the marker tells apart: every
derivation keeps that (`Grammar.Derives.formed`).  Nothing else is asked of a
query.  With every operand in parentheses it has a text that is read back as the
very same tree, a chain inside the same chain too (`Query.Formed.parse_grouped`).
-/

namespace TagFilter

open Grammar

variable {marker : Char}

/-! ## What a derivation builds -/

namespace Query

/-- The query of a chain of formed operands is formed. -/
theorem formed_combine (connective : Connective) {operands : List Query} (hne : operands ≠ [])
    (h : ∀ query ∈ operands, query.Formed marker 2) :
    (connective.combine operands).Formed marker 2 := by
  by_cases hone : operands.length = 1
  · obtain ⟨query, rfl⟩ := List.length_eq_one_iff.mp hone
    rw [connective.combine_singleton]
    exact h query List.mem_cons_self
  · have hlength := List.length_pos_iff.mpr hne
    rw [connective.combine_eq_join hone]
    exact formed_join.mpr ⟨by omega, h⟩

end Query

namespace Grammar

mutual

/-- The tree of an operand is one that can be written. -/
theorem Primary.formed {symbols : List Symbol} {query : Query} :
    Primary marker symbols query → query.Formed marker 2
  | .tag nonempty plain => .tag nonempty plain
  | .glob gap => .glob (Glob.fits_ofText gap)
  | .wildcard => .glob (Glob.fits_gap marker)
  | .group inside => Query.formed_combine .any inside.ne_nil inside.formed

/-- So is the tree of an operand with negations. -/
theorem Unary.formed {symbols : List Symbol} {query : Query} :
    Unary marker symbols query → query.Formed marker 2
  | .primary operand => operand.formed
  | .not operand => .negation operand.formed

/-- All trees in a chain of conjunction can be written. -/
theorem Conjuncts.formed {symbols : List Symbol} {queries : List Query} :
    Conjuncts marker symbols queries → ∀ query ∈ queries, query.Formed marker 2
  | .one operand => List.forall_mem_singleton.mpr operand.formed
  | .and operands operand =>
      List.forall_mem_append.mpr
        ⟨operands.formed, List.forall_mem_singleton.mpr operand.formed⟩

/-- All trees in a chain of disjunction can be written. -/
theorem Disjuncts.formed {symbols : List Symbol} {queries : List Query} :
    Disjuncts marker symbols queries → ∀ query ∈ queries, query.Formed marker 2
  | .one operand =>
      List.forall_mem_singleton.mpr (Query.formed_combine .all operand.ne_nil operand.formed)
  | .or operands operand =>
      List.forall_mem_append.mpr ⟨operands.formed, List.forall_mem_singleton.mpr
        (Query.formed_combine .all operand.ne_nil operand.formed)⟩

end

/-- **What a derivation builds.**  Its tree can be written, and no connective in
it has fewer than two operands. -/
theorem Derives.formed {symbols : List Symbol} {query : Query} (h : Derives marker symbols query) :
    query.Formed marker 2 := by
  cases h with
  | disjunction operands => exact Query.formed_combine .any operands.ne_nil operands.formed

end Grammar

/-! ## A text for every tree -/

namespace Query

mutual

/-- The text of a query with every operand of a connective or a negation in
parentheses. -/
def grouped (marker : Char) : Query → Text
  | .empty => []
  | .tag name => writeName name
  | .glob g => writeName (g.toText marker)
  | .negation operand => writeNot (parenthesize (operand.grouped marker))
  | .all operands => joinAnd (groupedOperands marker operands)
  | .any operands => joinOr (groupedOperands marker operands)

/-- The texts of some operands, each in parentheses. -/
def groupedOperands (marker : Char) : List Query → List Text
  | [] => []
  | operand :: operands =>
    parenthesize (operand.grouped marker) :: groupedOperands marker operands

end

/-- The texts of operands are grouped apart. -/
theorem groupedOperands_eq_map (operands : List Query) :
    groupedOperands marker operands =
      operands.map fun query => parenthesize (query.grouped marker) := by
  induction operands with
  | nil => rfl
  | cons query operands ih => rw [groupedOperands, ih, List.map_cons]

/-- A connective is its grouped operands with the keyword between them. -/
theorem grouped_join (connective : Connective) (operands : List Query) :
    (connective.join operands).grouped marker =
      connective.keyword.intercalate
        (operands.map fun query => parenthesize (query.grouped marker)) := by
  cases connective <;> rw [Connective.join, grouped, groupedOperands_eq_map] <;> rfl

/-- Filters in parentheses with the keyword of a connective between them. -/
theorem exists_derives_join (connective : Connective) {α : Type} {text : α → Text}
    {query : α → Query} {filters : List α} (hlength : 2 ≤ filters.length)
    (h : ∀ filter ∈ filters,
      ∃ symbols, Spells marker (text filter) symbols ∧ Derives marker symbols (query filter)) :
    ∃ symbols, Spells marker (connective.keyword.intercalate
        (filters.map fun filter => parenthesize (text filter))) symbols ∧
      Derives marker symbols (connective.join (filters.map query)) := by
  have hne : filters ≠ [] := List.length_pos_iff.mp (Nat.lt_of_lt_of_le Nat.two_pos hlength)
  have hoperand : ∀ filter ∈ filters,
      ∃ symbols, Spells marker (parenthesize (text filter)) symbols ∧
        Chain marker connective symbols [query filter] := by
    intro filter hfilter
    obtain ⟨symbols, hspells, hderives⟩ := h filter hfilter
    exact ⟨_, hspells.parenthesize, hderives.group.chain connective⟩
  obtain ⟨symbols, hspells, hchain⟩ := spells_intercalate Chain.append hne hoperand
  have hderives := hchain.derives
  rw [← List.map_eq_flatMap, connective.combine_eq_join (by rw [List.length_map]; omega)]
    at hderives
  exact ⟨symbols, hspells, hderives⟩

/-- A filter in parentheses under a negation. -/
theorem exists_derives_writeNot {text : Text} {query : Query}
    (h : ∃ symbols, Spells marker text symbols ∧ Derives marker symbols query) :
    ∃ symbols, Spells marker (writeNot (parenthesize text)) symbols ∧
      Derives marker symbols (.negation query) := by
  obtain ⟨symbols, hspells, hderives⟩ := h
  exact ⟨_, hspells.parenthesize.writeNot, (Unary.not hderives.group).derives⟩

/-- The text in parentheses spells symbols that derive the query. -/
theorem Formed.exists_derives_grouped {query : Query} (h : query.Formed marker 2) :
    ∃ symbols, Spells marker (query.grouped marker) symbols ∧ Derives marker symbols query := by
  induction h with
  | tag nonempty plain =>
      obtain ⟨symbols, hspells, hprimary⟩ := exists_primary_tag nonempty plain
      exact ⟨symbols, hspells, (Unary.primary hprimary).derives⟩
  | glob fits =>
      obtain ⟨symbols, hspells, hprimary⟩ := exists_primary_glob fits
      exact ⟨symbols, hspells, (Unary.primary hprimary).derives⟩
  | negation _ ih => exact exists_derives_writeNot ih
  | join connective length _ ih =>
      have hjoin := exists_derives_join connective length ih
      rwa [List.map_id', ← grouped_join] at hjoin

/-- **A text for every tree.**  The text in parentheses is read back as the query
itself. -/
theorem Formed.parse_grouped {query : Query} (h : query.Formed marker 2) :
    parse marker (query.grouped marker) = .ok query := by
  obtain ⟨symbols, hspells, hderives⟩ := h.exists_derives_grouped
  exact parse_of_spells hspells hderives

/-- What is read is empty or can be written, without a connective that has fewer
than two operands. -/
theorem formed_of_parse {input : Text} {query : Query} (h : parse marker input = .ok query) :
    query = .empty ∨ query.Formed marker 2 := by
  obtain ⟨found, stop, -, hquery⟩ := exists_derives_of_parse h
  exact hquery.imp And.right Derives.formed

mutual

/-- The globs of a query, from left to right. -/
def globs : Query → List Glob
  | .empty | .tag _ => []
  | .glob g => [g]
  | .all operands | .any operands => globsOfList operands
  | .negation operand => operand.globs

/-- The globs of some queries, from left to right. -/
def globsOfList : List Query → List Glob
  | [] => []
  | query :: queries => query.globs ++ globsOfList queries

end

end Query

/-- **The queries that can be read.**  There is a text of a query exactly if it is
empty, or has no empty query in it, every connective in it has two operands or
more, its tags are not empty and free of the marker, and its globs have a gap and
normal segments that are free of the marker. -/
theorem exists_parse_eq_ok_iff (marker : Char) (query : Query) :
    (∃ input, parse marker input = .ok query) ↔
      query = .empty ∨
        query.Formed marker 2 ∧ ∀ g ∈ query.globs, NormalSegments g.segments := by
  constructor
  · rintro ⟨input, hinput⟩
    rcases Query.formed_of_parse hinput with hempty | hformed
    · exact .inl hempty
    · exact .inr ⟨hformed, fun g _ => g.normalSegments⟩
  · rintro (rfl | ⟨hformed, -⟩)
    · exact ⟨[], parse_nil marker⟩
    · exact ⟨query.grouped marker, hformed.parse_grouped⟩

end TagFilter
