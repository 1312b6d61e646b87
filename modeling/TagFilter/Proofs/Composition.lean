import Mathlib
import TagFilter.Proofs.Readable

/-!
# Filters made of filters

The text of a filter can stand in parentheses in the text of another, just as it is.  No
parenthesis there belongs to a token of the text inside, whatever that begins and ends with,
and a group is read inside as a whole filter is read.  So filters can be joined, negated and
enclosed as texts, and what is read is made of their queries in the same way
(`parse_join_parenthesize`): a connective inside neither reaches out of its group, nor is it
made one with the same connective around it.
-/

namespace TagFilter

open Grammar

variable {marker : Char}

/-- A filter that is not empty spells symbols of the grammar. -/
theorem exists_spells_of_parse {input : Text} {query : Query}
    (h : parse marker input = .ok query) (hne : query ≠ .empty) :
    ∃ symbols, Spells marker input symbols ∧ Derives marker symbols query := by
  obtain ⟨found, stop, hfound, ⟨-, hempty⟩ | hderives⟩ := exists_derives_of_parse h
  · exact absurd hempty hne
  · exact ⟨_, ⟨found, stop, hfound, rfl⟩, hderives⟩

/-- A text that spells a derivation of a query is read as that query. -/
theorem parse_of_exists_derives {text : Text} {query : Query}
    (h : ∃ symbols, Spells marker text symbols ∧ Derives marker symbols query) :
    parse marker text = .ok query := by
  obtain ⟨symbols, hspells, hderives⟩ := h
  exact Query.parse_of_spells hspells hderives

/-- **Filters made of filters.**  A filter that is not empty is read in parentheses as the
query that it is, and behind `NOT` as its negation.  Two such filters or more, each in
parentheses, are read with `AND` between them as the conjunction of their queries, and with
`OR` as the disjunction. -/
theorem parse_join_parenthesize (marker : Char) :
    (∀ (input : Text) (query : Query), parse marker input = .ok query → query ≠ .empty →
      parse marker (parenthesize input) = .ok query ∧
        parse marker (writeNot (parenthesize input)) = .ok (.negation query)) ∧
    ∀ filters : List (Text × Query), 2 ≤ filters.length →
      (∀ filter ∈ filters, parse marker filter.1 = .ok filter.2 ∧ filter.2 ≠ .empty) →
      parse marker (joinAnd (filters.map fun filter => parenthesize filter.1)) =
          .ok (.all (filters.map Prod.snd)) ∧
        parse marker (joinOr (filters.map fun filter => parenthesize filter.1)) =
          .ok (.any (filters.map Prod.snd)) := by
  constructor
  · intro input query h hne
    have hspells := exists_spells_of_parse h hne
    refine ⟨?_, parse_of_exists_derives (Query.exists_derives_writeNot hspells)⟩
    obtain ⟨symbols, hspells, hderives⟩ := hspells
    exact Query.parse_of_spells hspells.parenthesize hderives.group.derives
  · intro filters hlength h
    have hspells : ∀ filter ∈ filters,
        ∃ symbols, Spells marker filter.1 symbols ∧ Derives marker symbols filter.2 := by
      intro filter hfilter
      exact exists_spells_of_parse (h filter hfilter).1 (h filter hfilter).2
    exact ⟨parse_of_exists_derives (Query.exists_derives_join .all hlength hspells),
      parse_of_exists_derives (Query.exists_derives_join .any hlength hspells)⟩

/-- The filters have a parenthesis in quotes, a looser connective, and the same connective
as the one that joins them. -/
theorem parse_join_parenthesize_quoted :
    (∀ filter ∈ [("'a)' Or b".toList, Query.any [.tag ['a', ')'], .tag ['b']]),
        (" c AND *".toList, .all [.tag ['c'], .glob ⟨[], [[]]⟩])],
      parse '*' filter.1 = .ok filter.2 ∧ filter.2 ≠ .empty) ∧
    parse '*' "('a)' Or b) AND ( c AND *)".toList =
      .ok (.all [.any [.tag ['a', ')'], .tag ['b']],
        .all [.tag ['c'], .glob ⟨[], [[]]⟩]]) ∧
    parse '*' "('a)' Or b) OR ( c AND *)".toList =
      .ok (.any [.any [.tag ['a', ')'], .tag ['b']],
        .all [.tag ['c'], .glob ⟨[], [[]]⟩]]) ∧
    parse '*' "NOT ('a)' Or b)".toList =
      .ok (.negation (.any [.tag ['a', ')'], .tag ['b']])) := by
  have hfirst : parse '*' "'a)' Or b".toList = .ok (.any [.tag ['a', ')'], .tag ['b']]) := by
    cbv
  have hsecond : parse '*' " c AND *".toList =
      .ok (.all [.tag ['c'], .glob ⟨[], [[]]⟩]) := by cbv
  have hfilters : ∀ filter ∈ [("'a)' Or b".toList, Query.any [.tag ['a', ')'], .tag ['b']]),
      (" c AND *".toList, .all [.tag ['c'], .glob ⟨[], [[]]⟩])],
      parse '*' filter.1 = .ok filter.2 ∧ filter.2 ≠ .empty := by
    rw [List.forall_mem_cons, List.forall_mem_singleton]
    exact ⟨⟨hfirst, by simp⟩, hsecond, by simp⟩
  obtain ⟨hand, hor⟩ := (parse_join_parenthesize '*').2 _ (by decide) hfilters
  exact ⟨hfilters, hand, hor, ((parse_join_parenthesize '*').1 _ _ hfirst (by simp)).2⟩

end TagFilter
