import Mathlib
import TagFilter.Proofs.Dependence
import TagFilter.Proofs.Interchange

/-!
# Collecting the tags of many queries

A collector keeps names in a strictly ascending list, to which each query adds the names of its
tags.  The list stays ascending with every name (`pairwise_insertName`) and has no other
names than these (`Query.mem_collectAll_iff`).  A strictly ascending list is determined by
what is in it, so the order of the queries does not show, nor how often one comes
(`Query.collectAll_exact`).

Where queries were read, their tags and globs are told apart by the marker, and what a query
mentions survives writing and reading again.
-/

namespace TagFilter

/-! ## One name -/

/-- A new name goes where it keeps the list ascending. -/
theorem pairwise_insertName (name : Text) {names : List Text} (h : names.Pairwise (· < ·)) :
    (insertName name names).Pairwise (· < ·) := by
  induction names with
  | nil => exact List.pairwise_singleton _ _
  | cons head rest ih =>
      obtain ⟨hhead, hrest⟩ := List.pairwise_cons.mp h
      unfold insertName
      by_cases hlt : name < head
      · rw [if_pos hlt]
        refine List.pairwise_cons.mpr ⟨?_, h⟩
        intro other hother
        rcases List.mem_cons.mp hother with rfl | hlater
        · exact hlt
        · exact List.lt_trans hlt (hhead other hlater)
      · by_cases heq : name = head
        · rw [if_neg hlt, if_pos heq]
          exact h
        · have hgt : head < name := by
            rcases Std.lt_trichotomy name head with h' | h' | h'
            · exact absurd h' hlt
            · exact absurd h' heq
            · exact h'
          rw [if_neg hlt, if_neg heq]
          refine List.pairwise_cons.mpr ⟨?_, ih hrest⟩
          intro other hother
          rcases mem_insertName.mp hother with rfl | hlater
          · exact hgt
          · exact hhead other hlater

namespace Query

variable {marker : Char}

/-! ## One query after the other -/

/-- Collecting from a query keeps the list ascending. -/
theorem pairwise_collect (query : Query) {names : List Text} (h : names.Pairwise (· < ·)) :
    (query.collect names).Pairwise (· < ·) := by
  unfold collect
  induction query.tagNames generalizing names with
  | nil => exact h
  | cons first later ih => exact ih (pairwise_insertName first h)

/-- What a collector with some names has after some queries, one after the other. -/
def collectAll (queries : List Query) (names : List Text) : List Text :=
  queries.foldl (fun collected query => query.collect collected) names

/-- So does collecting from any number of queries. -/
theorem pairwise_collectAll (queries : List Query) {names : List Text}
    (h : names.Pairwise (· < ·)) : (collectAll queries names).Pairwise (· < ·) := by
  induction queries generalizing names with
  | nil => exact h
  | cons query queries ih => exact ih (query.pairwise_collect h)

/-- A collector has the names of the tags of its queries, and those that it had before. -/
theorem mem_collectAll_iff {queries : List Query} {name : Text} {names : List Text} :
    name ∈ collectAll queries names ↔
      (∃ query ∈ queries, ∃ place, query.at? place = some (.tag name)) ∨ name ∈ names := by
  induction queries generalizing names with
  | nil => simp [collectAll]
  | cons query queries ih =>
      have hlater : collectAll (query :: queries) names =
          collectAll queries (query.collect names) := rfl
      rw [hlater, ih, mem_collect_iff, mem_tagNames_iff, List.exists_mem_cons_iff, or_left_comm,
        or_assoc]

/-! ## Queries that were read -/

/-- An operand of a query that can be written can be written. -/
theorem Formed.of_mem_children {least : Nat} {query operand : Query} (h : query.Formed marker least)
    (hmem : operand ∈ query.children) : operand.Formed marker least := by
  cases h with
  | tag | glob => simp [children] at hmem
  | all _ hoperands => exact hoperands operand hmem
  | any _ hoperands => exact hoperands operand hmem
  | negation hoperand =>
      obtain rfl := List.mem_singleton.mp hmem
      exact hoperand

/-- Every part of a query that can be written can be written. -/
theorem Formed.of_at? {least : Nat} {query part : Query} {place : List Nat}
    (h : query.Formed marker least) (hat : query.at? place = some part) :
    part.Formed marker least := by
  induction place generalizing query with
  | nil =>
      rw [at?_nil] at hat
      obtain rfl := Option.some.inj hat
      exact h
  | cons i place ih =>
      obtain ⟨operand, hchild, hbelow⟩ := exists_child_of_at?_cons hat
      exact ih (h.of_mem_children (List.mem_of_getElem? hchild)) hbelow

/-- Every part of a query that was read can be written, unless there is nothing in it. -/
theorem formed_part_of_parse {input : Text} {query part : Query} {place : List Nat}
    (h : parse marker input = .ok query) (hat : query.at? place = some part)
    (hne : part ≠ .empty) : part.Formed marker 2 := by
  rcases formed_of_parse h with rfl | hformed
  · obtain ⟨-, rfl⟩ := IsLeaf.empty.eq_of_at? hat
    exact absurd rfl hne
  · exact hformed.of_at? hat

/-- The text of a glob has the marker in it, and no name that was read has. -/
theorem toText_not_mem_collectAll {queries : List Query}
    (hread : ∀ query ∈ queries, ∃ input, parse marker input = .ok query) {query : Query}
    (hmem : query ∈ queries) {place : List Nat} {g : Glob}
    (hglob : query.at? place = some (.glob g)) : g.toText marker ∉ collectAll queries [] := by
  intro hcollected
  obtain ⟨input, hinput⟩ := hread query hmem
  have hfits := formed_glob.mp (formed_part_of_parse hinput hglob (by simp))
  have hmarker : marker ∈ g.toText marker := Glob.marker_mem_toText hfits.gap
  rcases mem_collectAll_iff.mp hcollected with ⟨other, hother, place', htag⟩ | hnil
  · obtain ⟨input', hinput'⟩ := hread other hother
    have hplain := formed_tag.mp (formed_part_of_parse hinput' htag (by simp))
    exact hplain.2 hmarker
  · simp at hnil

/-- **One collector for many queries.**  After any queries, one after the other, a new
collector has a strictly ascending list of the names of their tags, at any depth, and of
nothing else; the same queries in another order or number give the same list.  Of queries
that were read with a marker, no text of a glob is in it.  A query that was read mentions the
same tags when it is written and read again. -/
theorem collectAll_exact (queries : List Query) :
    (collectAll queries []).Pairwise (· < ·) ∧
    (∀ name, name ∈ collectAll queries [] ↔
      ∃ query ∈ queries, ∃ place, query.at? place = some (.tag name)) ∧
    (∀ others : List Query, (∀ query, query ∈ others ↔ query ∈ queries) →
      collectAll others [] = collectAll queries []) ∧
    (∀ marker, (∀ query ∈ queries, ∃ input, parse marker input = .ok query) →
      ∀ query ∈ queries, ∀ place g, query.at? place = some (.glob g) →
        g.toText marker ∉ collectAll queries []) ∧
    ∀ marker input query, parse marker input = .ok query →
      ∃ again, parse marker (query.write marker) = .ok again ∧ again.mentions = query.mentions := by
  have hascending : ∀ queries, (collectAll queries []).Pairwise (· < ·) :=
    fun queries => pairwise_collectAll queries .nil
  have hnames : ∀ queries name, name ∈ collectAll queries [] ↔
      ∃ query ∈ queries, ∃ place, query.at? place = some (.tag name) := by
    intro queries name
    rw [mem_collectAll_iff]
    simp
  refine ⟨hascending queries, hnames queries, ?_, ?_, ?_⟩
  · intro others hsame
    apply (hascending others).eq_of_mem_iff (hascending queries)
    intro name
    simp only [hnames, hsame]
  · intro marker hread query hmem place g hglob
    exact toText_not_mem_collectAll hread hmem hglob
  · intro marker input query hparse
    exact ⟨query.normal, parse_write_of_parse hparse, query.mentions_normal⟩

/-- A filter that comes twice, and one with a glob. -/
theorem collectAll_exact_read :
    parse '*' ['b', ' ', 'A', 'N', 'D', ' ', 'a', '*'] =
        .ok (.all [.tag ['b'], .glob ⟨['a'], [[]]⟩]) ∧
      parse '*' ['N', 'O', 'T', ' ', 'A'] = .ok (.negation (.tag ['A'])) ∧
      collectAll [.negation (.tag ['A']), .all [.tag ['b'], .glob ⟨['a'], [[]]⟩]] [] =
        [['A'], ['b']] ∧
      collectAll [.all [.tag ['b'], .glob ⟨['a'], [[]]⟩], .negation (.tag ['A']),
          .all [.tag ['b'], .glob ⟨['a'], [[]]⟩]] [] =
        collectAll [.negation (.tag ['A']), .all [.tag ['b'], .glob ⟨['a'], [[]]⟩]] [] ∧
      ['a', '*'] ∉
        collectAll [.negation (.tag ['A']), .all [.tag ['b'], .glob ⟨['a'], [[]]⟩]] [] := by
  have hall : parse '*' ['b', ' ', 'A', 'N', 'D', ' ', 'a', '*'] =
      .ok (.all [.tag ['b'], .glob ⟨['a'], [[]]⟩]) := by cbv
  have hnegation : parse '*' ['N', 'O', 'T', ' ', 'A'] = .ok (.negation (.tag ['A'])) := by cbv
  obtain ⟨-, -, hsame, hplain, -⟩ := collectAll_exact
    [.negation (.tag ['A']), .all [.tag ['b'], .glob ⟨['a'], [[]]⟩]]
  refine ⟨hall, hnegation, by decide, ?_, ?_⟩
  · apply hsame
    intro query
    simp only [List.mem_cons, List.not_mem_nil, or_false]
    grind
  · have hread : ∀ query ∈ [.negation (.tag ['A']), .all [.tag ['b'], .glob ⟨['a'], [[]]⟩]],
        ∃ input, parse '*' input = .ok query := by
      intro query hmem
      rcases List.mem_pair.mp hmem with rfl | rfl
      · exact ⟨_, hnegation⟩
      · exact ⟨_, hall⟩
    exact hplain '*' hread (.all [.tag ['b'], .glob ⟨['a'], [[]]⟩]) (by simp) [1]
      ⟨['a'], [[]]⟩ rfl

end Query

end TagFilter
