import TagFilter.Mentions
import TagFilter.Proofs.ShortCircuit

/-!
# What a match depends on

The value of a query is made of the values of its leaves, wherever these come from
(`Query.value_congr`).  With case, a tag is looked up by its name, and of a glob it matters
alone whether some tag fits it.  So collections that agree on the names that a query mentions
and on its globs cannot be told apart by the query (`Query.holds_of_mentions`).

The names a query mentions are those of its tags at any place (`Query.mem_mentions_iff`).  A
match comes to some of the places, so it looks up no other name.
-/

namespace TagFilter

namespace Query

/-! ## Two matches -/

section Values

variable {κ κ' : Type} [Collection κ] [Collection κ'] {matching matching' : Matching} {tags : κ}
  {tags' : κ'}

/-- The value of a connective is made of the values of its operands. -/
theorem value_join_congr (connective : Connective) {operands queries : List Query}
    (h : operands.map (value matching tags) = queries.map (value matching' tags')) :
    (connective.join operands).value matching tags =
      (connective.join queries).value matching' tags' := by
  cases connective <;> rw [Connective.join, value, value, values_eq_map, values_eq_map, h]

/-- A connective that is true stays true if each of its operands does. -/
theorem value_join_mono (connective : Connective) {operands : List Query}
    (h : ∀ query ∈ operands, query.value matching tags = true →
      query.value matching' tags' = true)
    (hvalue : (connective.join operands).value matching tags = true) :
    (connective.join operands).value matching' tags' = true := by
  cases connective with
  | all =>
      have hall := (value_all_iff matching tags).mp hvalue
      exact (value_all_iff matching' tags').mpr fun query hmem => h query hmem (hall query hmem)
  | any =>
      obtain ⟨query, hmem, hquery⟩ := (value_any_iff matching tags).mp hvalue
      exact (value_any_iff matching' tags').mpr ⟨query, hmem, h query hmem hquery⟩

/-- **Leaves decide.**  A query has the same value in two matches if each of its leaves has. -/
theorem value_congr {query : Query}
    (h : ∀ place leaf, query.at? place = some leaf → leaf.IsLeaf →
      leaf.value matching tags = leaf.value matching' tags') :
    query.value matching tags = query.value matching' tags' := by
  induction query using join_induction with
  | leaf query hleaf => exact h [] query (at?_nil query) hleaf
  | join connective operands ih =>
      refine value_join_congr connective (List.map_congr_left fun query hmem => ?_)
      obtain ⟨i, hi⟩ := List.getElem?_of_mem hmem
      refine ih query hmem fun place leaf hleaf => ?_
      rw [← at?_join connective hi] at hleaf
      exact h (i :: place) leaf hleaf
  | negation query ih =>
      rw [value, value, ih]
      intro place leaf hleaf
      rw [← at?_negation] at hleaf
      exact h (0 :: place) leaf hleaf

end Values

end Query

/-! ## Mentioned names -/

/-- A list to which a name is added has that name and those from before. -/
theorem mem_insertName {name added : Text} {names : List Text} :
    name ∈ insertName added names ↔ name = added ∨ name ∈ names := by
  induction names with
  | nil => exact List.mem_cons
  | cons head rest ih =>
      rw [insertName]
      split
      · exact List.mem_cons
      · split
        · rename_i hhead
          rw [hhead, List.mem_cons, or_self_left]
        · rw [List.mem_cons, List.mem_cons, ih, or_left_comm]

namespace Query

/-- Collecting adds the names of all tags, and forgets none that was there before. -/
theorem mem_collect_iff {query : Query} {name : Text} {names : List Text} :
    name ∈ query.collect names ↔ name ∈ query.tagNames ∨ name ∈ names := by
  rw [collect]
  induction query.tagNames generalizing names with
  | nil => simp
  | cons first later ih => rw [List.foldl_cons, ih, mem_insertName, List.mem_cons, or_left_comm,
      or_assoc]

/-- The names of a query are those of its tags, at any place. -/
theorem mem_tagNames_iff {query : Query} {name : Text} :
    name ∈ query.tagNames ↔ ∃ place, query.at? place = some (.tag name) := by
  induction query using join_induction with
  | leaf query hleaf =>
      constructor
      · intro h
        cases hleaf with
        | empty | glob => simp [tagNames] at h
        | tag other =>
            obtain rfl := List.mem_singleton.mp h
            exact ⟨[], at?_nil _⟩
      · rintro ⟨place, hat⟩
        obtain ⟨-, rfl⟩ := hleaf.eq_of_at? hat
        exact List.mem_singleton_self name
  | join connective operands ih =>
      rw [tagNames_join, List.mem_flatMap, leaf_at?_join_iff connective (.tag name)]
      constructor
      · rintro ⟨query, hmem, hname⟩
        exact ⟨query, hmem, (ih query hmem).mp hname⟩
      · rintro ⟨query, hmem, hplace⟩
        exact ⟨query, hmem, (ih query hmem).mpr hplace⟩
  | negation query ih => rw [tagNames, ih, leaf_at?_negation_iff (.tag name)]

/-- A query mentions the names of its tags, at any place. -/
theorem mem_mentions_iff {query : Query} {name : Text} :
    name ∈ query.mentions ↔ ∃ place, query.at? place = some (.tag name) := by
  rw [mentions, mem_collect_iff, mem_tagNames_iff]
  simp

/-! ## Dependence -/

section Matching

variable {κ κ' : Type} [Collection κ] [Collection κ'] {matching : Matching}

/-- Only a tag looks up a name, and that is its own. -/
theorem eq_tag_of_has_mem_leafLog {tags : κ} {leaf : Query} {name : Text}
    (h : .has name ∈ leaf.leafLog matching tags) : leaf = .tag name := by
  have hlisting : ∀ wanted, .has name ∉ listing tags wanted := by
    intro wanted hmem
    rcases List.mem_cons.mp hmem with hhead | hnext
    · cases hhead
    · obtain ⟨_, -, hname⟩ := List.mem_map.mp hnext
      cases hname
  cases leaf with
  | empty | all | any | negation => simp [leafLog] at h
  | glob g => exact absurd h (hlisting _)
  | tag other =>
      rw [leafLog] at h
      split at h
      · obtain rfl := Question.has.inj (List.mem_singleton.mp h)
        rfl
      · exact absurd h (hlisting _)

/-- A match looks up names of tags that are in the query. -/
theorem exists_tag_of_has_mem_asked {tags : κ} {query : Query} {name : Text}
    (h : .has name ∈ (query.ask matching tags).asked) :
    ∃ place, query.at? place = some (.tag name) := by
  rw [asked_ask, leafLogs, List.mem_flatMap] at h
  obtain ⟨⟨place, leaf⟩, hreached, hlog⟩ := h
  obtain ⟨hat, -, -⟩ := (mem_reachedLeaves matching tags).mp hreached
  obtain rfl := eq_tag_of_has_mem_leafLog hlog
  exact ⟨place, hat⟩

/-- With case, names and globs are all that matters of a collection. -/
theorem value_of_mentions {tags : κ} {tags' : κ'} {query : Query} {emptyMatchesAll : Bool}
    (hnames : ∀ name ∈ query.mentions, Collection.has tags name = Collection.has tags' name)
    (hglobs : ∀ place g, query.at? place = some (.glob g) →
      ((∃ tag ∈ Collection.tags tags, g.accepts tag) ↔
        ∃ tag ∈ Collection.tags tags', g.accepts tag)) :
    query.value ⟨true, emptyMatchesAll⟩ tags = query.value ⟨true, emptyMatchesAll⟩ tags' := by
  refine value_congr fun place leaf hat hleaf => ?_
  cases hleaf with
  | empty => rfl
  | tag name => exact hnames name (mem_mentions_iff.mpr ⟨place, hat⟩)
  | glob g =>
      have hsome := hglobs place g hat
      rwa [← List.any_eq_true, ← List.any_eq_true, ← Bool.eq_iff_iff] at hsome

/-- **A match with case depends on what the query mentions.**  All names that it looks up
are mentioned.  Two collections that agree on the mentioned names, and for each glob of the
query on whether some tag fits it, have the same result; for a query without globs they
need agree on the names alone. -/
theorem holds_of_mentions (query : Query) (emptyMatchesAll : Bool) :
    (∀ (κ : Type) [Collection κ] (tags : κ) (name : Text),
      .has name ∈ (query.ask ⟨true, emptyMatchesAll⟩ tags).asked → name ∈ query.mentions) ∧
    ∀ (κ κ' : Type) [Collection κ] [Collection κ'] (tags : κ) (tags' : κ'),
      (∀ name ∈ query.mentions, Collection.has tags name = Collection.has tags' name) →
        ((∀ place g, query.at? place = some (.glob g) →
            ((∃ tag ∈ Collection.tags tags, g.accepts tag) ↔
              ∃ tag ∈ Collection.tags tags', g.accepts tag)) →
          query.holds ⟨true, emptyMatchesAll⟩ tags = query.holds ⟨true, emptyMatchesAll⟩ tags') ∧
        ((∀ place g, query.at? place ≠ some (.glob g)) →
          query.holds ⟨true, emptyMatchesAll⟩ tags =
            query.holds ⟨true, emptyMatchesAll⟩ tags') := by
  constructor
  · intro κ _ tags name hasked
    exact mem_mentions_iff.mpr (exists_tag_of_has_mem_asked hasked)
  · intro κ κ' _ _ tags tags' hnames
    rw [holds, holds, holds_ask, holds_ask]
    refine ⟨value_of_mentions hnames, fun hplain => value_of_mentions hnames ?_⟩
    exact fun place g hat => absurd hat (hplain place g)

/-- Another tag may fit the glob, and what is not mentioned may be there or not. -/
theorem holds_of_mentions_other_fit :
    (Query.all [.tag ['u'], .glob ⟨['b'], [[]]⟩]).mentions = [['u']] ∧
      (Query.all [.tag ['u'], .glob ⟨['b'], [[]]⟩]).holds ⟨true, false⟩
          #[['x'], ['b', '2'], ['u']] =
        (Query.all [.tag ['u'], .glob ⟨['b'], [[]]⟩]).holds ⟨true, false⟩
          [['u'], ['b', '1']] := by
  have hmentions : (Query.all [.tag ['u'], .glob ⟨['b'], [[]]⟩]).mentions = [['u']] := by decide
  have hnames : ∀ name ∈ (Query.all [.tag ['u'], .glob ⟨['b'], [[]]⟩]).mentions,
      Collection.has #[['x'], ['b', '2'], ['u']] name =
        Collection.has [['u'], ['b', '1']] name := by decide +kernel
  have hglobs : ∀ place g,
      (Query.all [.tag ['u'], .glob ⟨['b'], [[]]⟩]).at? place = some (.glob g) →
        ((∃ tag ∈ Collection.tags #[['x'], ['b', '2'], ['u']], g.accepts tag) ↔
          ∃ tag ∈ Collection.tags [['u'], ['b', '1']], g.accepts tag) := by
    intro place g hat
    obtain ⟨query, hmem, below, hbelow⟩ :=
      (leaf_at?_join_iff .all (.glob g)).mp ⟨place, hat⟩
    rcases List.mem_pair.mp hmem with rfl | rfl
    · obtain ⟨-, htag⟩ := (IsLeaf.tag _).eq_of_at? hbelow
      cases htag
    · obtain ⟨-, hglob⟩ := (IsLeaf.glob _).eq_of_at? hbelow
      obtain rfl := Query.glob.inj hglob
      decide
  obtain ⟨-, hequal⟩ := holds_of_mentions (.all [.tag ['u'], .glob ⟨['b'], [[]]⟩]) false
  exact ⟨hmentions, (hequal _ _ _ _ hnames).1 hglobs⟩

end Matching

end Query

end TagFilter
