import Mathlib.Algebra.Ring.Parity
import TagFilter.Proofs.Dependence

/-!
# The contents of a collection

A leaf looks a name up, or goes through the tags up to the first that fits.  Either way it
finds out whether the collection contains a tag of some sort, and what it has found stays
true when tags are added (`Query.IsLeaf.value_of_within`).  Two results follow for whole
queries.

* `Query.holds_of_same_contents`: collections with the same contents cannot be told apart,
  whatever kinds they are of, in whatever order they list their tags and however often.
* `Query.holds_of_more_tags`: added tags make no match fail if each tag and each glob of the
  query stands below an even number of negations, and bring no match about if each stands
  below an odd number.
-/

namespace TagFilter

namespace Query

section Within

variable {κ κ' : Type} [Collection κ] [LawfulCollection κ] [Collection κ'] [LawfulCollection κ']
  {matching : Matching} {tags : κ} {tags' : κ'}

/-- A leaf that is true stays true when tags are added. -/
theorem IsLeaf.value_of_within {leaf : Query} (h : leaf.IsLeaf)
    (within : ∀ tag ∈ Collection.tags tags, tag ∈ Collection.tags tags')
    (hvalue : leaf.value matching tags = true) : leaf.value matching tags' = true := by
  have hany : ∀ wanted : Text → Bool, (Collection.tags tags).any wanted = true →
      (Collection.tags tags').any wanted = true := by
    intro wanted hsome
    obtain ⟨tag, hmem, hwanted⟩ := List.any_eq_true.mp hsome
    exact List.any_eq_true.mpr ⟨tag, within tag hmem, hwanted⟩
  cases h with
  | empty =>
      rw [value] at hvalue ⊢
      exact hvalue
  | tag name =>
      rw [value] at hvalue ⊢
      by_cases hcase : matching.caseSensitive = true
      · rw [if_pos hcase] at hvalue ⊢
        have hmem : name ∈ Collection.tags tags := (LawfulCollection.has_iff tags name).mp hvalue
        exact (LawfulCollection.has_iff tags' name).mpr (within name hmem)
      · rw [if_neg hcase] at hvalue ⊢
        exact hany _ hvalue
  | glob g =>
      rw [value] at hvalue ⊢
      exact hany _ hvalue

/-! ## The same tags -/

/-- Collections that list the same tags, in any order and any number, have the same result. -/
theorem holds_congr_of_mem_iff
    (same : ∀ tag, tag ∈ Collection.tags tags ↔ tag ∈ Collection.tags tags') (query : Query) :
    query.holds matching tags = query.holds matching tags' := by
  rw [holds, holds, holds_ask, holds_ask]
  apply value_congr
  intro place leaf _ hleaf
  rw [Bool.eq_iff_iff]
  constructor
  · exact hleaf.value_of_within fun tag => (same tag).mp
  · exact hleaf.value_of_within fun tag => (same tag).mpr

/-- A collection is matched as the list of its tags is. -/
theorem holds_tags (tags : κ) (query : Query) :
    query.holds matching (Collection.tags tags) = query.holds matching tags := by
  have same : ∀ tag, tag ∈ Collection.tags (Collection.tags tags) ↔
      tag ∈ Collection.tags tags := fun _ => Iff.rfl
  exact holds_congr_of_mem_iff same query

end Within

end Query

/-- A collection of any of the kinds that tags are kept in. -/
inductive Container where
  | list (tags : List Text)
  | array (tags : Array Text)
  | slice (tags : Subarray Text)
  | vector {size : Nat} (tags : Vector Text size)
  | hashSet (tags : Std.HashSet Text)
  | treeSet (tags : Std.TreeSet Text)

namespace Container

/-- The collection contains the tag, in the sense of its kind: a slice has it at some place,
and the other kinds have a membership of their own. -/
def Contains : Container → Text → Prop
  | .list tags, tag => tag ∈ tags
  | .array tags, tag => tag ∈ tags
  | .slice tags, tag => ∃ (i : Nat) (h : i < Std.Slice.size tags), tags[i] = tag
  | .vector tags, tag => tag ∈ tags
  | .hashSet tags, tag => tag ∈ tags
  | .treeSet tags, tag => tag ∈ tags

/-- The tags in the order in which the collection lists them. -/
def tags : Container → List Text
  | .list tags => Collection.tags tags
  | .array tags => Collection.tags tags
  | .slice tags => Collection.tags tags
  | .vector tags => Collection.tags tags
  | .hashSet tags => Collection.tags tags
  | .treeSet tags => Collection.tags tags

/-- Whether a query holds of the collection. -/
def holds (matching : Matching) (query : Query) : Container → Bool
  | .list tags => query.holds matching tags
  | .array tags => query.holds matching tags
  | .slice tags => query.holds matching tags
  | .vector tags => query.holds matching tags
  | .hashSet tags => query.holds matching tags
  | .treeSet tags => query.holds matching tags

/-- A collection lists what it contains. -/
theorem mem_tags_iff {container : Container} {tag : Text} :
    tag ∈ container.tags ↔ container.Contains tag := by
  cases container with
  | list | array | vector | hashSet | treeSet => simp [tags, Contains, Collection.tags]
  | slice => simp [tags, Contains, Collection.tags, List.mem_iff_getElem, Subarray.getElem_toList]

/-- A collection of any kind is asked as the list of its tags would be. -/
theorem holds_eq_tags (container : Container) (matching : Matching) (query : Query) :
    container.holds matching query = query.holds matching container.tags := by
  cases container <;> rw [holds, tags, Query.holds_tags]

end Container

namespace Query

/-- **The kind, the order and the number do not show.**  Collections that contain the same tags
give every match the same result: any two lawful ones, and any two of the kinds that tags
are kept in. -/
theorem holds_of_same_contents (query : Query) (matching : Matching) :
    (∀ (κ κ' : Type) [Collection κ] [LawfulCollection κ] [Collection κ'] [LawfulCollection κ']
        (tags : κ) (tags' : κ'),
      (∀ tag, tag ∈ Collection.tags tags ↔ tag ∈ Collection.tags tags') →
        query.holds matching tags = query.holds matching tags') ∧
    ∀ container other : Container, (∀ tag, container.Contains tag ↔ other.Contains tag) →
      container.holds matching query = other.holds matching query := by
  constructor
  · intro κ κ' _ _ _ _ tags tags' same
    exact holds_congr_of_mem_iff same query
  · intro container other same
    have htags : ∀ tag, tag ∈ container.tags ↔ tag ∈ other.tags := by
      intro tag
      rw [Container.mem_tags_iff, Container.mem_tags_iff]
      exact same tag
    rw [container.holds_eq_tags, other.holds_eq_tags]
    exact holds_congr_of_mem_iff htags query

/-- A tag is repeated in one collection, and the other is a set. -/
theorem holds_of_same_contents_set :
    (∀ tag, (Container.vector #v[['B'], ['a'], ['B']]).Contains tag ↔
        (Container.treeSet (.ofList [['a'], ['B']])).Contains tag) ∧
      (Container.vector #v[['B'], ['a'], ['B']]).holds ⟨false, true⟩
          (.all [.tag ['b'], .negation (.glob ⟨[], [['c']]⟩)]) =
        (Container.treeSet (.ofList [['a'], ['B']])).holds ⟨false, true⟩
          (.all [.tag ['b'], .negation (.glob ⟨[], [['c']]⟩)]) := by
  have hsame : ∀ tag, (Container.vector #v[['B'], ['a'], ['B']]).Contains tag ↔
      (Container.treeSet (.ofList [['a'], ['B']])).Contains tag := by
    intro tag
    simp only [Container.Contains, Std.TreeSet.mem_ofList]
    simp [or_comm]
  exact ⟨hsame, (holds_of_same_contents _ ⟨false, true⟩).2 _ _ hsame⟩

/-! ## Negations above a leaf -/

/-- How many negations stand above a place. -/
def negationsAbove : Query → List Nat → Nat
  | _, [] => 0
  | .negation operand, _ :: place => operand.negationsAbove place + 1
  | query, i :: place =>
    match query.children[i]? with
    | some operand => operand.negationsAbove place
    | none => 0

/-- Each tag and each glob of the query stands below such a number of negations. -/
def LeavesBelow (number : Nat → Prop) (query : Query) : Prop :=
  ∀ place leaf, query.at? place = some leaf → leaf.IsLeaf → leaf ≠ .empty →
    number (query.negationsAbove place)

section LeavesBelow

variable {number : Nat → Prop}

/-- A connective adds no negation to those above a part of it. -/
theorem negationsAbove_join_cons (connective : Connective) {operands : List Query} {query : Query}
    {i : Nat} (h : operands[i]? = some query) (place : List Nat) :
    (connective.join operands).negationsAbove (i :: place) = query.negationsAbove place := by
  cases connective <;> simp [Connective.join, negationsAbove, children, h]

/-- A leaf has itself below it, under no negation, unless it is empty. -/
theorem IsLeaf.leavesBelow_iff {leaf : Query} (h : leaf.IsLeaf) :
    leaf.LeavesBelow number ↔ (leaf ≠ .empty → number 0) := by
  constructor
  · intro hbelow hne
    have hroot := hbelow [] leaf (at?_nil leaf) h hne
    rwa [negationsAbove] at hroot
  · intro hroot place part hat _ hne
    obtain ⟨rfl, rfl⟩ := h.eq_of_at? hat
    rw [negationsAbove]
    exact hroot hne

/-- A connective is no negation. -/
theorem leavesBelow_join_iff (connective : Connective) {operands : List Query} :
    (connective.join operands).LeavesBelow number ↔
      ∀ query ∈ operands, query.LeavesBelow number := by
  constructor
  · intro h query hmem place leaf hat hleaf hne
    obtain ⟨i, hi⟩ := List.getElem?_of_mem hmem
    have hplace := (leaf_at?_join connective hleaf).mpr ⟨i, query, place, rfl, hi, hat⟩
    have hnumber := h (i :: place) leaf hplace hleaf hne
    rwa [negationsAbove_join_cons connective hi] at hnumber
  · intro h place leaf hat hleaf hne
    obtain ⟨i, query, below, rfl, hi, hbelow⟩ := (leaf_at?_join connective hleaf).mp hat
    rw [negationsAbove_join_cons connective hi]
    exact h query (List.mem_of_getElem? hi) below leaf hbelow hleaf hne

/-- Below a negation every leaf has one negation more above it. -/
theorem leavesBelow_negation_iff {query : Query} :
    query.negation.LeavesBelow number ↔ query.LeavesBelow fun n => number (n + 1) := by
  constructor
  · intro h place leaf hat hleaf hne
    have hplace := (leaf_at?_negation hleaf).mpr ⟨place, rfl, hat⟩
    have hnumber := h (0 :: place) leaf hplace hleaf hne
    rwa [negationsAbove] at hnumber
  · intro h place leaf hat hleaf hne
    obtain ⟨below, rfl, hbelow⟩ := (leaf_at?_negation hleaf).mp hat
    rw [negationsAbove]
    exact h below leaf hbelow hleaf hne

/-- A negation turns even numbers above the leaves of its operand into odd ones, -/
theorem leavesBelow_even_negation_iff {query : Query} :
    query.negation.LeavesBelow Even ↔ query.LeavesBelow Odd := by
  simp only [leavesBelow_negation_iff, Nat.even_add_one, Nat.not_even_iff_odd]

/-- and odd numbers into even ones. -/
theorem leavesBelow_odd_negation_iff {query : Query} :
    query.negation.LeavesBelow Odd ↔ query.LeavesBelow Even := by
  simp only [leavesBelow_negation_iff, Nat.odd_add_one, Nat.not_odd_iff_even]

end LeavesBelow

/-! ## More tags -/

section Polarity

variable {κ κ' : Type} [Collection κ] [LawfulCollection κ] [Collection κ'] [LawfulCollection κ']
  {tags : κ} {tags' : κ'}

/-- **Polarity.**  When tags are added, a query with its leaves below even numbers of negations
stays true, and one with them below odd numbers stays false.  Each half is what the other
needs below a negation. -/
theorem value_of_within (within : ∀ tag ∈ Collection.tags tags, tag ∈ Collection.tags tags')
    (matching : Matching) (query : Query) :
    (query.LeavesBelow Even → query.value matching tags = true →
      query.value matching tags' = true) ∧
    (query.LeavesBelow Odd → query.value matching tags' = true →
      query.value matching tags = true) := by
  induction query using join_induction with
  | leaf query hleaf =>
      constructor
      · intro _
        exact hleaf.value_of_within within
      · -- no negation stands above the root, so only the empty query is left
        intro hodd hvalue
        by_cases hempty : query = .empty
        · rw [hempty, value] at hvalue ⊢
          exact hvalue
        · have hroot : Odd 0 := hleaf.leavesBelow_iff.mp hodd hempty
          exact absurd hroot (by decide)
  | join connective operands ih =>
      constructor
      · intro heven
        have hoperands := (leavesBelow_join_iff connective).mp heven
        apply value_join_mono connective
        intro query hmem
        exact (ih query hmem).1 (hoperands query hmem)
      · intro hodd
        have hoperands := (leavesBelow_join_iff connective).mp hodd
        apply value_join_mono connective
        intro query hmem
        exact (ih query hmem).2 (hoperands query hmem)
  | negation query ih =>
      rw [leavesBelow_even_negation_iff, leavesBelow_odd_negation_iff, value, value,
        Bool.not_eq_true', Bool.not_eq_true', ← Bool.not_eq_true, ← Bool.not_eq_true]
      exact ⟨fun hodd => mt (ih.2 hodd), fun heven => mt (ih.1 heven)⟩

/-- **Polarity governs what more tags do.**  Let a collection contain all tags of another.  A
query with each tag and each glob below an even number of negations holds of it if it
holds of the other; a query with each of them below an odd number fails of it if it fails of
the other. -/
theorem holds_of_more_tags (query : Query) (matching : Matching) (tags : κ) (tags' : κ')
    (within : ∀ tag ∈ Collection.tags tags, tag ∈ Collection.tags tags') :
    (query.LeavesBelow Even → query.holds matching tags = true →
      query.holds matching tags' = true) ∧
    (query.LeavesBelow Odd → query.holds matching tags = false →
      query.holds matching tags' = false) := by
  simp only [holds, holds_ask, ← Bool.not_eq_true]
  obtain ⟨heven, hodd⟩ := value_of_within within matching query
  exact ⟨heven, fun hbelow => mt (hodd hbelow)⟩

end Polarity

/-- A glob below two negations, and the same query below one more. -/
theorem holds_of_more_tags_negated :
    (Query.all [.tag ['a'], .negation (.any [.negation (.glob ⟨['b'], [[]]⟩)])]).LeavesBelow Even ∧
      (Query.all [.tag ['a'], .negation (.any [.negation (.glob ⟨['b'], [[]]⟩)])]).holds
        ⟨false, true⟩ [['c'], ['B', '1'], ['A']] = true ∧
      (Query.negation (.all [.tag ['a'],
        .negation (.any [.negation (.glob ⟨['b'], [[]]⟩)])])).holds
          ⟨false, true⟩ [['c'], ['B', '1'], ['A']] = false := by
  have htag : (Query.tag ['a']).LeavesBelow Even :=
    (IsLeaf.tag _).leavesBelow_iff.mpr fun _ => by decide
  have hglob : (Query.glob ⟨['b'], [[]]⟩).LeavesBelow Even :=
    (IsLeaf.glob _).leavesBelow_iff.mpr fun _ => by decide
  have hany : (Query.any [.negation (.glob ⟨['b'], [[]]⟩)]).LeavesBelow Odd :=
    (leavesBelow_join_iff .any).mpr
      (List.forall_mem_singleton.mpr (leavesBelow_odd_negation_iff.mpr hglob))
  have heven : (Query.all [.tag ['a'],
      .negation (.any [.negation (.glob ⟨['b'], [[]]⟩)])]).LeavesBelow Even :=
    (leavesBelow_join_iff .all).mpr (List.forall_mem_cons.mpr
      ⟨htag, List.forall_mem_singleton.mpr (leavesBelow_even_negation_iff.mpr hany)⟩)
  have hwithin : ∀ tag ∈ Collection.tags [['A'], ['B', '1']],
      tag ∈ Collection.tags [['c'], ['B', '1'], ['A']] := by decide
  refine ⟨heven, ?_, ?_⟩
  · exact (holds_of_more_tags _ ⟨false, true⟩ _ _ hwithin).1 heven (by decide +kernel)
  · exact (holds_of_more_tags _ ⟨false, true⟩ _ _ hwithin).2
      (leavesBelow_odd_negation_iff.mpr heven) (by decide +kernel)

end Query

end TagFilter
