import TagFilter.Proofs.Dependence
import TagFilter.Proofs.GlobSegments

/-!
# Ignoring case is matching in lowercase

A match without regard to case lists the tags where a match with case looks a name up, and
puts both sides in lowercase as it goes.  What comes out is what a match with case finds for
the query in lowercase and the tags in lowercase (`Query.holds_lowercased`), so no more is
seen of a collection than the lowercase of its tags.

The lowercase of a glob is that of its segments, one by one: the lowercase of a literal is
not empty, so none is lost and no two of them come to touch (`Glob.segments_lowercase`).
-/

namespace TagFilter

/-- The lowercase of a segment. -/
def Segment.lowercase : Segment → Segment
  | .literal text => .literal (TagFilter.lowercase text)
  | .wildcard => .wildcard

namespace Glob

/-- A piece that is not empty is a literal. -/
theorem pieceSegments_of_ne_nil {piece : Text} (h : piece ≠ []) :
    pieceSegments piece = [.literal piece] := by
  obtain ⟨c, rest, rfl⟩ := List.exists_cons_of_ne_nil h
  rfl

/-- The segments of a piece are lowercased as the piece is. -/
theorem pieceSegments_lowercase (piece : Text) :
    pieceSegments (TagFilter.lowercase piece) = (pieceSegments piece).map Segment.lowercase := by
  by_cases hpiece : piece = []
  · subst hpiece
    rfl
  · rw [pieceSegments_of_ne_nil hpiece, pieceSegments_of_ne_nil (mt lowercase_eq_nil_iff.mp hpiece),
      List.map_singleton, Segment.lowercase]

/-- The segments of the lowercase of a glob are the lowercase of its segments. -/
theorem segments_lowercase (glob : Glob) :
    glob.lowercase.segments = glob.segments.map Segment.lowercase := by
  obtain ⟨head, tail⟩ := glob
  induction tail generalizing head with
  | nil => simp only [lowercase, segments, List.map_nil, List.flatMap_nil, List.append_nil,
      pieceSegments_lowercase]
  | cons piece tail ih =>
      have hlater := ih piece
      rw [lowercase] at hlater
      rw [lowercase, List.map_cons, segments_cons, segments_cons, hlater, pieceSegments_lowercase,
        List.map_append, List.map_cons, Segment.lowercase]

/-- So it is made of the lowercase of the segments. -/
theorem lowercase_eq_ofSegments (glob : Glob) :
    glob.lowercase = ofSegments (glob.segments.map Segment.lowercase) := by
  rw [← segments_lowercase, ofSegments_segments]

end Glob

namespace Query

mutual

/-- The query with the lowercase of each tag and each glob. -/
def lowercased : Query → Query
  | .empty => .empty
  | .tag name => .tag (lowercase name)
  | .glob g => .glob g.lowercase
  | .all operands => .all (lowercasedOperands operands)
  | .any operands => .any (lowercasedOperands operands)
  | .negation operand => .negation operand.lowercased

/-- Some queries, each in lowercase. -/
def lowercasedOperands : List Query → List Query
  | [] => []
  | query :: queries => query.lowercased :: lowercasedOperands queries

end

/-- Operands are lowercased one by one. -/
theorem lowercasedOperands_eq_map (queries : List Query) :
    lowercasedOperands queries = queries.map lowercased := by
  induction queries with
  | nil => rfl
  | cons query queries ih => rw [lowercasedOperands, ih, List.map_cons]

/-- A connective stays what it is, over the lowercased operands. -/
theorem lowercased_join (connective : Connective) (operands : List Query) :
    (connective.join operands).lowercased = connective.join (operands.map lowercased) := by
  cases connective <;> rw [Connective.join, lowercased, lowercasedOperands_eq_map]

/-! ## Matching -/

/-- The tags of the second collection are the tags of the first in lowercase, in any order
and any number. -/
def Lowered {κ κ' : Type} [Collection κ] [Collection κ'] (tags : κ) (lowered : κ') : Prop :=
  ∀ tag, tag ∈ Collection.tags lowered ↔ tag ∈ (Collection.tags tags).map lowercase

section Matching

variable {κ κ' : Type} [Collection κ] [Collection κ'] {tags : κ} {lowered : κ'}

/-- Looking through tags in lowercase. -/
theorem Lowered.any_eq (h : Lowered tags lowered) (wanted : Text → Bool) :
    (Collection.tags lowered).any wanted =
      (Collection.tags tags).any fun tag => wanted (lowercase tag) := by
  rw [Bool.eq_iff_iff, List.any_eq_true, List.any_eq_true]
  constructor
  · rintro ⟨tag, hmem, hwanted⟩
    obtain ⟨source, hsource, rfl⟩ := List.mem_map.mp ((h tag).mp hmem)
    exact ⟨source, hsource, hwanted⟩
  · rintro ⟨source, hsource, hwanted⟩
    exact ⟨lowercase source, (h _).mpr (List.mem_map_of_mem hsource), hwanted⟩

/-- A name is looked up in a lawful collection by going through its tags. -/
theorem Lowered.has_eq [LawfulCollection κ'] (h : Lowered tags lowered) (name : Text) :
    Collection.has lowered name = (Collection.tags tags).any fun tag => lowercase tag = name := by
  rw [← h.any_eq fun tag => tag = name, Bool.eq_iff_iff, LawfulCollection.has_iff]
  simp

/-- **The lowercased problem.**  Without regard to case a query has the value that it has
with case in lowercase. -/
theorem value_lowercased [LawfulCollection κ'] (h : Lowered tags lowered) (emptyMatchesAll : Bool)
    (query : Query) :
    query.value ⟨false, emptyMatchesAll⟩ tags =
      query.lowercased.value ⟨true, emptyMatchesAll⟩ lowered := by
  induction query using join_induction with
  | leaf query hleaf =>
      cases hleaf with
      | empty => rw [lowercased, value, value]
      | tag name =>
          rw [lowercased, value, value]
          exact (h.has_eq (lowercase name)).symm
      | glob g =>
          rw [lowercased, value, value]
          exact (h.any_eq g.lowercase.accepts).symm
  | join connective operands ih =>
      rw [lowercased_join]
      refine value_join_congr connective ?_
      rw [List.map_map]
      exact List.map_congr_left ih
  | negation query ih => rw [lowercased, value, value, ih]

/-- **Ignoring case is matching in lowercase.**  Without regard to case a query holds of a
collection exactly if the query in lowercase holds with case of the tags in lowercase, kept
in any lawful collection; a glob in lowercase is made of its segments in lowercase.  So two
collections that have the same tags in lowercase cannot be told apart. -/
theorem holds_lowercased (query : Query) (emptyMatchesAll : Bool) :
    (∀ (κ κ' : Type) [Collection κ] [Collection κ'] [LawfulCollection κ'] (tags : κ)
        (lowered : κ'), Lowered tags lowered →
      query.holds ⟨false, emptyMatchesAll⟩ tags =
        query.lowercased.holds ⟨true, emptyMatchesAll⟩ lowered) ∧
    (∀ g : Glob, g.lowercase = .ofSegments (g.segments.map Segment.lowercase)) ∧
    ∀ (κ κ' : Type) [Collection κ] [Collection κ'] (tags : κ) (others : κ'),
      (∀ tag, tag ∈ (Collection.tags tags).map lowercase ↔
        tag ∈ (Collection.tags others).map lowercase) →
      query.holds ⟨false, emptyMatchesAll⟩ tags = query.holds ⟨false, emptyMatchesAll⟩ others := by
  refine ⟨?_, Glob.lowercase_eq_ofSegments, ?_⟩
  · intro κ κ' _ _ _ tags lowered h
    rw [holds, holds, holds_ask, holds_ask, value_lowercased h]
  · intro κ κ' _ _ tags others h
    -- a list of the lowercase tags is one for both
    have hothers : Lowered others ((Collection.tags tags).map lowercase) := h
    have htags : Lowered tags ((Collection.tags tags).map lowercase) := fun _ => Iff.rfl
    rw [holds, holds, holds_ask, holds_ask, value_lowercased htags, value_lowercased hothers]

/-- A final sigma in the tag is one in the query, and a repeated tag is one tag. -/
theorem holds_lowercased_sigma :
    Lowered #[['Ο', 'Σ'], ['A'], ['a']] [['a'], ['ο', 'ς']] ∧
      (Query.all [.tag ['ο', 'Σ'], .glob ⟨['A'], [[]]⟩]).holds ⟨false, true⟩
        #[['Ο', 'Σ'], ['A'], ['a']] = true ∧
      (Query.all [.tag ['ο', 'ς'], .glob ⟨['a'], [[]]⟩]).holds ⟨true, true⟩
        [['a'], ['ο', 'ς']] = true := by
  have hlowercase : (Collection.tags #[['Ο', 'Σ'], ['A'], ['a']]).map lowercase =
      [['ο', 'ς'], ['a'], ['a']] := by decide +kernel
  have hlowered : Lowered #[['Ο', 'Σ'], ['A'], ['a']] [['a'], ['ο', 'ς']] := by
    intro tag
    rw [hlowercase]
    simp [Collection.tags, or_comm]
  have hquery : (Query.all [.tag ['ο', 'Σ'], .glob ⟨['A'], [[]]⟩]).lowercased =
      .all [.tag ['ο', 'ς'], .glob ⟨['a'], [[]]⟩] := by decide +kernel
  have hlower : (Query.all [.tag ['ο', 'ς'], .glob ⟨['a'], [[]]⟩]).holds ⟨true, true⟩
      [['a'], ['ο', 'ς']] = true := by decide
  refine ⟨hlowered, ?_, hlower⟩
  rw [(holds_lowercased _ true).1 _ _ _ _ hlowered, hquery, hlower]

end Matching

end Query

end TagFilter
