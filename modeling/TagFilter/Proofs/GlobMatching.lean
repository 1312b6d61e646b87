import Mathlib.Data.List.Forall2
import TagFilter.Glob

/-!
# The names that a glob accepts

Segments span a name if the name is made of one piece for each of them, in order:
a literal gives its own text, and a gap any text.  A glob accepts exactly the names
that its segments span (`Glob.accepts_ofSegments_iff`).

The search never goes back.  It keeps to the first place of each piece, and
`Glob.exists_afterFirst` is why that loses nothing: behind any other place there is
only an end of what the first one leaves.  A text with more in front of it still has
the pieces that are left (`Glob.Follow.prepend`), so whatever way there is to go on
from another place, there is one from the first.
-/

namespace TagFilter

/-- The texts that one segment can give. -/
inductive Segment.Gives : Segment → Text → Prop
  | literal (text : Text) : Gives (.literal text) text
  /-- A gap gives any text, also none. -/
  | wildcard (piece : Text) : Gives .wildcard piece

/-- The name is made of one piece for each of the segments, in order. -/
def Spans (segments : List Segment) (name : Text) : Prop :=
  ∃ pieces, List.Forall₂ Segment.Gives segments pieces ∧ pieces.flatten = name

/-- Only the empty name is made of no segments. -/
theorem spans_nil {name : Text} : Spans [] name ↔ name = [] := by
  constructor
  · rintro ⟨pieces, hgives, rfl⟩
    cases hgives
    rfl
  · rintro rfl
    exact ⟨[], .nil, rfl⟩

/-- The first segment gives a beginning of the name, and the others span the rest. -/
theorem spans_cons {segment : Segment} {segments : List Segment} {name : Text} :
    Spans (segment :: segments) name ↔
      ∃ piece rest, name = piece ++ rest ∧ segment.Gives piece ∧ Spans segments rest := by
  constructor
  · rintro ⟨pieces, hgives, rfl⟩
    cases hgives with
    | @cons _ piece _ pieces hpiece hrest =>
        exact ⟨piece, pieces.flatten, rfl, hpiece, pieces, hrest, rfl⟩
  · rintro ⟨piece, rest, rfl, hpiece, pieces, hrest, rfl⟩
    exact ⟨piece :: pieces, .cons hpiece hrest, rfl⟩

/-- A literal takes its own text from the front of a name. -/
theorem spans_literal {text name : Text} {segments : List Segment} :
    Spans (.literal text :: segments) name ↔ ∃ rest, name = text ++ rest ∧ Spans segments rest := by
  rw [spans_cons]
  constructor
  · rintro ⟨piece, rest, hname, hgives, hrest⟩
    cases hgives
    exact ⟨rest, hname, hrest⟩
  · rintro ⟨rest, hname, hrest⟩
    exact ⟨text, rest, hname, .literal text, hrest⟩

/-- A gap takes any front of a name. -/
theorem spans_wildcard {name : Text} {segments : List Segment} :
    Spans (.wildcard :: segments) name ↔ ∃ gap rest, name = gap ++ rest ∧ Spans segments rest := by
  rw [spans_cons]
  constructor
  · rintro ⟨gap, rest, hname, -, hrest⟩
    exact ⟨gap, rest, hname, hrest⟩
  · rintro ⟨gap, rest, hname, hrest⟩
    exact ⟨gap, rest, hname, .wildcard gap, hrest⟩

namespace Glob

/-! ## The first place of a piece -/

/-- A place that is found is one: the piece stands there, in front of what is left. -/
theorem eq_append_of_afterFirst {piece text after : Text}
    (h : afterFirst piece text = some after) : ∃ gap, text = gap ++ (piece ++ after) := by
  induction text with
  | nil =>
      have hpiece := List.isPrefixOf?_eq_some_iff_append_eq.mp h
      exact ⟨[], hpiece.symm⟩
  | cons c text ih =>
      rw [afterFirst] at h
      split at h
      · rename_i found hfound
        obtain rfl := Option.some.inj h
        have hpiece := List.isPrefixOf?_eq_some_iff_append_eq.mp hfound
        exact ⟨[], hpiece.symm⟩
      · obtain ⟨gap, hgap⟩ := ih h
        exact ⟨c :: gap, congrArg (c :: ·) hgap⟩

/-- **The first place leaves the most.**  Wherever a piece stands in a text, there is a
first place for it, and what follows the piece is an end of what the first leaves. -/
theorem exists_afterFirst (gap piece rest : Text) :
    ∃ after, afterFirst piece (gap ++ (piece ++ rest)) = some after ∧ rest <:+ after := by
  induction gap with
  | nil =>
      have hhead : piece.isPrefixOf? (piece ++ rest) = some rest :=
        List.isPrefixOf?_eq_some_iff_append_eq.mpr rfl
      refine ⟨rest, ?_, List.suffix_refl rest⟩
      rw [List.nil_append]
      cases htext : piece ++ rest with
      | nil => rwa [afterFirst, ← htext]
      | cons c text => rw [afterFirst, ← htext, hhead]
  | cons c gap ih =>
      obtain ⟨after, hafter, hsuffix⟩ := ih
      rw [List.cons_append, afterFirst]
      cases hfound : piece.isPrefixOf? (c :: (gap ++ (piece ++ rest))) with
      | none => exact ⟨after, hafter, hsuffix⟩
      | some earlier =>
          -- both ends are ends of the whole text, and this one is not the shorter
          have hpiece := List.isPrefixOf?_eq_some_iff_append_eq.mp hfound
          have hlength := congrArg List.length hpiece
          simp only [List.length_append, List.length_cons] at hlength
          have hrest : rest <:+ c :: (gap ++ (piece ++ rest)) :=
            ⟨c :: (gap ++ piece), by simp⟩
          have hearlier : earlier <:+ c :: (gap ++ (piece ++ rest)) := ⟨piece, hpiece⟩
          refine ⟨earlier, rfl, List.suffix_of_suffix_length_le hrest hearlier ?_⟩
          omega

/-! ## Pieces behind gaps -/

/-- The text has the pieces in order, with any text in front of each, and nothing
behind the last. -/
def Follow : List Text → Text → Prop
  | [], text => text = []
  | piece :: pieces, text => ∃ gap rest, text = gap ++ (piece ++ rest) ∧ Follow pieces rest

/-- More text in front is part of the first gap. -/
theorem Follow.prepend {pieces : List Text} {text : Text} (hne : pieces ≠ [])
    (h : Follow pieces text) (more : Text) : Follow pieces (more ++ text) := by
  cases pieces with
  | nil => exact absurd rfl hne
  | cons piece pieces =>
      obtain ⟨gap, rest, rfl, hrest⟩ := h
      exact ⟨more ++ gap, rest, (List.append_assoc more gap _).symm, hrest⟩

/-- One piece behind a gap is at the end of the text. -/
theorem follow_singleton {piece text : Text} : Follow [piece] text ↔ piece <:+ text := by
  constructor
  · rintro ⟨gap, rest, rfl, rfl⟩
    exact ⟨gap, by rw [List.append_nil]⟩
  · rintro ⟨gap, rfl⟩
    exact ⟨gap, [], by rw [List.append_nil], rfl⟩

/-- **The search is exact.**  It finds the pieces in order exactly if they are there. -/
theorem acceptsAfterGap_iff {piece : Text} {pieces : List Text} {text : Text} :
    acceptsAfterGap (piece :: pieces) text = true ↔ Follow (piece :: pieces) text := by
  induction pieces generalizing piece text with
  | nil => rw [acceptsAfterGap, List.isSuffixOf_iff_suffix, follow_singleton]
  | cons next pieces ih =>
      rw [acceptsAfterGap]
      constructor
      · intro h
        cases hafter : afterFirst piece text with
        | none => simp [hafter] at h
        | some after =>
            rw [hafter] at h
            obtain ⟨gap, hgap⟩ := eq_append_of_afterFirst hafter
            exact ⟨gap, after, hgap, ih.mp h⟩
      · rintro ⟨gap, rest, rfl, hrest⟩
        obtain ⟨after, hafter, more, rfl⟩ := exists_afterFirst gap piece rest
        have hfollow : Follow (next :: pieces) (more ++ rest) := hrest.prepend (by simp) more
        rw [hafter]
        exact ih.mpr hfollow

/-- A glob accepts the names that begin with its head and go on with the pieces behind
its gaps. -/
theorem accepts_iff {glob : Glob} {name : Text} :
    glob.accepts name = true ↔ ∃ rest, name = glob.head ++ rest ∧ Follow glob.tail rest := by
  obtain ⟨head, tail⟩ := glob
  rw [accepts]
  constructor
  · intro h
    cases hrest : head.isPrefixOf? name with
    | none => simp [hrest] at h
    | some rest =>
        have hname := List.isPrefixOf?_eq_some_iff_append_eq.mp hrest
        refine ⟨rest, hname.symm, ?_⟩
        rw [hrest] at h
        cases tail with
        | nil => exact List.isEmpty_iff.mp h
        | cons piece pieces => exact acceptsAfterGap_iff.mp h
  · rintro ⟨rest, rfl, hfollow⟩
    have hhead : head.isPrefixOf? (head ++ rest) = some rest :=
      List.isPrefixOf?_eq_some_iff_append_eq.mpr rfl
    rw [hhead]
    cases tail with
    | nil => exact List.isEmpty_iff.mpr hfollow
    | cons piece pieces => exact acceptsAfterGap_iff.mpr hfollow

/-! ## Segments -/

/-- Joining segments to pieces changes nothing in what they span. -/
theorem spans_iff_follow {segments : List Segment} {name : Text} :
    Spans segments name ↔
      ∃ rest, name = (ofSegments segments).head ++ rest ∧
        Follow (ofSegments segments).tail rest := by
  induction segments generalizing name with
  | nil => simp [spans_nil, ofSegments, nothing, Follow]
  | cons segment segments ih =>
      cases segment with
      | literal text =>
          rw [spans_literal]
          constructor
          · rintro ⟨after, rfl, hafter⟩
            obtain ⟨rest, rfl, hrest⟩ := ih.mp hafter
            exact ⟨rest, (List.append_assoc text _ rest).symm, hrest⟩
          · rintro ⟨rest, rfl, hrest⟩
            exact ⟨_, List.append_assoc text _ rest, ih.mpr ⟨rest, rfl, hrest⟩⟩
      | wildcard =>
          rw [spans_wildcard]
          constructor
          · rintro ⟨gap, after, rfl, hafter⟩
            obtain ⟨rest, rfl, hrest⟩ := ih.mp hafter
            exact ⟨_, rfl, gap, rest, rfl, hrest⟩
          · rintro ⟨_, rfl, gap, rest, rfl, hrest⟩
            exact ⟨gap, _, rfl, ih.mpr ⟨rest, rfl, hrest⟩⟩

/-- **Matching is exact.**  The glob of any segments accepts a name exactly if the name
is made of one piece for each segment in order, whatever way of cutting it that takes;
so the glob without segments accepts the empty name alone. -/
theorem accepts_ofSegments_iff (segments : List Segment) (name : Text) :
    (ofSegments segments).accepts name = true ↔ Spans segments name := by
  rw [accepts_iff, spans_iff_follow]

/-- The last piece may not take what the first one has used up. -/
example : (ofSegments [.literal ['a', 'b'], .wildcard, .literal ['b', 'a']]).accepts
    ['a', 'b', 'a'] = false := by decide

end Glob

end TagFilter
