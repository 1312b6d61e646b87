import TagFilter.Proofs.GlobText

/-!
# The two writings of a glob

A glob can be given as a text with markers for its gaps, and as segments.  This module says
what each of the two keeps.

* From a text: cutting it at the markers gives a literal for each piece, also for the empty
  ones, and a gap between each two (`Glob.ofText_eq_ofSegments`).  Writing the glob gives
  the text back, and there is one gap for each marker.
* From segments: the glob keeps them, but for empty literals, and with literals that touch
  made one (`Glob.segments_ofSegments`).  That changes nothing in the text
  (`Glob.toText_ofSegments`), and the text is read as the same glob exactly if the marker
  stands in no literal.
-/

namespace TagFilter

/-- The text of a segment, in which the marker stands for a gap. -/
def Segment.text (marker : Char) : Segment → Text
  | .literal text => text
  | .wildcard => [marker]

/-- Puts a segment in front of others.  An empty literal is left out, and a literal in front
of another is joined to it. -/
def Segment.joinTo : Segment → List Segment → List Segment
  | .literal [], rest => rest
  | .literal text, .literal next :: rest => .literal (text ++ next) :: rest
  | segment, rest => segment :: rest

namespace Glob

variable {marker : Char}

/-! ## Segments -/

/-- A gap that is put before a glob is a segment of its own. -/
theorem segments_prependGap (glob : Glob) :
    glob.prependGap.segments = .wildcard :: glob.segments := segments_cons [] glob.head glob.tail

/-- A text that is put before a glob is joined to the literal that stands there. -/
theorem segments_prepend (text : Text) (glob : Glob) :
    (glob.prepend text).segments = (Segment.literal text).joinTo glob.segments := by
  obtain ⟨head, tail⟩ := glob
  cases text with
  | nil => rfl
  | cons c text =>
      cases head with
      | cons d head => rfl
      | nil =>
          rw [prepend, List.append_nil]
          -- what stands behind an empty head is a gap or nothing
          cases tail <;> rfl

/-- **Segments that are kept.**  A glob has the segments that it was made of, without empty
literals and with literals that touch made one. -/
theorem segments_ofSegments (segments : List Segment) :
    (ofSegments segments).segments = segments.foldr Segment.joinTo [] := by
  induction segments with
  | nil => rfl
  | cons segment segments ih =>
      rw [List.foldr_cons, ← ih]
      cases segment with
      | literal text => exact segments_prepend text _
      | wildcard => exact segments_prependGap _

/-- The segments of a piece give the piece back. -/
theorem ofSegments_pieceSegments (piece : Text) (rest : List Segment) :
    ofSegments (pieceSegments piece ++ rest) = (ofSegments rest).prepend piece := by
  cases piece <;> rfl

/-- Every glob is made of its segments. -/
theorem ofSegments_segments (glob : Glob) : ofSegments glob.segments = glob := by
  obtain ⟨head, tail⟩ := glob
  induction tail generalizing head with
  | nil =>
      rw [segments, List.flatMap_nil, ofSegments_pieceSegments, ofSegments, nothing, prepend,
        List.append_nil]
  | cons piece tail ih =>
      rw [segments_cons, ofSegments_pieceSegments, ofSegments, ih, prependGap, prepend,
        List.append_nil]

/-- A glob has a gap in front of each piece but the first. -/
theorem count_wildcard_segments (glob : Glob) :
    glob.segments.count .wildcard = glob.tail.length := by
  obtain ⟨head, tail⟩ := glob
  have hpiece : ∀ piece : Text, (pieceSegments piece).count .wildcard = 0 := by
    intro piece
    cases piece <;> rfl
  induction tail generalizing head with
  | nil => rw [segments, List.flatMap_nil, List.append_nil, hpiece, List.length_nil]
  | cons piece tail ih =>
      rw [segments_cons, List.count_append, hpiece, List.count_cons_self, ih, List.length_cons,
        Nat.zero_add]

/-! ## Texts -/

/-- The text of a glob is that of the segments that it was made of. -/
theorem toText_ofSegments (marker : Char) (segments : List Segment) :
    (ofSegments segments).toText marker = segments.flatMap (Segment.text marker) := by
  induction segments with
  | nil => rfl
  | cons segment segments ih =>
      rw [List.flatMap_cons, ← ih]
      cases segment with
      | literal text => exact List.append_assoc text _ _
      | wildcard => rw [ofSegments, prependGap, toText_cons, Segment.text]; rfl

/-- The pieces of a text are what the markers cut it into. -/
theorem pieces_ofText (marker : Char) (text : Text) :
    (ofText marker text).pieces = text.splitOn marker := by
  induction text with
  | nil => rfl
  | cons c text ih =>
      rw [List.splitOn_cons_eq_if_modifyHead, ← ih, ofText]
      by_cases hc : c = marker
      · rw [if_pos hc, if_pos (beq_iff_eq.mpr hc)]
        rfl
      · rw [if_neg hc, if_neg (mt beq_iff_eq.mp hc)]
        rfl

/-- Pieces with gaps between them make the glob that has these pieces. -/
theorem ofSegments_intersperse_pieces (glob : Glob) :
    ofSegments ((glob.pieces.map Segment.literal).intersperse .wildcard) = glob := by
  obtain ⟨head, tail⟩ := glob
  induction tail generalizing head with
  | nil =>
      rw [pieces, List.map_singleton, List.intersperse_singleton, ofSegments, ofSegments, nothing,
        prepend, List.append_nil]
  | cons piece tail ih =>
      have hlater := ih piece
      rw [pieces, List.map_cons] at hlater
      rw [pieces, List.map_cons, List.map_cons, List.intersperse_cons_cons, ofSegments, ofSegments,
        hlater, prependGap, prepend, List.append_nil]

/-- **Cutting a text.**  It gives a literal for each piece between two markers, and a gap
for each marker. -/
theorem ofText_eq_ofSegments (marker : Char) (text : Text) :
    ofText marker text =
      ofSegments (((text.splitOn marker).map Segment.literal).intersperse .wildcard) := by
  rw [← pieces_ofText, ofSegments_intersperse_pieces]

/-- The glob of a text has as many gaps as the text has markers. -/
theorem length_tail_ofText (marker : Char) (text : Text) :
    (ofText marker text).tail.length = text.count marker := by
  induction text with
  | nil => rfl
  | cons c text ih =>
      rw [ofText]
      by_cases hc : c = marker
      · rw [if_pos hc, hc, List.count_cons_self, ← ih]
        rfl
      · rw [if_neg hc, List.count_cons_of_ne hc, ← ih]
        rfl

/-- A glob is read from its own text exactly if the marker stands in no literal. -/
theorem ofText_toText_iff {glob : Glob} :
    ofText marker (glob.toText marker) = glob ↔
      ∀ text, .literal text ∈ glob.segments → marker ∉ text := by
  rw [plain_iff]
  constructor
  · intro h
    rw [← h]
    exact not_mem_pieces_ofText _
  · exact ofText_toText

/-- **Text and segments.**  A text is cut at its markers, is written back as it was, and has
a gap for each of its markers.  Segments lose their empty literals, those that touch become
one, and the text is the same; it is read back as the same glob exactly if the marker stands
in none of the literals. -/
theorem text_and_segments (marker : Char) :
    (∀ text : Text,
      ofText marker text =
          ofSegments (((text.splitOn marker).map Segment.literal).intersperse .wildcard) ∧
        (ofText marker text).toText marker = text ∧
        (ofText marker text).segments.count .wildcard = text.count marker) ∧
    ∀ segments : List Segment,
      (ofSegments segments).segments = segments.foldr Segment.joinTo [] ∧
        (ofSegments segments).toText marker = segments.flatMap (Segment.text marker) ∧
        (ofText marker ((ofSegments segments).toText marker) = ofSegments segments ↔
          ∀ text, .literal text ∈ (ofSegments segments).segments → marker ∉ text) := by
  refine ⟨fun text => ⟨ofText_eq_ofSegments marker text, toText_ofText marker text, ?_⟩,
    fun segments => ⟨segments_ofSegments segments, toText_ofSegments marker segments,
      ofText_toText_iff⟩⟩
  rw [count_wildcard_segments, length_tail_ofText]

/-- Gaps at both ends and next to each other have empty pieces, which are no segments. -/
example : (ofText '*' ['*', 'a', '*', '*']).segments =
    [.wildcard, .literal ['a'], .wildcard, .wildcard] := by decide

end Glob

end TagFilter
