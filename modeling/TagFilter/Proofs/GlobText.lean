import TagFilter.Glob

/-!
# The text and the segments of a glob

Reading the text of a glob gives the glob back if the marker stands in none of
its pieces (`Glob.ofText_toText`), and the marker stands in no piece of a glob
that was read from a text (`Glob.not_mem_pieces_ofText`).

The segments of a glob are normal whatever its pieces are: an empty piece has no
segment, and a gap stands between any two pieces.
-/

namespace TagFilter

/-- No two literals touch. -/
def LiteralsApart : List Segment → Prop
  | [] => True
  | .wildcard :: rest => LiteralsApart rest
  | [.literal _] => True
  | .literal _ :: .wildcard :: rest => LiteralsApart rest
  | .literal _ :: .literal _ :: _ => False

/-- No literal is empty, and no two literals touch. -/
structure NormalSegments (segments : List Segment) : Prop where
  nonempty : ∀ text, .literal text ∈ segments → text ≠ []
  /-- No two literals touch. -/
  apart : LiteralsApart segments

namespace Glob

/-- Everything around the gaps, from left to right. -/
def pieces (glob : Glob) : List Text := glob.head :: glob.tail

/-- A glob that has a gap and can be written with the marker: the marker stands
in none of its literals. -/
structure Fits (marker : Char) (glob : Glob) : Prop where
  gap : .wildcard ∈ glob.segments
  /-- The marker stands for gaps alone. -/
  plain : ∀ text, .literal text ∈ glob.segments → marker ∉ text

/-! ## Segments -/

/-- The one segment of a piece is the literal, unless the piece is empty. -/
theorem mem_pieceSegments {segment : Segment} {piece : Text} :
    segment ∈ pieceSegments piece ↔ segment = .literal piece ∧ piece ≠ [] := by
  cases piece <;> simp [pieceSegments]

/-- Behind the first piece stand a gap and the segments of the others. -/
theorem segments_cons (head piece : Text) (tail : List Text) :
    segments ⟨head, piece :: tail⟩ = pieceSegments head ++ .wildcard :: segments ⟨piece, tail⟩ := by
  simp [segments]

/-- A glob has a gap if it has more than one piece. -/
theorem wildcard_mem_segments {glob : Glob} : .wildcard ∈ glob.segments ↔ glob.tail ≠ [] := by
  obtain ⟨head, tail⟩ := glob
  cases tail with
  | nil => simp [segments, mem_pieceSegments]
  | cons piece tail => simp [segments_cons]

/-- The literals of a glob are its pieces that are not empty. -/
theorem literal_mem_segments {glob : Glob} {text : Text} :
    .literal text ∈ glob.segments ↔ text ∈ glob.pieces ∧ text ≠ [] := by
  obtain ⟨head, tail⟩ := glob
  induction tail generalizing head with
  | nil =>
      simp only [segments, List.flatMap_nil, List.append_nil, mem_pieceSegments, pieces,
        List.mem_singleton, Segment.literal.injEq]
      grind
  | cons piece tail ih =>
      simp only [segments_cons, List.mem_append, List.mem_cons, mem_pieceSegments, ih, pieces,
        Segment.literal.injEq, reduceCtorEq, false_or]
      grind

/-- In front of a gap there is room for a piece. -/
theorem literalsApart_pieceSegments_append {piece : Text} {rest : List Segment}
    (h : LiteralsApart rest) : LiteralsApart (pieceSegments piece ++ .wildcard :: rest) := by
  cases piece <;> exact h

/-- The segments of every glob are normal. -/
theorem normalSegments (glob : Glob) : NormalSegments glob.segments := by
  refine ⟨fun text hmem => (literal_mem_segments.mp hmem).2, ?_⟩
  obtain ⟨head, tail⟩ := glob
  induction tail generalizing head with
  | nil => cases head <;> simp [segments, pieceSegments, LiteralsApart]
  | cons piece tail ih =>
      rw [segments_cons]
      exact literalsApart_pieceSegments_append (ih piece)

/-- The literals of a glob are its pieces, save the empty ones. -/
theorem plain_iff {marker : Char} {glob : Glob} :
    (∀ text, .literal text ∈ glob.segments → marker ∉ text) ↔
      ∀ piece ∈ glob.pieces, marker ∉ piece := by
  constructor
  · intro h piece hpiece hmarker
    exact h piece (literal_mem_segments.mpr ⟨hpiece, List.ne_nil_of_mem hmarker⟩) hmarker
  · intro h text htext
    exact h text (literal_mem_segments.mp htext).1

/-! ## Text -/

/-- In the text of a glob the marker stands between the pieces. -/
theorem toText_cons (marker : Char) (head piece : Text) (tail : List Text) :
    toText marker ⟨head, piece :: tail⟩ = head ++ marker :: toText marker ⟨piece, tail⟩ := by
  simp [toText]

/-- A glob with a gap has the marker in its text. -/
theorem marker_mem_toText {marker : Char} {glob : Glob} (h : .wildcard ∈ glob.segments) :
    marker ∈ glob.toText marker := by
  obtain ⟨head, tail⟩ := glob
  cases tail with
  | nil => exact absurd rfl (wildcard_mem_segments.mp h)
  | cons piece tail => simp [toText_cons]

/-- A text without markers joins the first piece of what follows it. -/
theorem ofText_append {marker : Char} {text : Text} (h : marker ∉ text) (rest : Text) :
    ofText marker (text ++ rest) = (ofText marker rest).prepend text := by
  induction text with
  | nil => rfl
  | cons c text ih =>
      obtain ⟨hc, htext⟩ := not_or.mp (mt List.mem_cons.mpr h)
      rw [List.cons_append, ofText, if_neg (Ne.symm hc), ih htext]
      rfl

/-- **Reading the text of a glob.**  It gives the glob back if no piece has the
marker in it. -/
theorem ofText_toText {marker : Char} {glob : Glob} (h : ∀ piece ∈ glob.pieces, marker ∉ piece) :
    ofText marker (glob.toText marker) = glob := by
  obtain ⟨head, tail⟩ := glob
  induction tail generalizing head with
  | nil =>
      have hhead := ofText_append (h head List.mem_cons_self) []
      simpa [toText, ofText, nothing, prepend] using hhead
  | cons piece tail ih =>
      have htail := ih piece fun other hother => h other (List.mem_cons_of_mem _ hother)
      rw [toText_cons, ofText_append (h head List.mem_cons_self), ofText, if_pos rfl, htail]
      simp [prependGap, prepend]

/-- **Writing a glob that was read.**  It gives the text back, whatever is in it. -/
theorem toText_ofText (marker : Char) (text : Text) :
    (ofText marker text).toText marker = text := by
  induction text with
  | nil => rfl
  | cons c text ih =>
      rw [ofText]
      split
      · rename_i hc
        rw [hc, prependGap, toText_cons, List.nil_append]
        exact congrArg (marker :: ·) ih
      · exact congrArg (c :: ·) ih

/-- No piece of a glob that is read from a text has the marker in it. -/
theorem not_mem_pieces_ofText {marker : Char} (text : Text) :
    ∀ piece ∈ (ofText marker text).pieces, marker ∉ piece := by
  induction text with
  | nil => simp [ofText, nothing, pieces]
  | cons c text ih =>
      rw [ofText]
      split
      · simpa [pieces, prependGap] using ih
      · rename_i hc
        have hne : marker ≠ c := fun heq => hc heq.symm
        simpa [pieces, prepend, hne] using ih

/-- Every text with a marker is the text of a glob that the marker can write. -/
theorem fits_ofText {marker : Char} {text : Text} (h : marker ∈ text) :
    (ofText marker text).Fits marker := by
  refine ⟨wildcard_mem_segments.mpr ?_, plain_iff.mpr (not_mem_pieces_ofText text)⟩
  induction text with
  | nil => simp at h
  | cons c text ih =>
      rw [ofText]
      split
      · simp [prependGap]
      · rename_i hc
        exact ih ((List.mem_cons.mp h).resolve_left fun heq => hc heq.symm)

/-- The glob of a lone marker can be written with any marker. -/
theorem fits_gap (marker : Char) : (ofSegments [.wildcard]).Fits marker := by
  refine ⟨by decide, plain_iff.mpr ?_⟩
  simp [ofSegments, nothing, prependGap, pieces]

end Glob

end TagFilter
