import TagFilter.LetterCase

/-!
# Globs: tag names with gaps

A glob stands for every name that has its pieces in order with anything, or
nothing, in the gaps between them.  It is kept as its pieces: the one before
the first gap, and one more after each gap.  Pieces may be empty, so each glob
has exactly one such form, and nothing has to be kept normal.

* `Glob.ofText` and `Glob.toText` go between a glob and its text, in which a
  marker stands for each gap.
* `Glob.ofSegments` and `Glob.segments` go between a glob and its segments,
  in which no literal is empty and no two literals touch.
* `Glob.accepts` decides whether a name is one the glob stands for.
-/

namespace TagFilter

/-- One part of a glob read from left to right. -/
inductive Segment where
  /-- Characters that stand for themselves. -/
  | literal (text : Text)
  /-- A gap, filled by any characters or none. -/
  | wildcard
  deriving DecidableEq, Repr

/-- A name with gaps, as the pieces around them. -/
structure Glob where
  /-- What stands before the first gap. -/
  head : Text
  /-- What stands after each gap, up to the next. -/
  tail : List Text
  deriving DecidableEq, Repr

namespace Glob

/-- The glob of the empty name. -/
def nothing : Glob := ⟨[], []⟩

/-- The glob with a text put before it. -/
def prepend (text : Text) (glob : Glob) : Glob := ⟨text ++ glob.head, glob.tail⟩

/-- The glob with a gap put before it. -/
def prependGap (glob : Glob) : Glob := ⟨[], glob.head :: glob.tail⟩

/-- Reads a text in which every `marker` is a gap. -/
def ofText (marker : Char) : Text → Glob
  | [] => nothing
  | c :: rest =>
    if c = marker then (ofText marker rest).prependGap else (ofText marker rest).prepend [c]

/-- Writes `marker` for every gap. -/
def toText (marker : Char) (glob : Glob) : Text :=
  glob.head ++ glob.tail.flatMap (marker :: ·)

/-- Joins segments: neighbouring literals become one piece. -/
def ofSegments : List Segment → Glob
  | [] => nothing
  | .literal text :: rest => (ofSegments rest).prepend text
  | .wildcard :: rest => (ofSegments rest).prependGap

/-- A piece as segments: none if it is empty. -/
def pieceSegments : Text → List Segment
  | [] => []
  | c :: rest => [.literal (c :: rest)]

/-- The segments of a glob from left to right. -/
def segments (glob : Glob) : List Segment :=
  pieceSegments glob.head ++ glob.tail.flatMap fun piece => .wildcard :: pieceSegments piece

/-- The lowercase of every piece. -/
def lowercase (glob : Glob) : Glob :=
  ⟨TagFilter.lowercase glob.head, glob.tail.map TagFilter.lowercase⟩

/-- What follows the first place where `piece` occurs in the text. -/
def afterFirst (piece : Text) : Text → Option Text
  | [] => piece.isPrefixOf? []
  | c :: rest =>
    match piece.isPrefixOf? (c :: rest) with
    | some after => some after
    | none => afterFirst piece rest

/-- Whether the text has the pieces in order, the last of them at its end, and
anything before each.  Taking the first place for each piece but the last
loses nothing, since it leaves the most text to the pieces after it. -/
def acceptsAfterGap : List Text → Text → Bool
  | [], _ => true
  | [last], text => last.isSuffixOf text
  | piece :: next :: pieces, text =>
    match afterFirst piece text with
    | some after => acceptsAfterGap (next :: pieces) after
    | none => false

/-- Whether the whole of `name` is one the glob stands for. -/
def accepts (glob : Glob) (name : Text) : Bool :=
  match glob.head.isPrefixOf? name with
  | none => false
  | some rest =>
    match glob.tail with
    | [] => rest.isEmpty
    | piece :: pieces => acceptsAfterGap (piece :: pieces) rest

end Glob

end TagFilter
