import TagFilter.Token

/-!
# Scanning

A scan stands at a place in an input.  Pulling gives the token that comes next
and moves behind it, or tells how the input ends there.  `Scan.stream` is all
that pulling gives; it ends because every token takes a character
(`length_rest_lt_of_pull`).

A scan can be pulled beyond its end.  `Scan.next` stops there instead.
-/

namespace TagFilter

/-- How the tokens of an input end. -/
inductive Ending where
  /-- The input is used up; `offset` characters were read. -/
  | done (offset : Nat)
  /-- The quote after `offset` characters is never closed. -/
  | openQuote (offset : Nat)
  deriving DecidableEq, Repr

/-- What one pull gives. -/
inductive Pulled where
  | token (token : Token)
  /-- No token, and why. -/
  | ending (ending : Ending)
  deriving DecidableEq, Repr

/-- All tokens of an input and how they end. -/
structure Stream where
  tokens : List Token
  ending : Ending
  deriving DecidableEq, Repr

/-- A stream, one element after the other. -/
def Stream.toList (stream : Stream) : List Pulled :=
  stream.tokens.map .token ++ [.ending stream.ending]

/-- A place in an input. -/
structure Scan where
  /-- The character that stands for a gap. -/
  marker : Char
  rest : Text
  /-- How many characters were read. -/
  offset : Nat
  /-- Whether `next` has met the ending. -/
  ended : Bool
  deriving DecidableEq, Repr

namespace Scan

/-- The place before the first character. -/
def start (marker : Char) (input : Text) : Scan := ⟨marker, input, 0, false⟩

/-- The place behind the blanks that come next. -/
def skipBlanks (scan : Scan) : Scan :=
  { scan with
    rest := scan.rest.dropWhile isBlank
    offset := scan.offset + (scan.rest.takeWhile isBlank).length }

/-- What comes next at a nonblank place, and the place behind it.  An open
quote uses up the input, but its place is where it begins. -/
def cut (scan : Scan) : Pulled × Scan :=
  match scan.rest with
  | [] => (.ending (.done scan.offset), scan)
  | c :: rest =>
    match lexeme scan.marker c rest with
    | none => (.ending (.openQuote scan.offset), { scan with rest := [] })
    | some found =>
      let stop := scan.offset + found.length
      (.token ⟨found.kind, found.value, scan.offset, stop⟩,
        { scan with rest := found.rest, offset := stop })

/-- What comes next, and the place behind it. -/
def pull (scan : Scan) : Pulled × Scan := scan.skipBlanks.cut

/-- A token takes at least one character. -/
theorem length_rest_lt_of_pull {scan after : Scan} {token : Token}
    (h : scan.pull = (.token token, after)) : after.rest.length < scan.rest.length := by
  have hskip : scan.skipBlanks.rest.length ≤ scan.rest.length :=
    (List.dropWhile_sublist isBlank (l := scan.rest)).length_le
  unfold pull cut at h
  split at h
  · simp at h
  · rename_i c rest hrest
    split at h
    · simp at h
    · rename_i found hfound
      obtain ⟨-, rfl⟩ := Prod.mk.inj h
      have := lexeme_length hfound
      rw [hrest, List.length_cons] at hskip
      show found.rest.length < scan.rest.length
      omega

/-- All tokens from here on, and how they end. -/
def stream (scan : Scan) : Stream :=
  match _h : scan.pull with
  | (.token token, after) =>
    let later := after.stream
    { later with tokens := token :: later.tokens }
  | (.ending ending, _) => ⟨[], ending⟩
termination_by scan.rest.length
decreasing_by exact length_rest_lt_of_pull _h

/-- Pulls once, unless the ending has been met this way before. -/
def next (scan : Scan) : Option Pulled × Scan :=
  if scan.ended then (none, scan)
  else
    match scan.pull with
    | (.token token, after) => (some (.token token), after)
    | (.ending ending, after) => (some (.ending ending), { after with ended := true })

/-- A token that `next` gives takes at least one character. -/
theorem length_rest_lt_of_next {scan after : Scan} {token : Token}
    (h : scan.next = (some (.token token), after)) : after.rest.length < scan.rest.length := by
  unfold next at h
  split at h
  · simp at h
  · split at h
    · rename_i token' after' hpull
      obtain ⟨htoken, rfl⟩ := Prod.mk.inj h
      obtain rfl := Pulled.token.inj (Option.some.inj htoken)
      exact length_rest_lt_of_pull hpull
    · simp at h

/-- All that `next` still gives, and the place behind it. -/
def drain (scan : Scan) : List Pulled × Scan :=
  match _h : scan.next with
  | (none, after) => ([], after)
  | (some (.ending ending), after) => ([.ending ending], after)
  | (some (.token token), after) =>
    let (later, last) := after.drain
    (.token token :: later, last)
termination_by scan.rest.length
decreasing_by exact length_rest_lt_of_next _h

end Scan

/-- All tokens of an input and how they end. -/
def tokens (marker : Char) (input : Text) : Stream := (Scan.start marker input).stream

end TagFilter
