import TagFilter.Quoted

/-!
# Tokens

The pieces a filter is written in.  A parenthesis stands by itself.  A quote
begins a quoted text, which is always a name.  Everything else is a word: it
runs to the next blank or parenthesis, and is a keyword, a lone marker, or a
name.
-/

namespace TagFilter

/-- What a token is to the grammar. -/
inductive Kind where
  /-- A name, bare or quoted. -/
  | text
  | and
  | or
  | not
  | opening
  | closing
  /-- A bare word that is the marker and nothing else. -/
  | wildcard
  deriving DecidableEq, Repr

/-- A token and the stretch of input it was read from. -/
structure Token where
  /-- What it is to the grammar. -/
  kind : Kind
  /-- Its text, without the quotes and escapes of a quoted name. -/
  value : Text
  /-- How many characters stand before it. -/
  start : Nat
  /-- How many characters stand before what follows it. -/
  stop : Nat
  deriving DecidableEq, Repr

/-- The connective a word is in any mixture of ASCII capitals and small letters. -/
def keyword? (word : Text) : Option Kind :=
  match word.map Char.toLower with
  | ['a', 'n', 'd'] => some .and
  | ['o', 'r'] => some .or
  | ['n', 'o', 't'] => some .not
  | _ => none

/-- What a bare word is to the grammar. -/
def classify (marker : Char) (word : Text) : Kind :=
  match keyword? word with
  | some kind => kind
  | none => if word = [marker] then .wildcard else .text

/-- Whether a word goes on with the character. -/
def isWordChar (c : Char) : Bool := !isBlank c && c ≠ '(' && c ≠ ')'

/-- Whether the character means something to the scanner wherever it stands: it
separates words, begins a group or a quoted text, or escapes. -/
def isReserved (c : Char) : Bool := isBlank c || c = '(' || c = ')' || isQuote c || c = '\\'

/-- What a text begins with, and the rest of the text. -/
structure Lexeme where
  /-- What it is to the grammar. -/
  kind : Kind
  /-- Its text, without quotes and escapes. -/
  value : Text
  length : Nat
  rest : Text

/-- The lexeme at the start of a text that begins with the nonblank `c`.  There
is none if `c` is a quote that nothing closes. -/
def lexeme (marker c : Char) (rest : Text) : Option Lexeme :=
  if c = '(' then some ⟨.opening, [c], 1, rest⟩
  else if c = ')' then some ⟨.closing, [c], 1, rest⟩
  else if isQuote c then
    (readQuoted c rest).map fun (value, after) =>
      ⟨.text, value, rest.length + 1 - after.length, after⟩
  else
    let word := c :: rest.takeWhile isWordChar
    some ⟨classify marker word, word, word.length, rest.dropWhile isWordChar⟩

/-- A lexeme takes at least one character, and the rest is what it leaves. -/
theorem lexeme_length {marker c : Char} {rest : Text} {found : Lexeme}
    (h : lexeme marker c rest = some found) :
    0 < found.length ∧ found.length + found.rest.length = rest.length + 1 := by
  unfold lexeme at h
  split at h
  · obtain rfl := Option.some.inj h
    exact ⟨Nat.one_pos, Nat.add_comm ..⟩
  · split at h
    · obtain rfl := Option.some.inj h
      exact ⟨Nat.one_pos, Nat.add_comm ..⟩
    · split at h
      · obtain ⟨⟨value, after⟩, hread, rfl⟩ := Option.map_eq_some_iff.mp h
        have := length_lt_of_readQuoted hread
        exact ⟨by dsimp only; omega, by dsimp only; omega⟩
      · obtain rfl := Option.some.inj h
        have hsplit : rest.takeWhile isWordChar ++ rest.dropWhile isWordChar = rest :=
          List.takeWhile_append_dropWhile
        replace hsplit := congrArg List.length hsplit
        rw [List.length_append] at hsplit
        refine ⟨Nat.succ_pos _, ?_⟩
        simp only [List.length_cons]
        omega

end TagFilter
