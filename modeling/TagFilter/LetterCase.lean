import TagFilter.LetterCaseTable

/-!
# Lowercase

The lowercase of a text, for comparing tags without regard to case.  Each
capital has its small letter, with two exceptions.  A dotted capital I becomes
two characters.  A capital sigma becomes the final form at the end of a word:
a letter stands before it and none after it, and what `isCaseIgnorable` holds
of is looked through on both sides.
-/

namespace TagFilter

/-- Whether the character is a letter that has case. -/
def isCased (c : Char) : Bool := casedRanges.has c

/-- Whether the rule for a final sigma looks through the character. -/
def isCaseIgnorable (c : Char) : Bool := caseIgnorableRanges.has c

/-- Whether the run has the code point among its capitals. -/
def CaseRun.covers (run : CaseRun) (n : Nat) : Bool :=
  run.first ≤ n && n ≤ run.last && (n - run.first) % run.stride = 0

/-- The small letter of a character; a character without one is its own. -/
def smallLetter (c : Char) : Char :=
  match caseRuns.find? (·.covers c.toNat) with
  | some run => Char.ofNat (run.small + (c.toNat - run.first))
  | none => c

/-- Whether the first character that is not looked through is a cased letter. -/
def meetsCased (text : Text) : Bool :=
  match text.dropWhile isCaseIgnorable with
  | c :: _ => isCased c
  | [] => false

/-- The lowercase of one character between `before`, nearest first, and `after`. -/
def lowercaseAt (before after : Text) (c : Char) : Text :=
  if c = 'Σ' then
    if meetsCased before && !meetsCased after then ['ς'] else ['σ']
  else if c = 'İ' then ['i', '\u0307']
  else [smallLetter c]

/-- The lowercase of a text that stands after `before`, nearest character first. -/
def lowercaseAfter (before : Text) : Text → Text
  | [] => []
  | c :: rest => lowercaseAt before rest c ++ lowercaseAfter (c :: before) rest

/-- The lowercase of a whole text. -/
def lowercase (text : Text) : Text := lowercaseAfter [] text

/-- The lowercase of one character is never empty. -/
theorem lowercaseAt_ne_nil (before after : Text) (c : Char) : lowercaseAt before after c ≠ [] := by
  unfold lowercaseAt
  split
  · split <;> simp
  · split <;> simp

/-- Only the empty text has an empty lowercase. -/
theorem lowercase_eq_nil_iff {text : Text} : lowercase text = [] ↔ text = [] := by
  cases text with
  | nil => simp [lowercase, lowercaseAfter]
  | cons c rest => simp [lowercase, lowercaseAfter, lowercaseAt_ne_nil]

end TagFilter
