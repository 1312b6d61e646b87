import TagFilter.Document
import TagFilter.YamlScan

/-!
# The texts of YAML scalars

Scalars in quotes, plain scalars and block scalars, each over any number of
lines.  In quoted and plain scalars the lines are folded: a line end counts as a
space, and a line end with empty lines behind it as one line end for each of
them.

A text has no zeros in it: `YamlScan.char` gives one at the end only.
-/

namespace TagFilter

/-- What a line end and `empty` empty lines behind it count as. -/
def foldedBreak (empty : Nat) : Text :=
  if empty = 0 then [' '] else List.replicate empty '\n'

namespace YamlScan

/-! ## Quoted scalars -/

/-- The character that a letter behind a backslash stands for. -/
def escaped? : Char → Option Char
  | '0' => some '\x00'
  | 'a' => some '\x07'
  | 'b' => some '\x08'
  | 't' | '\t' => some '\t'
  | 'n' => some '\n'
  | 'v' => some '\x0b'
  | 'f' => some '\x0c'
  | 'r' => some '\r'
  | 'e' => some '\x1b'
  | ' ' => some ' '
  | '"' => some '"'
  | '/' => some '/'
  | '\\' => some '\\'
  | 'N' => some '\u0085'
  | '_' => some '\u00a0'
  | 'L' => some '\u2028'
  | 'P' => some '\u2029'
  | _ => none

/-- How many hexadecimal digits follow a letter behind a backslash. -/
def escapeWidth? : Char → Option Nat
  | 'x' => some 2
  | 'u' => some 4
  | 'U' => some 8
  | _ => none

/-- Reads an escape at its backslash. -/
def readEscape (scan : YamlScan) : Option (Char × YamlScan) :=
  match escapeWidth? (scan.charAt 1) with
  | none => (escaped? (scan.charAt 1)).map fun c => (c, scan.skip 2)
  | some width =>
    let digits := (scan.rest.drop 2).take width
    if digits.length = width then
      ((numberOfDigits? 16 digits).bind characterAt?).map fun c => (c, scan.skip (2 + width))
    else none

/-- Reads the characters of a quoted scalar up to a blank, a line end or the
closing quote, and tells whether an escaped line end was passed at their end. -/
def readQuotedWord (fuel : Nat) (quote : Char) (scan : YamlScan) :
    Option (Text × Bool × YamlScan) :=
  match fuel with
  | 0 => none
  | fuel + 1 =>
    let c := scan.char
    let more (c : Char) (after : YamlScan) : Option (Text × Bool × YamlScan) :=
      (after.readQuotedWord fuel quote).map fun (text, escapedBreak, after) =>
        (c :: text, escapedBreak, after)
    if isYamlGap c then some ([], false, scan)
    else if c = quote then
      if c = '\x27' && scan.charAt 1 = '\x27' then more c (scan.skip 2) else some ([], false, scan)
    else if c = '\\' && quote = '"' then
      if isYamlBreak (scan.charAt 1) then some ([], true, (scan.skip 1).skipBreak)
      else
        match scan.readEscape with
        | some (c, after) => more c after
        | none => none
    else more c (scan.skip 1)

/-- Passes the blanks and line ends inside a quoted scalar and gives what they
count as: `blanks` were passed before, backwards, or else `empty` empty lines if
`isFolding`; behind an escaped line end the first line end is `isJoined` away. -/
def readQuotedGap (fuel : Nat) (isFolding isJoined : Bool) (blanks : Text) (empty : Nat)
    (scan : YamlScan) : Option (Text × YamlScan) :=
  match fuel with
  | 0 => none
  | fuel + 1 =>
    let c := scan.char
    if isYamlBlank c then
      if isFolding then
        if c = '\t' && scan.isLeftOf scan.indent then none
        else scan.skipBlank.readQuotedGap fuel true isJoined blanks empty
      else scan.skipBlank.readQuotedGap fuel false isJoined (c :: blanks) empty
    else if isYamlBreak c then
      if isFolding then scan.skipBreak.readQuotedGap fuel true isJoined blanks (empty + 1)
      else scan.skipBreak.readQuotedGap fuel true isJoined [] empty
    else
      let text :=
        if !isFolding then blanks.reverse
        else if isJoined then List.replicate empty '\n'
        else foldedBreak empty
      some (text, scan)

/-- Reads a quoted scalar behind its opening quote, and its closing quote. -/
def readQuotedRest (fuel : Nat) (quote : Char) (scan : YamlScan) : Option (Text × YamlScan) :=
  match fuel with
  | 0 => none
  | fuel + 1 =>
    if scan.atDocumentMark || scan.rest = [] || scan.isLeftOf scan.indent then none
    else
      match scan.readQuotedWord (scan.rest.length + 1) quote with
      | none => none
      | some (word, isJoined, after) =>
        if after.char = quote then some (word, after.skip 1)
        else
          match after.readQuotedGap (after.rest.length + 1) isJoined isJoined [] 0 with
          | none => none
          | some (gap, after) =>
            (after.readQuotedRest fuel quote).map fun (text, after) => (word ++ gap ++ text, after)

/-- Whether the place behind a quoted scalar that began on `line` is one where it
may end: at the end of its line, before the colon behind a key, or where a flow
collection goes on. -/
def endsQuoted (line : Nat) (scan : YamlScan) : Bool :=
  let c := scan.char
  isYamlLineEnd c || (c = ':' && (scan.inFlow || line = scan.line)) ||
    (scan.inFlow && (c = ',' || c = ']' || c = '\x7d'))

/-- Reads a quoted scalar at its opening quote. -/
def readQuotedScalar (scan : YamlScan) : Option (Text × YamlScan) := do
  let (text, after) ← (scan.skip 1).readQuotedRest (scan.rest.length + 1) scan.char
  let (_, after) ← after.skipToComment
  if after.endsQuoted scan.line then some (text, after) else none

/-! ## Plain scalars -/

/-- Whether a plain scalar goes on with the character `c`, before `next`. -/
def continuesPlain (inFlow : Bool) (c next : Char) : Bool :=
  if c = ':' then !(isYamlGap next || (inFlow && isFlowIndicator next))
  else !(inFlow && isFlowIndicator c)

/-- The part of a plain scalar up to a gap. -/
def plainWord (inFlow : Bool) : Text → Text
  | [] => []
  | c :: rest =>
    if isYamlGap c || !continuesPlain inFlow c (rest.headD '\x00') then []
    else c :: plainWord inFlow rest

/-- Passes the blanks and line ends inside a plain scalar and gives the blanks,
backwards, if there was no line end before, and else the number of empty lines
if there was one.  Left of `least` a tab may stand on an empty line only. -/
def readPlainGap (fuel : Nat) (least : Int) (blanks : Text) (empty : Option Nat)
    (scan : YamlScan) : Option (Text × Option Nat × YamlScan) :=
  match fuel with
  | 0 => none
  | fuel + 1 =>
    let c := scan.char
    if isYamlBlank c then
      if !scan.isLeading then scan.skipBlank.readPlainGap fuel least (c :: blanks) empty
      else if c = '\t' && scan.isLeftOf least then
        match scan.skipToComment with
        | some (_, after) =>
          if isYamlLineEnd after.char then after.readPlainGap fuel least blanks empty else none
        | none => none
      else scan.skipBlank.readPlainGap fuel least blanks empty
    else if isYamlBreak c then
      if scan.isLeading then
        scan.skipBreak.readPlainGap fuel least blanks (some ((empty.map (· + 1)).getD 0))
      else scan.skipBreak.readPlainGap fuel least [] (some (empty.getD 0))
    else some (blanks, empty, scan)

/-- Reads the part of a plain scalar that is left, behind a gap. -/
def readPlainRest (fuel : Nat) (least : Int) (blanks : Text) (empty : Option Nat)
    (scan : YamlScan) : Option (Text × YamlScan) :=
  match fuel with
  | 0 => none
  | fuel + 1 =>
    if scan.atDocumentMark || scan.char = '#' then some ([], scan)
    else if scan.inFlow && scan.char = '-' && isFlowIndicator (scan.charAt 1) then none
    else
      let word := plainWord scan.inFlow scan.rest
      let part := if word = [] then [] else ((empty.map foldedBreak).getD blanks.reverse) ++ word
      let after := if word = [] then scan else scan.skip word.length
      if !(isYamlBlank after.char || isYamlBreak after.char) then some (part, after)
      else
        match after.readPlainGap (after.rest.length + 1) least [] none with
        | none => none
        | some (blanks, empty, after) =>
          if !after.inFlow && after.isLeftOf least then some (part, after)
          else
            (after.readPlainRest fuel least blanks empty).map fun (text, after) =>
              (part ++ text, after)

/-- Reads a plain scalar.  Its lines stand deeper than the block around it, and
a key may begin behind a line end that it was followed by. -/
def readPlainScalar (scan : YamlScan) : Option (Text × YamlScan) :=
  let scan := scan.undeepen
  let least := scan.indent + 1
  if scan.inFlow && scan.isLeftOf least then none
  else
    (scan.readPlainRest (scan.rest.length + 1) least [] none).map fun (text, after) =>
      (text, if after.isLeading then after.allowKey true else after)

/-! ## Block scalars -/

/-- What becomes of the line ends at the end of a block scalar. -/
inductive Chomping where
  /-- One is kept. -/
  | clip
  /-- None is kept. -/
  | strip
  /-- All are kept. -/
  | keep
  deriving DecidableEq, Repr

/-- What a sign in the header of a block scalar asks for. -/
def chomping? : Char → Option Chomping
  | '+' => some .keep
  | '-' => some .strip
  | _ => none

/-- Reads the digit in the header of a block scalar, if there is one. -/
def readIncrement (scan : YamlScan) : Option (Nat × YamlScan) :=
  match digitValue? 10 scan.char with
  | none => some (0, scan)
  | some 0 => none
  | some digit => some (digit, scan.skip 1)

/-- Reads the sign in the header of a block scalar, if there is one. -/
def readChomping (scan : YamlScan) : Option Chomping × YamlScan :=
  match chomping? scan.char with
  | none => (none, scan)
  | some chomping => (some chomping, scan.skip 1)

/-- Reads the header of a block scalar behind its indicator: a sign and a digit
in any order, each of which may be missing. -/
def readBlockHeader (scan : YamlScan) : Option (Chomping × Nat × YamlScan) :=
  match scan.readChomping with
  | (some chomping, after) =>
    after.readIncrement.map fun (increment, after) => (chomping, increment, after)
  | (none, after) =>
    after.readIncrement.map fun (increment, after) =>
      if increment = 0 then (.clip, 0, after)
      else
        let (chomping, after) := after.readChomping
        (chomping.getD .clip, increment, after)

/-- Passes empty lines and the indentation behind them, up to `column` if there
is one; gives the number of lines and the deepest column that was reached. -/
def skipIndentation (fuel : Nat) (column : Option Nat) (lines deepest : Nat) (scan : YamlScan) :
    Nat × Nat × YamlScan :=
  match fuel with
  | 0 => (lines, deepest, scan)
  | fuel + 1 =>
    let spaces := (scan.rest.takeWhile (· = ' ')).length
    let width := match column with
      | some column => min spaces (column - scan.column)
      | none => spaces
    let after := { scan with
      rest := scan.rest.drop width
      offset := scan.offset + width
      column := scan.column + width }
    let deepest := max deepest after.column
    if isYamlBreak after.char then
      after.skipBreak.skipIndentation fuel column (lines + 1) deepest
    else (lines, deepest, after)

/-- The line ends between two lines of a block scalar: `breaks` with `empty`
empty lines behind them.  In a folded scalar they are folded where neither line
`isIndented` more than the others. -/
def blockBreak (isFolded isIndented : Bool) (breaks : Text) (empty : Nat) : Text :=
  if isFolded && breaks ≠ [] && !isIndented then foldedBreak empty
  else breaks ++ List.replicate empty '\n'

/-- What has been read of a block scalar. -/
structure BlockText where
  /-- The lines, without the last line end. -/
  text : Text
  /-- The line end behind them, if there is one. -/
  breaks : Text
  /-- The number of empty lines behind it. -/
  empty : Nat

/-- Reads the lines of a block scalar that stand at a column. -/
def readBlockLines (fuel : Nat) (isFolded : Bool) (column : Nat) (wasIndented : Bool)
    (block : BlockText) (scan : YamlScan) : BlockText × YamlScan :=
  match fuel with
  | 0 => (block, scan)
  | fuel + 1 =>
    let isOver := scan.column ≠ column || scan.rest = [] || (column = 0 && scan.atDocumentMark)
    if isOver then (block, scan)
    else
      let isIndented := isYamlBlank scan.char
      let gap := blockBreak isFolded (wasIndented || isIndented) block.breaks block.empty
      let (line, after) := scan.skipWhile (!isYamlLineEnd ·)
      let text := block.text ++ gap ++ line
      if after.rest = [] then (⟨text, [], 0⟩, after)
      else
        let after := after.skipBreak
        let (empty, _, after) := after.skipIndentation (after.rest.length + 1) (some column) 0 0
        after.readBlockLines fuel isFolded column isIndented ⟨text, ['\n'], empty⟩

/-- The text of a block scalar whose lines are at a column, and of which nothing
but line ends is left. -/
def BlockText.chomped (block : BlockText) (chomping : Chomping) (column : Nat)
    (scan : YamlScan) : Text :=
  let last := if scan.rest = [] && max column 1 ≤ scan.column then ['\n'] else []
  match chomping with
  | .strip => block.text
  | .clip => block.text ++ block.breaks ++ last
  | .keep => block.text ++ block.breaks ++ last ++ List.replicate block.empty '\n'

/-- Reads a block scalar at its indicator. -/
def readBlockScalar (scan : YamlScan) : Option (Text × YamlScan) := do
  let isFolded := scan.char = '>'
  let (chomping, increment, header) ← (scan.skip 1).undeepen.readBlockHeader
  let (_, header) ← header.skipToComment
  if !isYamlLineEnd header.char then none
  let hasBreak := isYamlBreak header.char
  let body := if hasBreak then header.skipBreak else header
  if body.char = '\t' then none
  let known :=
    if increment = 0 then none
    else some (if 0 ≤ body.indent then body.indent.toNat + increment else increment)
  let (empty, deepest, first) := body.skipIndentation (body.rest.length + 1) known 0 0
  let column := known.getD (max deepest (body.indent + 1).toNat)
  if first.rest = [] then
    let text : Text := match chomping with
      | .strip => []
      | .clip => if hasBreak then ['\n'] else []
      | .keep => if !hasBreak then [] else if empty = 0 then ['\n'] else List.replicate empty '\n'
    some (text, first)
  else if first.column < column && body.indent < first.column then none
  else
    let (block, after) :=
      first.readBlockLines (first.rest.length + 1) isFolded column false ⟨[], [], empty⟩
    some (block.chomped chomping column after, after)

end YamlScan

end TagFilter
