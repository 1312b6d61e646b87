import TagFilter.YamlToken

/-!
# A place in a YAML text

What has to be known in the middle of a YAML text to cut off the next token:
where the place is, what it is nested in, and whether a key may begin here.

A key shows only at the colon behind it, so the place where one may have begun
is kept as a `KeyCandidate`, one for each flow collection around.  A candidate
is given up at the end of its line or after 1024 characters; where nothing but
a key may stand, that is a failure.

Indentation is told in columns, and `-1` is the indentation outside all blocks.
The value of a block mapping must stand one column deeper than its key, and an
`Indentation` that begins no block stands for that one column.

A function that can fail gives an option.
-/

namespace TagFilter

/-- A place where a key may have begun. -/
structure KeyCandidate where
  /-- Whether nothing but a key may begin here. -/
  isRequired : Bool
  /-- How many tokens stand before it. -/
  tokens : Nat
  offset : Nat
  line : Nat
  column : Nat
  deriving DecidableEq, Repr

/-- A level of indentation inside another. -/
structure Indentation where
  /-- The column of the level around it. -/
  outer : Int
  /-- Whether a block collection began with it. -/
  isBlock : Bool
  deriving DecidableEq, Repr

/-- A place in a YAML text. -/
structure YamlScan where
  rest : Text
  offset : Nat
  line : Nat
  /-- How many characters of the line were read. -/
  column : Nat
  /-- Whether only blanks were read of the line. -/
  isLeading : Bool
  tokens : Array YamlToken
  /-- Whether a key may begin here. -/
  allowsKey : Bool
  /-- Where a key may have begun. -/
  candidate : Option KeyCandidate
  /-- The same outside each flow collection around, innermost first. -/
  outerCandidates : List (Option KeyCandidate)
  /-- The column of the innermost level of indentation. -/
  indent : Int
  /-- The levels of indentation, innermost first. -/
  indents : List Indentation
  /-- Where a value may follow a colon without a blank: behind a key in quotes
  or brackets. -/
  adjacent : Nat
  /-- Whether a key belongs to a flow mapping that has a start of its own. -/
  inFlowMapping : Bool
  /-- For each flow sequence around, whether a mapping without braces is open in it. -/
  openPairs : List Bool

namespace YamlScan

/-- The place before the first character. -/
def start (text : Text) : YamlScan where
  rest := text
  offset := 0
  line := 0
  column := 0
  isLeading := true
  tokens := #[]
  allowsKey := true
  candidate := none
  outerCandidates := []
  indent := -1
  indents := []
  adjacent := 0
  inFlowMapping := false
  openPairs := []

/-! ## Characters -/

/-- The character that comes `n` characters on; behind the end stand zeros. -/
def charAt (scan : YamlScan) (n : Nat) : Char := scan.rest.getD n '\x00'

/-- The character that comes next. -/
def char (scan : YamlScan) : Char := scan.charAt 0

/-- Whether the place is inside a flow collection. -/
def inFlow (scan : YamlScan) : Bool := !scan.outerCandidates.isEmpty

/-- Whether the place is left of a column. -/
def isLeftOf (scan : YamlScan) (column : Int) : Bool := scan.column < column

/-- The place behind `n` more characters of the line. -/
def skip (scan : YamlScan) (n : Nat) : YamlScan :=
  { scan with
    rest := scan.rest.drop n
    offset := scan.offset + n
    column := scan.column + n
    isLeading := false }

/-- The place behind one more blank. -/
def skipBlank (scan : YamlScan) : YamlScan := { scan.skip 1 with isLeading := scan.isLeading }

/-- The place behind the longest run of characters of a class. -/
def skipWhile (scan : YamlScan) (isMember : Char → Bool) : Text × YamlScan :=
  let run := scan.rest.takeWhile isMember
  (run, if run = [] then scan else scan.skip run.length)

/-- The place behind a line end; a carriage return and a line feed are one. -/
def skipBreak (scan : YamlScan) : YamlScan :=
  let length := if scan.char = '\r' && scan.charAt 1 = '\n' then 2 else 1
  { scan with
    rest := scan.rest.drop length
    offset := scan.offset + length
    line := scan.line + 1
    column := 0
    isLeading := true }

/-- The place behind a comment, at the end of its line. -/
def skipComment (scan : YamlScan) : YamlScan := (scan.skipWhile (!isYamlLineEnd ·)).2

/-- The place behind the blanks that come next and the comment behind them,
with those blanks.  A comment without a blank before it is refused. -/
def skipToComment (scan : YamlScan) : Option (Text × YamlScan) :=
  let blanks := scan.rest.takeWhile isYamlBlank
  let after := { scan with
    rest := scan.rest.drop blanks.length
    offset := scan.offset + blanks.length
    column := scan.column + blanks.length }
  if after.char = '#' then
    if blanks = [] then none else some (blanks, after.skipComment)
  else some (blanks, after)

/-- Whether a mark between documents stands at the beginning of this line. -/
def atDocumentMark (scan : YamlScan) : Bool :=
  scan.column = 0 && (scan.rest.take 3 = ['-', '-', '-'] || scan.rest.take 3 = ['.', '.', '.']) &&
    isYamlGap (scan.charAt 3)

/-- The place of the next token, or of the end; `fuel` bounds the characters
before it.  A new line allows a key.  A tab does not indent: where a block has
to be indented, it may stand only on a line without a token. -/
def skipToToken (fuel : Nat) (scan : YamlScan) : Option YamlScan :=
  match fuel with
  | 0 => some scan
  | fuel + 1 =>
    match scan.rest with
    | [] => some scan
    | c :: _ =>
      if c = '\t' && !scan.indents.isEmpty && scan.isLeading && scan.isLeftOf scan.indent then
        match scan.skipToComment with
        | some (_, after) => if isYamlLineEnd after.char then after.skipToToken fuel else none
        | none => none
      else if isYamlBlank c then scan.skipBlank.skipToToken fuel
      else if isYamlBreak c then
        let after := scan.skipBreak
        { after with allowsKey := after.allowsKey || !scan.inFlow }.skipToToken fuel
      else if c = '#' then scan.skipComment.skipToToken fuel
      else some scan

/-- The place of the next token, or of the end. -/
def skipToNext (scan : YamlScan) : Option YamlScan := scan.skipToToken (scan.rest.length + 1)

/-! ## Tokens and keys -/

/-- Adds a token. -/
def push (scan : YamlScan) (token : YamlToken) : YamlScan :=
  { scan with tokens := scan.tokens.push token }

/-- Adds a token behind the first `n`. -/
def insert (scan : YamlScan) (n : Nat) (token : YamlToken) : YamlScan :=
  { scan with tokens := scan.tokens.insertIdxIfInBounds n token }

/-- Allows a key to begin from here on, or not. -/
def allowKey (scan : YamlScan) (allowsKey : Bool) : YamlScan := { scan with allowsKey := allowsKey }

/-- Takes this place for a candidate, if a key may begin here. -/
def markKey (scan : YamlScan) : YamlScan :=
  if scan.allowsKey then
    let isRequired := !scan.inFlow && scan.indent = scan.column &&
      match scan.indents with
      | level :: _ => level.isBlock
      | [] => false
    { scan with
      candidate := some ⟨isRequired, scan.tokens.size, scan.offset, scan.line, scan.column⟩ }
  else scan

/-- Gives up the candidate, unless it is required. -/
def dropKey (scan : YamlScan) : Option YamlScan :=
  match scan.candidate with
  | some candidate => if candidate.isRequired then none else some { scan with candidate := none }
  | none => some scan

/-- Gives up the candidate if it is too far away. -/
def dropStaleKey (scan : YamlScan) : Option YamlScan :=
  match scan.candidate with
  | some candidate =>
    if !scan.inFlow && (candidate.line < scan.line || candidate.offset + 1024 < scan.offset) then
      scan.dropKey
    else some scan
  | none => some scan

/-- How deep flow collections may nest. -/
def flowDepth : Nat := 255

/-- Goes into a flow collection. -/
def enterFlow (scan : YamlScan) : Option YamlScan :=
  if scan.outerCandidates.length < flowDepth then
    some { scan with
      candidate := none
      outerCandidates := scan.candidate :: scan.outerCandidates }
  else none

/-- Goes out of a flow collection, if the place is inside one. -/
def leaveFlow (scan : YamlScan) : YamlScan :=
  match scan.outerCandidates with
  | [] => scan
  | candidate :: outer => { scan with candidate := candidate, outerCandidates := outer }

/-- Ends the mapping without braces that is open in the innermost flow sequence. -/
def closePair (scan : YamlScan) : YamlScan :=
  match scan.openPairs with
  | true :: outer =>
    { scan.push .flowMappingEnd with inFlowMapping := false, openPairs := false :: outer }
  | _ => scan

/-! ## Indentation -/

/-- Asks for one more column of indentation, in the value of a block mapping or
an item of a block sequence. -/
def deepen (scan : YamlScan) : YamlScan :=
  match scan.indents with
  | level :: _ =>
    if level.isBlock && !scan.inFlow then
      { scan with indent := scan.indent + 1, indents := ⟨scan.indent, false⟩ :: scan.indents }
    else scan
  | [] => scan

/-- Gives up the levels that began no block. -/
def undeepen (scan : YamlScan) : YamlScan :=
  match scan.indents with
  | level :: outer =>
    if level.isBlock then scan else { scan with indent := level.outer, indents := outer }
  | [] => scan

/-- Begins a block collection at a column, behind the first `n` tokens, unless
one is open there. -/
def openBlock (scan : YamlScan) (column n : Nat) (token : YamlToken) : YamlScan :=
  if scan.inFlow then scan
  else
    let scan := if scan.indent ≤ column then scan.undeepen else scan
    if scan.indent < column then
      { scan.insert n token with
        indent := column
        indents := ⟨scan.indent, true⟩ :: scan.indents }
    else scan

/-- The levels that are left at a column, with the tokens for the ends of blocks. -/
def levelsAt (column : Int) : Int → List Indentation → Array YamlToken →
    Int × List Indentation × Array YamlToken
  | indent, [], tokens => (indent, [], tokens)
  | indent, level :: levels, tokens =>
    if column < indent then
      levelsAt column level.outer levels (if level.isBlock then tokens.push .blockEnd else tokens)
    else (indent, level :: levels, tokens)

/-- Ends the block collections that are deeper than a column. -/
def closeBlocks (scan : YamlScan) (column : Int) : YamlScan :=
  if scan.inFlow then scan
  else
    let (indent, indents, tokens) := levelsAt column scan.indent scan.indents scan.tokens
    { scan with indent := indent, indents := indents, tokens := tokens }

end YamlScan

end TagFilter
