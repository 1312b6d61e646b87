import TagFilter.YamlScalarText
import TagFilter.YamlProperty

/-!
# The tokens of a YAML text

Cuts a YAML text into tokens, one after the other.  Each character or pair of
characters that can begin a token has a function here; `YamlScan.readToken`
tells them apart.
-/

namespace TagFilter

namespace YamlScan

/-! ## Flow collections -/

/-- Reads the bracket that begins a flow collection. -/
def readFlowStart (token : YamlToken) (scan : YamlScan) : Option YamlScan := do
  let inner ← scan.markKey.deepen.enterFlow
  let opened :=
    if token = .flowMappingStart then { inner with inFlowMapping := true }
    else { inner with openPairs := false :: inner.openPairs }
  let (_, after) ← ((opened.allowKey true).skip 1).skipToComment
  some (after.push token)

/-- Reads the bracket that ends a flow collection.  Behind it a value may follow
a colon without a blank. -/
def readFlowEnd (token : YamlToken) (scan : YamlScan) : Option YamlScan := do
  let outer := (← scan.dropKey).leaveFlow.allowKey false
  let closed :=
    if token = .flowSequenceEnd then
      { outer.closePair with openPairs := outer.openPairs.drop 1 }
    else outer
  let (_, after) ← (closed.skip 1).skipToComment
  let after := if after.inFlow then { after with adjacent := after.offset } else after
  some (after.push token)

/-- Reads a comma. -/
def readComma (scan : YamlScan) : Option YamlScan := do
  let between := ((← scan.dropKey).allowKey true).closePair
  let (_, after) ← (between.skip 1).skipToComment
  some (after.push .comma)

/-! ## Block collections -/

/-- Reads the hyphen of an item. -/
def readItem (scan : YamlScan) : Option YamlScan := do
  if scan.inFlow || !scan.allowsKey then none
  let opened := (scan.skip 1).openBlock scan.column scan.tokens.size .sequenceStart
  let (blanks, after) ← opened.skipToComment
  if '\t' ∈ blanks && after.char = '-' && isYamlGap (after.charAt 1) then none
  let after := if isYamlBreak after.char || isFlowIndicator after.char then after.deepen else after
  some (((← after.dropKey).allowKey true).push .item)

/-- Passes spaces, comments and lines behind the question mark of a key, and
tells whether anything was passed but comments. -/
def skipKeyGap (fuel : Nat) (isPassed : Bool) (scan : YamlScan) : Bool × YamlScan :=
  match fuel with
  | 0 => (isPassed, scan)
  | fuel + 1 =>
    if scan.char = ' ' then scan.skipBlank.skipKeyGap fuel true
    else if isYamlBreak scan.char then
      let after := scan.skipBreak
      { after with allowsKey := after.allowsKey || !scan.inFlow }.skipKeyGap fuel true
    else if scan.char = '#' then scan.skipComment.skipKeyGap fuel isPassed
    else (isPassed, scan)

/-- Reads the question mark of a key. -/
def readKey (scan : YamlScan) : Option YamlScan := do
  if !scan.inFlow && !scan.allowsKey then none
  let opened :=
    if scan.inFlow then { scan with inFlowMapping := true }
    else scan.openBlock scan.column scan.tokens.size .mappingStart
  let after := ((← opened.dropKey).allowKey (!scan.inFlow)).skip 1
  let (isPassed, after) := after.skipKeyGap (after.rest.length + 1) false
  if isPassed && after.char ≠ '\t' then some (after.push .key) else none

/-- Reads the blanks behind a colon.  Behind tabs without a space no word and no
item may begin. -/
def skipColon (scan : YamlScan) : Option YamlScan :=
  let after := scan.skip 1
  if after.char = '\t' then
    match after.skipToComment with
    | some (blanks, after) =>
      if ' ' ∉ blanks && isYamlNameChar after.char then none else some after
    | none => none
  else some after

/-- Reads the colon behind the key that began at a candidate.  In a flow sequence
it begins a mapping of its own, which has to begin on the same line. -/
def readValueOf (candidate : KeyCandidate) (beginsPair : Bool) (line : Nat) (scan : YamlScan) :
    Option YamlScan :=
  let keyed := scan.insert candidate.tokens .key
  if beginsPair && candidate.line < line then none
  else
    let paired := if beginsPair then keyed.insert candidate.tokens .flowMappingStart else keyed
    let opened := (paired.openBlock candidate.column candidate.tokens .mappingStart).deepen
    some ({ opened with candidate := none }.allowKey false)

/-- Reads the colon, at a column, of a key that a question mark began, or that
is missing. -/
def readLoneValue (beginsPair : Bool) (column : Nat) (scan : YamlScan) : Option YamlScan :=
  let paired := if beginsPair then scan.push .flowMappingStart else scan
  if !scan.inFlow && !scan.allowsKey then none
  else
    let opened := (paired.openBlock column paired.tokens.size .mappingStart).deepen
    some (opened.allowKey (!scan.inFlow))

/-- Reads the colon before a value. -/
def readValue (scan : YamlScan) : Option YamlScan := do
  let beginsPair := !scan.openPairs.isEmpty && !scan.inFlowMapping
  let after ← scan.skipColon
  let after :=
    if beginsPair then { after with openPairs := true :: after.openPairs.drop 1 } else after
  let after ← match scan.candidate with
    | some candidate => after.readValueOf candidate beginsPair scan.line
    | none => after.readLoneValue beginsPair scan.column
  some (after.push .value)

/-! ## Scalars, and what stands before nodes -/

/-- Reads a scalar in quotes.  Behind it a value may follow a colon without a blank. -/
def readQuoted (scan : YamlScan) : Option YamlScan := do
  let (text, after) ← (scan.markKey.allowKey false).readQuotedScalar
  let after ← after.skipToNext
  some ({ after with adjacent := after.offset }.push (.scalar false text))

/-- Reads a scalar without quotes. -/
def readPlain (scan : YamlScan) : Option YamlScan := do
  let (text, after) ← (scan.markKey.allowKey false).readPlainScalar
  some (after.push (.scalar true text))

/-- Reads a block scalar. -/
def readBlock (scan : YamlScan) : Option YamlScan := do
  let (text, after) ← (scan.markKey.allowKey true).readBlockScalar
  some (after.push (.scalar false text))

/-- Reads an anchor, or an alias, at its indicator. -/
def readName (token : Text → YamlToken) (scan : YamlScan) : Option YamlScan := do
  let (name, after) ← (scan.markKey.allowKey false).readAnchor
  some (after.push (token name))

/-- Reads the tag before a node. -/
def readNodeTag (scan : YamlScan) : Option YamlScan := do
  let (handle, suffix, after) ← (scan.markKey.allowKey false).readTag
  some (after.push (.tag handle suffix))

/-! ## Documents -/

/-- Ends all block collections and allows no key. -/
def leaveBlocks (scan : YamlScan) : Option YamlScan := do
  some ((← (scan.closeBlocks (-1)).dropKey).allowKey false)

/-- Reads a mark between documents.  Nothing else stands on the line of one that
ends a document. -/
def readMark (scan : YamlScan) : Option YamlScan := do
  let after := (← scan.leaveBlocks).skip 3
  if scan.char = '-' then some (after.push .documentStart)
  else
    let (_, after) ← after.skipToComment
    if isYamlLineEnd after.char then some (after.push .documentEnd) else none

/-- Reads a directive. -/
def readDirectiveLine (scan : YamlScan) : Option YamlScan := do
  let (token, after) ← (← scan.leaveBlocks).readDirective
  some (after.push token)

/-- Reads the token at a place where one begins. -/
def readToken (scan : YamlScan) : Option YamlScan :=
  let c := scan.char
  let next := scan.charAt 1
  if scan.column = 0 && c = '%' then scan.readDirectiveLine
  else if scan.atDocumentMark then scan.readMark
  else if scan.isLeftOf scan.indent then none
  else if c = '[' then scan.readFlowStart .flowSequenceStart
  else if c = '\x7b' then scan.readFlowStart .flowMappingStart
  else if c = ']' then scan.readFlowEnd .flowSequenceEnd
  else if c = '\x7d' then scan.readFlowEnd .flowMappingEnd
  else if c = ',' then scan.readComma
  else if c = '-' && isYamlGap next then scan.readItem
  else if c = '?' && isYamlGap next then scan.readKey
  else if c = ':' && (isYamlGap next ||
      (scan.inFlow && (isFlowIndicator next || scan.offset = scan.adjacent))) then scan.readValue
  else if c = '*' then scan.readName .alias
  else if c = '&' then scan.readName .anchor
  else if c = '!' then scan.readNodeTag
  else if (c = '|' || c = '>') && !scan.inFlow then scan.readBlock
  else if c = '\x27' || c = '"' then scan.readQuoted
  else if c = '%' || c = '@' || c = '\x60' then none
  else scan.readPlain

/-- Reads all tokens that are left; every token takes a character, so `fuel`
bounds their number. -/
def readTokens (fuel : Nat) (scan : YamlScan) : Option (List YamlToken) :=
  match fuel with
  | 0 => none
  | fuel + 1 => do
    let place := (← (← scan.skipToNext).dropStaleKey)
    let place := place.closeBlocks place.column
    if place.rest = [] then some (← place.leaveBlocks).tokens.toList
    else (← place.readToken).readTokens fuel

end YamlScan

/-- The tokens of a YAML text.  A zero ends the text. -/
def yamlTokens (text : Text) : Option (List YamlToken) :=
  let read := text.takeWhile (· ≠ '\x00')
  (YamlScan.start read).readTokens (read.length + 2)

end TagFilter
