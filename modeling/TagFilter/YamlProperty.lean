import TagFilter.Document
import TagFilter.YamlScan

/-!
# The properties of YAML nodes

What may stand before a node, or before a whole document.  A tag is a handle and
a suffix; a directive says what a handle is short for.
-/

namespace TagFilter

namespace YamlScan

/-! ## Addresses -/

/-- How many bytes the character has that begins with a byte. -/
def escapedBytes? (byte : Nat) : Option Nat :=
  if byte < 0x80 then some 1
  else if byte < 0xC0 then none
  else if byte < 0xE0 then some 2
  else if byte < 0xF0 then some 3
  else if byte < 0xF8 then some 4
  else none

/-- Reads one byte, written as a percent sign and two digits. -/
def readEscapedByte (scan : YamlScan) : Option (Nat × YamlScan) :=
  if scan.char = '%' then
    (numberOfDigits? 16 [scan.charAt 1, scan.charAt 2]).map fun byte => (byte, scan.skip 3)
  else none

/-- Reads `n` more bytes of an escaped character.  The bytes are taken together
as they are, so only characters of one or two bytes can be escaped. -/
def readEscapedBytes : Nat → Nat → YamlScan → Option (Char × YamlScan)
  | 0, code, scan => (characterAt? code).map fun c => (c, scan)
  | n + 1, code, scan =>
    match scan.readEscapedByte with
    | some (byte, after) =>
      if 0x80 ≤ byte && byte < 0xC0 then readEscapedBytes n (code * 256 + byte) after else none
    | none => none

/-- Reads an escaped character at its percent sign. -/
def readEscapedChar (scan : YamlScan) : Option (Char × YamlScan) := do
  let (byte, after) ← scan.readEscapedByte
  let length ← escapedBytes? byte
  readEscapedBytes (length - 1) byte after

/-- Reads characters of an address. -/
def readAddress (fuel : Nat) (isMember : Char → Bool) (scan : YamlScan) :
    Option (Text × YamlScan) :=
  match fuel with
  | 0 => none
  | fuel + 1 =>
    let more (c : Char) (after : YamlScan) : Option (Text × YamlScan) :=
      (after.readAddress fuel isMember).map fun (text, after) => (c :: text, after)
    if !isMember scan.char then some ([], scan)
    else if scan.char = '%' then
      match scan.readEscapedChar with
      | some (c, after) => more c after
      | none => none
    else more scan.char (scan.skip 1)

/-- Reads the longest address of characters of a class. -/
def readAddressOf (isMember : Char → Bool) (scan : YamlScan) : Option (Text × YamlScan) :=
  scan.readAddress (scan.rest.length + 1) isMember

/-! ## Tags -/

/-- Reads a handle, which begins with an exclamation mark and may end with one. -/
def readHandle (scan : YamlScan) : Option (Text × YamlScan) :=
  if scan.char = '!' then
    let (name, after) := (scan.skip 1).skipWhile isYamlNameChar
    if after.char = '!' then some ('!' :: name ++ ['!'], after.skip 1)
    else some ('!' :: name, after)
  else none

/-- Whether a handle is closed by a second exclamation mark. -/
def isClosedHandle (handle : Text) : Bool := 2 ≤ handle.length && handle.getLast? = some '!'

/-- Reads a tag that is written out between angle brackets. -/
def readVerbatimTag (scan : YamlScan) : Option (Text × YamlScan) := do
  let (address, after) ← (scan.skip 2).readAddressOf isAddressChar
  if after.char = '>' then some (address, after.skip 1) else none

/-- Reads a tag with a handle.  A suffix follows a handle that is closed; what
follows one exclamation mark alone is the suffix, and where nothing follows it,
it is the suffix itself. -/
def readShortTag (scan : YamlScan) : Option (Text × Text × YamlScan) := do
  let (handle, after) ← scan.readHandle
  let (suffix, after) ← after.readAddressOf isTagChar
  if isClosedHandle handle then if suffix = [] then none else some (handle, suffix, after)
  else
    match handle.drop 1 ++ suffix with
    | [] => some ([], ['!'], after)
    | suffix => some (['!'], suffix, after)

/-- Reads a tag.  A gap follows it, or the indicator of a flow collection. -/
def readTag (scan : YamlScan) : Option (Text × Text × YamlScan) := do
  let (handle, suffix, after) ←
    if scan.charAt 1 = '<' then scan.readVerbatimTag.map fun (tag, after) => ([], tag, after)
    else scan.readShortTag
  if isYamlGap after.char || (after.inFlow && isFlowIndicator after.char) then
    some (handle, suffix, after)
  else none

/-- Reads the name of an anchor behind its indicator. -/
def readAnchor (scan : YamlScan) : Option (Text × YamlScan) :=
  match (scan.skip 1).skipWhile isAnchorChar with
  | ([], _) => none
  | found => some found

/-! ## Directives -/

/-- Reads a number of at most nine digits. -/
def readVersionNumber (scan : YamlScan) : Option YamlScan :=
  let (digits, after) := scan.skipWhile isDigit
  if digits ≠ [] && digits.length ≤ 9 then some after else none

/-- Reads the version behind the name of its directive. -/
def readVersion (scan : YamlScan) : Option YamlScan := do
  let after ← (scan.skipWhile isYamlBlank).2.readVersionNumber
  if after.char = '.' then (after.skip 1).readVersionNumber else none

/-- Reads what a handle is short for. -/
def readExpansion (scan : YamlScan) : Option (Text × YamlScan) := do
  let (first, after) ←
    if scan.char = '!' then some (['!'], scan.skip 1)
    else if !isTagChar scan.char then none
    else if scan.char = '%' then scan.readEscapedChar.map fun (c, after) => ([c], after)
    else some ([scan.char], scan.skip 1)
  let (rest, after) ← after.readAddressOf isAddressChar
  some (first ++ rest, after)

/-- Reads a handle and what it is short for, behind the name of the directive. -/
def readHandleDirective (scan : YamlScan) : Option (YamlToken × YamlScan) := do
  let (handle, after) ← (scan.skipWhile isYamlBlank).2.readHandle
  if !(handle = ['!'] || isClosedHandle handle) then none
  let (expansion, after) ← (after.skipWhile isYamlBlank).2.readExpansion
  if isYamlGap after.char then some (.handle handle expansion, after) else none

/-- Reads a directive at its percent sign, with its line end.  One that is not
known is passed over as an empty handle. -/
def readDirective (scan : YamlScan) : Option (YamlToken × YamlScan) := do
  let (name, after) := (scan.skip 1).skipWhile isYamlNameChar
  if name = [] || !isYamlGap after.char then none
  let (token, after) ←
    if name = "YAML".toList then after.readVersion.map fun after => (.version, after)
    else if name = "TAG".toList then after.readHandleDirective
    else some (.handle [] [], after.skipComment)
  let (_, after) ← after.skipToComment
  if isYamlBreak after.char then some (token, after.skipBreak)
  else if after.rest = [] then some (token, after)
  else none

end YamlScan

end TagFilter
