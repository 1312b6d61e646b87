import TagFilter.Blank

/-!
# Tokens of YAML

The classes of characters that YAML tells apart, and the tokens that a text is
cut into.  The indentation of block collections is told by tokens of its own,
and so is the place where a key begins, which shows only at the colon behind it.
-/

namespace TagFilter

/-- Whether the character is a blank within a line. -/
def isYamlBlank (c : Char) : Bool := c = ' ' || c = '\t'

/-- Whether the character ends a line. -/
def isYamlBreak (c : Char) : Bool := c = '\n' || c = '\r'

/-- Whether the character ends a line or stands for the end of the text. -/
def isYamlLineEnd (c : Char) : Bool := isYamlBreak c || c = '\x00'

/-- Whether a word ends before the character. -/
def isYamlGap (c : Char) : Bool := isYamlBlank c || isYamlLineEnd c

/-- The indicators of flow collections. -/
def isFlowIndicator (c : Char) : Bool :=
  c = ',' || c = '[' || c = ']' || c = '\x7b' || c = '\x7d'

/-- Whether the character may stand in the name of a directive or a handle. -/
def isYamlNameChar (c : Char) : Bool := c.isAlphanum || c = '_' || c = '-'

/-- Whether the character may stand in the name of an anchor. -/
def isAnchorChar (c : Char) : Bool := !isYamlGap c && !isFlowIndicator c && c ≠ '\ufeff'

/-- Whether the character may stand in the address of a tag. -/
def isAddressChar (c : Char) : Bool :=
  c.isAlphanum || c ∈ "-_#;/?:@&=+$,.!~*'()[]%".toList

/-- Whether the character may stand in a tag behind its handle. -/
def isTagChar (c : Char) : Bool := isAddressChar c && !isFlowIndicator c && c ≠ '!'

/-- A token of a YAML text. -/
inductive YamlToken where
  | version
  /-- A directive for a handle of tags, and what it is short for. -/
  | handle (name expansion : Text)
  | documentStart
  | documentEnd
  | sequenceStart
  | mappingStart
  | blockEnd
  | flowSequenceStart
  | flowSequenceEnd
  | flowMappingStart
  | flowMappingEnd
  /-- The hyphen of an item of a block sequence. -/
  | item
  /-- The comma between the items of a flow collection. -/
  | comma
  | key
  | value
  /-- A node given elsewhere, by the name of its anchor. -/
  | alias (name : Text)
  /-- The name of the node that follows. -/
  | anchor (name : Text)
  | tag (handle suffix : Text)
  /-- A scalar; `plain` if it stands without quotes and outside block scalars. -/
  | scalar (plain : Bool) (text : Text)
  deriving DecidableEq, Repr

end TagFilter
