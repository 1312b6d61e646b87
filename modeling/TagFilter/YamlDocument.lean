import TagFilter.YamlNode
import TagFilter.YamlTokens

/-!
# YAML documents

Puts the tokens of a YAML text together to nodes.  A text holds one document, or
none, which is an empty table.

The functions take the tokens that are left and give those that they leave,
together with the anchors that they know.  The nodes of a mapping are taken as
they come, a key and its value in turn; one that is missing is null.
-/

namespace TagFilter

/-- The anchors of a document: the place of the node with each name, and the
nodes at the places.  A node is there once all of it has been read. -/
structure YamlAnchors where
  /-- The number of anchors so far. -/
  count : Nat := 0
  /-- The place of the last node with a name. -/
  places : List (Text × Nat) := []
  /-- The nodes by place. -/
  nodes : List (Nat × YamlNode) := []

namespace YamlAnchors

/-- Gives the next place to a name. -/
def add (anchors : YamlAnchors) (name : Text) : Nat × YamlAnchors :=
  (anchors.count,
    { anchors with
      count := anchors.count + 1
      places := (name, anchors.count) :: anchors.places })

/-- Keeps a node that has a place. -/
def keep (anchors : YamlAnchors) (place : Option Nat) (node : YamlNode) : YamlAnchors :=
  match place with
  | some place => { anchors with nodes := (place, node) :: anchors.nodes }
  | none => anchors

/-- The node with a name, if the name is known. -/
def node? (anchors : YamlAnchors) (name : Text) : Option YamlNode :=
  (anchors.places.lookup name).map fun place =>
    (anchors.nodes.lookup place).getD (.scalar .invalid)

end YamlAnchors

/-- What has been read of a document, beside its nodes. -/
structure YamlReading where
  /-- What the handles of tags are short for. -/
  handles : List (Text × Text)
  anchors : YamlAnchors
  tokens : List YamlToken

namespace YamlReading

/-- The reading behind one more token. -/
def drop (reading : YamlReading) : YamlReading := { reading with tokens := reading.tokens.tail }

/-- The tag with a handle and a suffix.  A handle that is closed has to be known. -/
def tag? (reading : YamlReading) (handle suffix : Text) : Option YamlTag :=
  if handle = "!!".toList then
    some ⟨(reading.handles.lookup handle).getD coreHandle, suffix⟩
  else
    match reading.handles.lookup handle with
    | some expansion => some ⟨expansion, suffix⟩
    | none => if YamlScan.isClosedHandle handle then none else some ⟨handle, suffix⟩

/-- Reads an anchor, if one comes next. -/
def readAnchor (reading : YamlReading) : Option Nat × YamlReading :=
  match reading.tokens with
  | .anchor name :: tokens =>
    let (place, anchors) := reading.anchors.add name
    (some place, { reading with anchors := anchors, tokens := tokens })
  | _ => (none, reading)

/-- Reads a tag, if one comes next. -/
def readTag (reading : YamlReading) : Option (Option YamlTag × YamlReading) :=
  match reading.tokens with
  | .tag handle suffix :: tokens =>
    (reading.tag? handle suffix).map fun tag => (some tag, { reading with tokens := tokens })
  | _ => some (none, reading)

/-- Reads the anchor and the tag before a node, in any order. -/
def readProperties (reading : YamlReading) : Option (Option Nat × Option YamlTag × YamlReading) :=
  match reading.readAnchor with
  | (some place, after) => after.readTag.map fun (tag, after) => (some place, tag, after)
  | (none, _) =>
    reading.readTag.map fun (tag, after) =>
      match tag with
      | some _ => let (place, after) := after.readAnchor; (place, tag, after)
      | none => (none, none, after)

/-- The null node. -/
def null : YamlNode := .scalar .null

/-- The node of a sequence. -/
def sequence (items : List Document) : YamlNode := .collection (.list items)

/-- The node of a mapping.  A key without a value is passed over. -/
def mapping (pairs : YamlPairs) : YamlNode := .collection (.table pairs.entries)

/-- Whether a key or value of a block mapping is missing before the token. -/
def endsBlockNode : Option YamlToken → Bool
  | some .key | some .value | some .blockEnd => true
  | _ => false

/-- Whether a value in a flow mapping is missing before the token. -/
def endsFlowValue : Option YamlToken → Bool
  | some .comma | some .flowMappingEnd => true
  | _ => false

/-- Whether an item of a flow sequence, or the value in one, is missing before
the token. -/
def endsFlowItem : Option YamlToken → Bool
  | some .comma | some .flowSequenceEnd => true
  | _ => false

/-- Whether a key with a value of its own begins at the token. -/
def beginsPair : Option YamlToken → Bool
  | some .key | some .value => true
  | _ => false

mutual

/-- Reads a node.  In a block it may be a block collection, and as the key or
value of a block mapping a sequence that is not indented. -/
def readNode (fuel : Nat) (inBlock isUnindented : Bool) (reading : YamlReading) :
    Option (YamlNode × YamlReading) :=
  match fuel with
  | 0 => none
  | fuel + 1 =>
    match reading.tokens with
    | .alias name :: _ => (reading.anchors.node? name).map fun node => (node, reading.drop)
    | _ =>
      match reading.readProperties with
      | none => none
      | some (place, tag, reading) =>
        let kept : YamlNode × YamlReading → YamlNode × YamlReading := fun (node, after) =>
          (node, { after with anchors := after.anchors.keep place node })
        match reading.tokens.head?, inBlock, isUnindented with
        | some (.scalar plain text), _, _ =>
          some (kept (.scalar (.read tag plain text), reading.drop))
        | some .flowSequenceStart, _, _ =>
          (readFlowItems fuel true reading.drop).map fun (items, after) =>
            kept (sequence items, after)
        | some .flowMappingStart, _, _ =>
          (readFlowPairs fuel true {} reading.drop).map fun (pairs, after) =>
            kept (mapping pairs, after)
        | some .sequenceStart, true, _ =>
          (readBlockItems fuel reading.drop).map fun (items, after) => kept (sequence items, after)
        | some .mappingStart, true, _ =>
          (readBlockPairs fuel {} reading.drop).map fun (pairs, after) =>
            kept (mapping pairs, after)
        | some .item, _, true =>
          (readUnindentedItems fuel reading).map fun (items, after) => kept (sequence items, after)
        | _, _, _ =>
          if place.isSome || tag.isSome then some (kept (.scalar (.read tag true []), reading))
          else none

/-- Reads the node of an item of a sequence, and gives its value. -/
def readItem (fuel : Nat) (inBlock : Bool) (reading : YamlReading) :
    Option (Document × YamlReading) :=
  match fuel with
  | 0 => none
  | fuel + 1 =>
    match readNode fuel inBlock false reading with
    | none => none
    | some (node, after) => node.document?.map fun document => (document, after)

/-- Reads the items of a block sequence that are left, and its end. -/
def readBlockItems (fuel : Nat) (reading : YamlReading) : Option (List Document × YamlReading) :=
  match fuel with
  | 0 => none
  | fuel + 1 =>
    match reading.tokens with
    | .blockEnd :: _ => some ([], reading.drop)
    | .item :: next =>
      let item :=
        if next.head? = some .item || next.head? = some .blockEnd then some (.null, reading.drop)
        else readItem fuel true reading.drop
      match item with
      | none => none
      | some (item, after) =>
        (readBlockItems fuel after).map fun (items, after) => (item :: items, after)
    | _ => none

/-- Reads the items that are left of a sequence that is not indented. -/
def readUnindentedItems (fuel : Nat) (reading : YamlReading) :
    Option (List Document × YamlReading) :=
  match fuel with
  | 0 => none
  | fuel + 1 =>
    match reading.tokens with
    | .item :: next =>
      let item :=
        if next.head? = some .item || endsBlockNode next.head? then some (.null, reading.drop)
        else readItem fuel true reading.drop
      match item with
      | none => none
      | some (item, after) =>
        (readUnindentedItems fuel after).map fun (items, after) => (item :: items, after)
    | _ => some ([], reading)

/-- Reads a key or value of a block mapping behind its token. -/
def readBlockPart (fuel : Nat) (reading : YamlReading) : Option (YamlNode × YamlReading) :=
  match fuel with
  | 0 => none
  | fuel + 1 =>
    if endsBlockNode reading.tokens.head? then some (null, reading)
    else readNode fuel true true reading

/-- Reads the pairs of a block mapping that are left, and its end. -/
def readBlockPairs (fuel : Nat) (pairs : YamlPairs) (reading : YamlReading) :
    Option (YamlPairs × YamlReading) :=
  match fuel with
  | 0 => none
  | fuel + 1 =>
    let key := match reading.tokens with
      | .key :: _ => readBlockPart fuel reading.drop
      | .value :: _ => some (null, reading)
      | _ => none
    match reading.tokens, key with
    | .blockEnd :: _, _ => some (pairs, reading.drop)
    | _, none => none
    | _, some (key, after) =>
      let value := match after.tokens with
        | .value :: _ => readBlockPart fuel after.drop
        | _ => some (null, after)
      match value with
      | none => none
      | some (value, after) =>
        match (pairs.add key).bind (·.add value) with
        | none => none
        | some pairs => readBlockPairs fuel pairs after

/-- Reads the items of a flow sequence that are left, and its end.  A comma
stands before each of them but the first. -/
def readFlowItems (fuel : Nat) (isFirst : Bool) (reading : YamlReading) :
    Option (List Document × YamlReading) :=
  match fuel with
  | 0 => none
  | fuel + 1 =>
    match reading.tokens, isFirst with
    | .flowSequenceEnd :: _, _ => some ([], reading.drop)
    | .comma :: .flowSequenceEnd :: _, false => some ([], reading.drop.drop)
    | .comma :: _, false => readFlowItem fuel reading.drop
    | _, false => none
    | _, true => readFlowItem fuel reading

/-- Reads an item of a flow sequence and those after it.  An item may be a pair
that makes up a mapping of its own. -/
def readFlowItem (fuel : Nat) (reading : YamlReading) : Option (List Document × YamlReading) :=
  match fuel with
  | 0 => none
  | fuel + 1 =>
    let item := match reading.tokens with
      | .key :: _ => readFlowPair fuel reading.drop
      | _ => readItem fuel false reading
    match item with
    | none => none
    | some (item, after) =>
      (readFlowItems fuel false after).map fun (items, after) => (item :: items, after)

/-- Reads a pair in a flow sequence behind the token for its key.  The token
before which the key is missing is taken for the key. -/
def readFlowPair (fuel : Nat) (reading : YamlReading) : Option (Document × YamlReading) :=
  match fuel with
  | 0 => none
  | fuel + 1 =>
    let key :=
      if reading.tokens.head? = some .value || endsFlowItem reading.tokens.head? then
        some (null, reading.drop)
      else readNode fuel false false reading
    match key with
    | none => none
    | some (key, after) =>
      let value := match after.tokens with
        | .value :: next =>
          if endsFlowItem next.head? then some (null, after.drop)
          else readNode fuel false false after.drop
        | _ => some (null, after)
      match value with
      | none => none
      | some (value, after) =>
        match (YamlPairs.add {} key).bind (·.add value) with
        | none => none
        | some pairs => some (.table pairs.entries, after)

/-- Reads the pairs of a flow mapping that are left, and its end.  A comma stands
before each of them but the first. -/
def readFlowPairs (fuel : Nat) (isFirst : Bool) (pairs : YamlPairs) (reading : YamlReading) :
    Option (YamlPairs × YamlReading) :=
  match fuel with
  | 0 => none
  | fuel + 1 =>
    match reading.tokens, isFirst with
    | .flowMappingEnd :: _, _ => some (pairs, reading.drop)
    | .comma :: .flowMappingEnd :: _, false => some (pairs, reading.drop.drop)
    | .comma :: _, false => readFlowEntry fuel pairs reading.drop
    | _, false => none
    | _, true => readFlowEntry fuel pairs reading

/-- Reads a pair of a flow mapping and those after it.  Without a token for its
key it has no value. -/
def readFlowEntry (fuel : Nat) (pairs : YamlPairs) (reading : YamlReading) :
    Option (YamlPairs × YamlReading) :=
  match fuel with
  | 0 => none
  | fuel + 1 =>
    let key := match reading.tokens with
      | .key :: next =>
        if next.head? = some YamlToken.value || endsFlowValue next.head? then
          some (null, reading.drop)
        else readNode fuel false false reading.drop
      | .value :: _ => some (null, reading)
      | _ => readNode fuel false false reading
    match key with
    | none => none
    | some (key, after) =>
      let value := match beginsPair reading.tokens.head?, after.tokens with
        | true, .value :: next =>
          if endsFlowValue next.head? then some (null, after.drop)
          else readNode fuel false false after.drop
        | _, _ => some (null, after)
      match value with
      | none => none
      | some (value, after) =>
        match (pairs.add key).bind (·.add value) with
        | none => none
        | some pairs => readFlowPairs fuel false pairs after

end

/-- Reads the directives before a document.  The last one alone says what handles
are short for, and the version may be given once. -/
def readDirectives (hasVersion : Bool) (handles : List (Text × Text)) :
    List YamlToken → Option (List (Text × Text) × List YamlToken)
  | .version :: tokens => if hasVersion then none else readDirectives true [] tokens
  | .handle name expansion :: tokens => readDirectives hasVersion [(name, expansion)] tokens
  | tokens => some (handles, tokens)

/-- Whether no node comes next in a document that a mark began. -/
def isEmptyDocument : List YamlToken → Bool
  | [] | .version :: _ | .handle .. :: _ | .documentStart :: _ | .documentEnd :: _ => true
  | _ => false

/-- Reads a document and gives the tokens behind it. -/
def readDocument (tokens : List YamlToken) : Option (YamlNode × List YamlToken) := do
  let (handles, rest) ← readDirectives false [] tokens
  let (isMarked, body) := match rest with
    | .documentStart :: body => (true, body)
    | _ => (false, rest)
  if !isMarked && rest.length < tokens.length then none
  if isMarked && isEmptyDocument body then some (null, body)
  else
    let (node, after) ← readNode (4 * body.length + 8) true false ⟨handles, {}, body⟩
    some (node, after.tokens)

end YamlReading

/-- The tokens without the marks for ends of documents that they begin with. -/
def dropDocumentEnds (tokens : List YamlToken) : List YamlToken :=
  tokens.dropWhile (· = .documentEnd)

/-- Reads a whole YAML text. -/
def readYaml (text : Text) : Option Document := do
  match dropDocumentEnds (← yamlTokens text) with
  | [] => some (.table [])
  | tokens =>
    let (node, rest) ← YamlReading.readDocument tokens
    if dropDocumentEnds rest = [] then node.document? else none

end TagFilter
