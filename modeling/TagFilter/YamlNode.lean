import TagFilter.Document
import TagFilter.YamlToken

/-!
# Nodes of YAML

What a scalar stands for, with a tag or without one, and the nodes that scalars
are put together to.

A node that makes no sense is `invalid`: one whose text is not what its tag asks
for, or an alias inside the node that it names.  It counts as a missing value,
and where a key should stand it is passed over.
-/

namespace TagFilter

/-- What a scalar stands for. -/
inductive YamlScalar where
  | null
  | flag (value : Bool)
  /-- An integer of 64 bits. -/
  | integer (value : Int)
  /-- Another number, as it is written. -/
  | real (digits : Text)
  | text (value : Text)
  /-- Nothing that makes sense. -/
  | invalid
  deriving DecidableEq, Repr

/-- A tag: what its handle is short for, and the rest of it. -/
structure YamlTag where
  /-- What the handle is short for. -/
  handle : Text
  /-- What follows the handle. -/
  suffix : Text
  deriving DecidableEq, Repr

/-- What the handle of two exclamation marks is short for. -/
def coreHandle : Text := "tag:yaml.org,2002:".toList

/-! ## Numbers -/

/-- The integer of 64 bits that digits of a base write, with a sign or without. -/
def yamlInteger? (base : Nat) (text : Text) : Option Int :=
  let (sign, digits) := splitSign text
  (numberOfDigits? base digits).bind fun value =>
    if sign = some '-' then if value ≤ Nat.pow 2 63 then some (-value) else none
    else if value < Nat.pow 2 63 then some value
    else none

/-- The number that a text writes with a point or an exponent, or without. -/
def yamlDecimal? (text : Text) : Option Decimal := do
  let (_, unsigned) := splitSign text
  let whole := unsigned.takeWhile isDigit
  let rest := unsigned.dropWhile isDigit
  let (fraction, rest) := match rest with
    | '.' :: rest => (rest.takeWhile isDigit, rest.dropWhile isDigit)
    | _ => ([], rest)
  let (exponent, rest) ← readExponent? rest
  if rest = [] && whole ++ fraction ≠ [] then some (decimalOf whole fraction exponent) else none

/-- Whether a text is one of the numbers that have no digits. -/
def isSpecialNumber (text : Text) : Bool :=
  let (sign, unsigned) := splitSign text
  unsigned ∈ [".inf".toList, ".Inf".toList, ".INF".toList] ||
    (sign = none && unsigned ∈ [".nan".toList, ".NaN".toList, ".NAN".toList])

/-- Whether a text is a number that is not an integer. -/
def isReal (text : Text) : Bool := isSpecialNumber text || (yamlDecimal? text).isSome

/-- The integer of a plain scalar: decimal, or in a base that is marked. -/
def plainInteger? (text : Text) : Option Int :=
  let marked : Option Int := match text with
    | '0' :: 'x' :: digits => yamlInteger? 16 digits
    | '0' :: 'o' :: digits => yamlInteger? 8 digits
    | '+' :: digits => yamlInteger? 10 digits
    | _ => none
  marked <|> yamlInteger? 10 text

/-! ## Scalars -/

/-- What a plain scalar without a tag stands for. -/
def YamlScalar.ofPlain (text : Text) : YamlScalar :=
  if text ∈ ["".toList, "~".toList, "null".toList] then .null
  else if text ∈ ["true".toList, "True".toList, "TRUE".toList] then .flag true
  else if text ∈ ["false".toList, "False".toList, "FALSE".toList] then .flag false
  else
    match plainInteger? text with
    | some value => .integer value
    | none => if isReal text then .real text else .text text

/-- What a plain scalar with a tag stands for. -/
def YamlScalar.ofTagged (tag : YamlTag) (text : Text) : YamlScalar :=
  if tag.handle ≠ coreHandle then .text text
  else if tag.suffix = "bool".toList then
    if text = "true".toList then .flag true
    else if text = "false".toList then .flag false
    else .invalid
  else if tag.suffix = "int".toList then
    match yamlInteger? 10 text with
    | some value => .integer value
    | none => .invalid
  else if tag.suffix = "float".toList then if isReal text then .real text else .invalid
  else if tag.suffix = "null".toList then
    if text ∈ ["~".toList, "null".toList] then .null else .invalid
  else .text text

/-- What a scalar stands for; `plain` if it is one.  Of others the tag says nothing. -/
def YamlScalar.read (tag : Option YamlTag) (plain : Bool) (text : Text) : YamlScalar :=
  match plain, tag with
  | false, _ => .text text
  | true, none => .ofPlain text
  | true, some tag => .ofTagged tag text

/-- The value of a scalar.  The numbers without digits have none. -/
def YamlScalar.document? : YamlScalar → Option Document
  | .null | .invalid => some .null
  | .flag value => some (.flag value)
  | .integer value => some (.number (value = 0))
  | .real digits => (yamlDecimal? digits).map fun number => .number number.roundsToZero
  | .text value => some (.text value)

/-- The name that a scalar is as a key. -/
def YamlScalar.name? : YamlScalar → Option Text
  | .null | .invalid => none
  | .flag true => some "true".toList
  | .flag false => some "false".toList
  | .integer value => some (toString value).toList
  | .real digits => some digits
  | .text value => some value

/-! ## Nodes -/

/-- A node. -/
inductive YamlNode where
  | scalar (scalar : YamlScalar)
  /-- A collection, as the value that it is. -/
  | collection (document : Document)

/-- The value of a node. -/
def YamlNode.document? : YamlNode → Option Document
  | .scalar value => value.document?
  | .collection document => some document

/-- A mapping of which some nodes have been read. -/
structure YamlPairs where
  /-- The key that waits for its value. -/
  waiting : Option YamlNode := none
  /-- The keys so far. -/
  keys : List YamlScalar := []
  /-- Their values, by name. -/
  entries : List (Text × Document) := []

/-- Adds the next node, a key or the value of the key before it.  A key may occur
once, and it is a scalar that is a name. -/
def YamlPairs.add (pairs : YamlPairs) (node : YamlNode) : Option YamlPairs :=
  match pairs.waiting, node with
  | none, .scalar .invalid => some pairs
  | none, key => some { pairs with waiting := some key }
  | some (.collection _), _ => none
  | some (.scalar key), value =>
    if key ∈ pairs.keys then none
    else
      match key.name?, value.document? with
      | some name, some document =>
        some ⟨none, key :: pairs.keys, assign name document pairs.entries⟩
      | _, _ => none

end TagFilter
