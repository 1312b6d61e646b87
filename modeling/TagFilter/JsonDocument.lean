import TagFilter.Document

/-!
# JSON documents

A reader for JSON.  Of two values for one name the last counts, containers nest
at most `jsonDepth` deep, and a number must be within the range of a double.
-/

namespace TagFilter

/-- How deep containers may nest. -/
def jsonDepth : Nat := 127

/-- Whether the character may stand between the tokens of a document. -/
def isJsonBlank (c : Char) : Bool := c = ' ' || c = '\t' || c = '\n' || c = '\r'

/-- The text without the blanks it begins with. -/
def skipJsonBlanks (text : Text) : Text := text.dropWhile isJsonBlank

/-- The character that a letter behind a backslash stands for. -/
def jsonEscape? : Char → Option Char
  | '"' => some '"'
  | '\\' => some '\\'
  | '/' => some '/'
  | 'b' => some '\x08'
  | 'f' => some '\x0c'
  | 'n' => some '\n'
  | 'r' => some '\r'
  | 't' => some '\t'
  | _ => none

/-- The character of a surrogate pair. -/
def surrogatePair? (high low : Nat) : Option Char :=
  if 0xD800 ≤ high && high < 0xDC00 && 0xDC00 ≤ low && low < 0xE000 then
    characterAt? (0x10000 + (high - 0xD800) * 0x400 + (low - 0xDC00))
  else none

/-- Puts a character before a text that was read. -/
def consRead (c : Option Char) (read : Option (Text × Text)) : Option (Text × Text) :=
  match c, read with
  | some c, some (text, rest) => some (c :: text, rest)
  | _, _ => none

/-- Reads a string behind its opening quote. -/
def readJsonString : Text → Option (Text × Text)
  | [] => none
  | '"' :: rest => some ([], rest)
  | '\\' :: 'u' :: a :: b :: c :: d :: rest =>
    match numberOfDigits? 16 [a, b, c, d] with
    | none => none
    | some unit =>
      if unit < 0xD800 || 0xE000 ≤ unit then consRead (characterAt? unit) (readJsonString rest)
      else
        match rest with
        | '\\' :: 'u' :: e :: f :: g :: h :: rest =>
          consRead ((numberOfDigits? 16 [e, f, g, h]).bind (surrogatePair? unit))
            (readJsonString rest)
        | _ => none
  | '\\' :: c :: rest => consRead (jsonEscape? c) (readJsonString rest)
  | c :: rest => if c.toNat < 0x20 || c = '\\' then none else consRead (some c) (readJsonString rest)

/-- Reads the fraction of a number, if a point begins one. -/
def readJsonFraction? : Text → Option (Text × Text)
  | '.' :: rest =>
    match rest.takeWhile isDigit with
    | [] => none
    | digits => some (digits, rest.dropWhile isDigit)
  | text => some ([], text)

/-- Reads a number.  No digit may follow a leading zero. -/
def readJsonNumber (text : Text) : Option (Document × Text) := do
  let unsigned := match text with
    | '-' :: rest => rest
    | _ => text
  let whole := unsigned.takeWhile isDigit
  if whole = [] || (whole.length ≠ 1 && whole.head? = some '0') then none
  else
    let (fraction, rest) ← readJsonFraction? (unsigned.dropWhile isDigit)
    let (exponent, rest) ← readExponent? rest
    let number := decimalOf whole fraction exponent
    if number.overflows then none else some (.number number.roundsToZero, rest)

mutual

/-- Reads a value.  Every call takes a character from the text or ends one that
did, so twice the length of the text is enough fuel. -/
def readJsonValue (fuel depth : Nat) (text : Text) : Option (Document × Text) :=
  match fuel with
  | 0 => none
  | fuel + 1 =>
    match skipJsonBlanks text with
    | 'n' :: 'u' :: 'l' :: 'l' :: rest => some (.null, rest)
    | 't' :: 'r' :: 'u' :: 'e' :: rest => some (.flag true, rest)
    | 'f' :: 'a' :: 'l' :: 's' :: 'e' :: rest => some (.flag false, rest)
    | '"' :: rest => (readJsonString rest).map fun (value, rest) => (.text value, rest)
    | '[' :: rest =>
      match depth with
      | 0 => none
      | depth + 1 =>
        match skipJsonBlanks rest with
        | ']' :: rest => some (.list [], rest)
        | rest => (readJsonItems fuel depth rest).map fun (items, rest) => (.list items, rest)
    | '\x7b' :: rest =>
      match depth with
      | 0 => none
      | depth + 1 =>
        match skipJsonBlanks rest with
        | '\x7d' :: rest => some (.table [], rest)
        | rest => (readJsonMembers fuel depth [] rest).map fun (all, rest) => (.table all, rest)
    | rest => readJsonNumber rest

/-- Reads the items of an array that are left, and its end. -/
def readJsonItems (fuel depth : Nat) (text : Text) : Option (List Document × Text) :=
  match fuel with
  | 0 => none
  | fuel + 1 =>
    match readJsonValue fuel depth text with
    | none => none
    | some (item, rest) =>
      match skipJsonBlanks rest with
      | ']' :: rest => some ([item], rest)
      | ',' :: rest =>
        (readJsonItems fuel depth rest).map fun (items, rest) => (item :: items, rest)
      | _ => none

/-- Reads the members of an object that are left, and its end, after `read`. -/
def readJsonMembers (fuel depth : Nat) (read : List (Text × Document)) (text : Text) :
    Option (List (Text × Document) × Text) :=
  match fuel with
  | 0 => none
  | fuel + 1 =>
    match skipJsonBlanks text with
    | '"' :: rest =>
      match readJsonString rest with
      | none => none
      | some (name, rest) =>
        match skipJsonBlanks rest with
        | ':' :: rest =>
          match readJsonValue fuel depth rest with
          | none => none
          | some (value, rest) =>
            let read := assign name value read
            match skipJsonBlanks rest with
            | '\x7d' :: rest => some (read, rest)
            | ',' :: rest => readJsonMembers fuel depth read rest
            | _ => none
        | _ => none
    | _ => none

end

/-- Reads a whole JSON document. -/
def readJson (text : Text) : Option Document :=
  match readJsonValue (2 * text.length + 2) jsonDepth text with
  | some (document, rest) => if skipJsonBlanks rest = [] then some document else none
  | none => none

end TagFilter
