import TagFilter.Document

/-!
# The texts of TOML

What TOML is made of below its values: blanks and line ends, comments, strings
in either quote style and on one line or many, and keys.
-/

namespace TagFilter

/-- Whether the character is a blank within a line. -/
def isTomlBlank (c : Char) : Bool := c = ' ' || c = '\t'

/-- The text without the blanks it begins with. -/
def skipTomlBlanks (text : Text) : Text := text.dropWhile isTomlBlank

/-- Whether the character is refused in comments and strings. -/
def isTomlControl (c : Char) : Bool := (c.toNat < 0x20 && c ≠ '\t') || c.toNat = 0x7F

/-- What follows a line end at the start of a text. -/
def afterLineEnd? : Text → Option Text
  | '\n' :: rest => some rest
  | '\r' :: '\n' :: rest => some rest
  | _ => none

/-- Reads the blanks and the comment that a line may end with, and its end. -/
def finishTomlLine? (text : Text) : Option Text :=
  let ended (rest : Text) : Option Text := if rest = [] then some [] else afterLineEnd? rest
  match skipTomlBlanks text with
  | '#' :: rest => ended (rest.dropWhile fun c => !isTomlControl c)
  | rest => ended rest

/-- Skips blanks, comments and line ends; `fuel` bounds the lines. -/
def skipTomlLines (fuel : Nat) (text : Text) : Text :=
  match fuel with
  | 0 => text
  | fuel + 1 =>
    let text := skipTomlBlanks text
    match finishTomlLine? text with
    | some rest => if text = [] then [] else skipTomlLines fuel rest
    | none => text

/-- The text behind blanks, comments and line ends. -/
def skipTomlSpace (text : Text) : Text := skipTomlLines (text.length + 1) text

/-! ## Strings -/

/-- The character that a letter behind a backslash stands for. -/
def tomlEscape? : Char → Option Char
  | 'b' => some '\x08'
  | 't' => some '\t'
  | 'n' => some '\n'
  | 'f' => some '\x0c'
  | 'r' => some '\r'
  | 'e' => some '\x1b'
  | '"' => some '"'
  | '\\' => some '\\'
  | _ => none

/-- The number of hexadecimal digits that follow a letter behind a backslash. -/
def tomlEscapeWidth? : Char → Option Nat
  | 'x' => some 2
  | 'u' => some 4
  | 'U' => some 8
  | _ => none

/-- Reads an escape behind its backslash. -/
def readTomlEscape? : Text → Option (Char × Text)
  | c :: rest =>
    match tomlEscapeWidth? c with
    | some width =>
      if (rest.take width).length = width then
        ((numberOfDigits? 16 (rest.take width)).bind characterAt?).map
          fun c => (c, rest.drop width)
      else none
    | none => (tomlEscape? c).map fun c => (c, rest)
  | [] => none

/-- Reads a string on one line behind its opening quote. -/
def readTomlString (fuel : Nat) (quote : Char) (text : Text) : Option (Text × Text) :=
  match fuel, text with
  | fuel + 1, c :: rest =>
    if c = quote then some ([], rest)
    else if c = '\\' && quote = '"' then
      match readTomlEscape? rest with
      | some (c, rest) =>
        (readTomlString fuel quote rest).map fun (value, rest) => (c :: value, rest)
      | none => none
    else if isTomlControl c then none
    else (readTomlString fuel quote rest).map fun (value, rest) => (c :: value, rest)
  | _, _ => none

/-- The text behind blanks and line ends. -/
def skipTomlEmptyLines : Text → Text
  | '\r' :: '\n' :: rest => skipTomlEmptyLines rest
  | c :: rest => if isTomlBlank c || c = '\n' then skipTomlEmptyLines rest else c :: rest
  | [] => []

/-- Reads a string on many lines behind its opening quotes.  Line ends are kept
as they are written.  Up to two quotes may stand before the three that close it,
and a backslash at the end of a line joins it to the next word. -/
def readTomlLines (fuel : Nat) (quote : Char) (text : Text) : Option (Text × Text) :=
  match fuel, text with
  | fuel + 1, c :: rest =>
    let quotes := (text.takeWhile (· = quote)).length
    let isLineEnd := c = '\n' || (c = '\r' && rest.head? = some '\n')
    if 3 ≤ quotes then
      if quotes ≤ 5 then some (List.replicate (quotes - 3) quote, text.drop quotes) else none
    else if c = '\\' && quote = '"' then
      match readTomlEscape? rest with
      | some (c, rest) =>
        (readTomlLines fuel quote rest).map fun (value, rest) => (c :: value, rest)
      | none =>
        match afterLineEnd? (skipTomlBlanks rest) with
        | some rest => readTomlLines fuel quote (skipTomlEmptyLines rest)
        | none => none
    else if isTomlControl c && !isLineEnd then none
    else (readTomlLines fuel quote rest).map fun (value, rest) => (c :: value, rest)
  | _, _ => none

/-- Reads a string in one of its four styles; a line end behind the quotes that
open a string on many lines is no part of it. -/
def readTomlText (text : Text) : Option (Text × Text) :=
  match text with
  | '"' :: '"' :: '"' :: rest => readTomlLines text.length '"' ((afterLineEnd? rest).getD rest)
  | '\x27' :: '\x27' :: '\x27' :: rest =>
    readTomlLines text.length '\x27' ((afterLineEnd? rest).getD rest)
  | '"' :: rest => readTomlString text.length '"' rest
  | '\x27' :: rest => readTomlString text.length '\x27' rest
  | _ => none

/-! ## Keys -/

/-- A key: a name, and the names of the tables that lead to it. -/
structure TomlKey where
  /-- The names before the last point. -/
  path : List Text
  /-- The name behind it. -/
  name : Text
  deriving DecidableEq, Repr

/-- Whether the character may stand in a bare key. -/
def isBareKeyChar (c : Char) : Bool := c.isAlphanum || c = '_' || c = '-'

/-- Reads one name of a key. -/
def readTomlName (text : Text) : Option (Text × Text) :=
  match text with
  | '"' :: rest => readTomlString text.length '"' rest
  | '\x27' :: rest => readTomlString text.length '\x27' rest
  | _ =>
    match text.takeWhile isBareKeyChar with
    | [] => none
    | name => some (name, text.dropWhile isBareKeyChar)

/-- Reads the names of a key that are left, and the blanks behind them; `fuel`
bounds their number. -/
def readTomlNames (fuel : Nat) (text : Text) : Option (TomlKey × Text) :=
  match fuel with
  | 0 => none
  | fuel + 1 =>
    match readTomlName (skipTomlBlanks text) with
    | none => none
    | some (name, rest) =>
      match skipTomlBlanks rest with
      | '.' :: rest =>
        (readTomlNames fuel rest).map
          fun (key, rest) => ({ key with path := name :: key.path }, rest)
      | rest => some (⟨[], name⟩, rest)

/-- How many names a key may have, and how many lists and inline tables may
stand one in the other. -/
def tomlDepth : Nat := 80

/-- Reads a key and the blanks behind it. -/
def readTomlKey (text : Text) : Option (TomlKey × Text) := readTomlNames tomlDepth text

end TagFilter
