import TagFilter.TomlScalar
import TagFilter.TomlTable

/-!
# TOML documents

A reader for TOML: lines with headers of tables, and lines with keys and values.
Lists and inline tables may go over many lines, with comments between their
parts and a comma behind the last of them.
-/

namespace TagFilter

/-- The entries after a key, dotted or not, was given its value. -/
def assignToml (key : TomlKey) (value : Document) : TomlEntries → Option TomlEntries :=
  alterToml .dotted (addTomlValue key.name value) key.path

mutual

/-- Reads a value, in which `room` more lists and inline tables may stand one in
the other.  Every call takes a character from the text or ends one that did, so
twice the length of the text is enough fuel. -/
def readTomlValue (fuel room : Nat) (text : Text) : Option (Document × Text) :=
  match fuel, room, text with
  | fuel + 1, room + 1, '[' :: rest =>
    (readTomlItems fuel room rest).map fun (items, rest) => (.list items, rest)
  | fuel + 1, room + 1, '\x7b' :: rest =>
    (readTomlInline fuel room [] rest).map
      fun (entries, rest) => (.table (tomlDocuments entries), rest)
  | _, _, _ => readTomlScalar text

/-- Reads the items of a list that are left, and its end. -/
def readTomlItems (fuel room : Nat) (text : Text) : Option (List Document × Text) :=
  match fuel with
  | 0 => none
  | fuel + 1 =>
    match skipTomlSpace text with
    | ']' :: rest => some ([], rest)
    | rest =>
      match readTomlValue fuel room rest with
      | none => none
      | some (item, rest) =>
        match skipTomlSpace rest with
        | ']' :: rest => some ([item], rest)
        | ',' :: rest =>
          (readTomlItems fuel room rest).map fun (items, rest) => (item :: items, rest)
        | _ => none

/-- Reads the keys of an inline table that are left, and its end. -/
def readTomlInline (fuel room : Nat) (entries : TomlEntries) (text : Text) :
    Option (TomlEntries × Text) :=
  match fuel with
  | 0 => none
  | fuel + 1 =>
    match skipTomlSpace text with
    | '\x7d' :: rest => some (entries, rest)
    | text =>
      match (readTomlKey text).map fun (key, rest) => (key, skipTomlSpace rest) with
      | some (key, '=' :: rest) =>
        match readTomlValue fuel room (skipTomlSpace rest) with
        | none => none
        | some (value, rest) =>
          match assignToml key value entries, skipTomlSpace rest with
          | some entries, '\x7d' :: rest => some (entries, rest)
          | some entries, ',' :: rest => readTomlInline fuel room entries rest
          | _, _ => none
      | _ => none

end

/-- What has been read of a document. -/
structure TomlState where
  /-- The tables and values so far. -/
  entries : TomlEntries
  /-- The path to the table that keys belong to. -/
  current : List Text

namespace TomlState

/-- Nothing read. -/
def start : TomlState := ⟨[], []⟩

/-- Goes on with the table that a header names, where `enter` is what the header
does among the tables beside it. -/
def enter (state : TomlState) (header : TomlKey)
    (enter : Text → TomlEntries → Option TomlEntries) : Option TomlState :=
  (alterToml .implied (enter header.name) header.path state.entries).map
    fun entries => ⟨entries, header.path ++ [header.name]⟩

/-- Gives a key of the current table its value. -/
def assign (state : TomlState) (key : TomlKey) (value : Document) : Option TomlState :=
  (alterToml .implied (assignToml key value) state.current state.entries).map
    fun entries => { state with entries := entries }

/-- Reads a header, or a key with its value, but not the end of its line. -/
def readLine (state : TomlState) (text : Text) : Option (TomlState × Text) :=
  match text with
  | '[' :: '[' :: rest =>
    match readTomlKey rest with
    | some (header, ']' :: ']' :: rest) =>
      (state.enter header pushTomlTable).map fun state => (state, rest)
    | _ => none
  | '[' :: rest =>
    match readTomlKey rest with
    | some (header, ']' :: rest) =>
      (state.enter header openTomlTable).map fun state => (state, rest)
    | _ => none
  | _ =>
    match readTomlKey text with
    | some (key, '=' :: rest) => do
      let (value, rest) ← readTomlValue (2 * rest.length + 2) tomlDepth (skipTomlBlanks rest)
      let state ← state.assign key value
      some (state, rest)
    | _ => none

/-- Reads the lines that are left; `fuel` bounds their number. -/
def readLines (fuel : Nat) (state : TomlState) (text : Text) : Option TomlState :=
  match fuel, skipTomlSpace text with
  | _, [] => some state
  | 0, _ => none
  | fuel + 1, text =>
    match state.readLine text with
    | none => none
    | some (state, rest) => (finishTomlLine? rest).bind (readLines fuel state)

end TomlState

/-- Reads a whole TOML document, which may begin with the mark of byte order. -/
def readToml (text : Text) : Option Document :=
  let text := match text with
    | '\ufeff' :: rest => rest
    | _ => text
  (TomlState.start.readLines text.length text).map
    fun state => .table (tomlDocuments state.entries)

end TagFilter
