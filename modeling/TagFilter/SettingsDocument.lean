import TagFilter.JsonDocument
import TagFilter.Settings
import TagFilter.SettingsPath
import TagFilter.TomlDocument
import TagFilter.YamlDocument

/-!
# Settings from documents

A settings document has two sections, each of which may be missing, as may
each value in them; names that mean nothing here are passed over.  A value of
the wrong kind is refused before the marker is looked at.

A document from a file is read leniently: numbers and a few words count as truth
values, and a list counts as a section, with its items in the order in which the
section's values are named.
-/

namespace TagFilter

/-- What counts as a value of the kind that is asked for. -/
inductive Tolerance where
  /-- A value of that kind alone. -/
  | strict
  /-- Also a number or a word for a truth value, and a list for a section. -/
  | lenient
  deriving DecidableEq, Repr

/-- The texts that count as true, in lowercase. -/
def trueWords : List Text := [['t', 'r', 'u', 'e'], ['y', 'e', 's'], ['o', 'n'], ['1']]

/-- The texts that count as false, in lowercase. -/
def falseWords : List Text := [['f', 'a', 'l', 's', 'e'], ['n', 'o'], ['o', 'f', 'f'], ['0']]

namespace Document

/-- The character of a text that has just one. -/
def character? : Document → Option Char
  | .text [c] => some c
  | _ => none

/-- A truth value, or what counts as one: leniently, a number does unless it is
zero, and so do a few words in any mixture of capitals and small letters. -/
def truth? : Tolerance → Document → Option Bool
  | _, .flag value => some value
  | .lenient, .number isZero => some !isZero
  | .lenient, .text value =>
    if lowercase value ∈ trueWords then some true
    else if lowercase value ∈ falseWords then some false
    else none
  | _, _ => none

/-- What a section says under a name, or `missing` if it says nothing there; in
a list the item at `place` is the one that is meant. -/
def field? {α : Type} (tolerance : Tolerance) (name : String) (place : Nat)
    (read : Document → Option α) (missing : α) : Document → Option α
  | .table entries =>
    match lookup name.toList entries with
    | some value => read value
    | none => some missing
  | .list items =>
    match tolerance, items[place]? with
    | .strict, _ => none
    | .lenient, some value => read value
    | .lenient, none => some missing
  | _ => none

end Document

/-- The marker in the section on reading queries. -/
def markerOf? (tolerance : Tolerance) (document : Document) : Option Char :=
  document.field? tolerance "wildcard" 0 Document.character? '*'

/-- The matching section. -/
def Matching.ofDocument? (tolerance : Tolerance) (document : Document) : Option Matching := do
  let truth? := Document.truth? tolerance
  let caseSensitive ← document.field? tolerance "case_sensitive" 0 truth? true
  let emptyMatchesAll ← document.field? tolerance "empty_matches_all" 1 truth? true
  some ⟨caseSensitive, emptyMatchesAll⟩

/-- The settings of a document. -/
def Settings.ofDocument? (tolerance : Tolerance) (document : Document) : Option Settings := do
  let marker ← document.field? tolerance "parser" 0 (markerOf? tolerance) '*'
  let matching ← document.field? tolerance "matching" 1 (Matching.ofDocument? tolerance) {}
  some ⟨marker, matching⟩

/-- The checked settings of a document. -/
def Settings.ofDocument (tolerance : Tolerance) (document : Document) :
    Except SettingsFailure Settings :=
  match Settings.ofDocument? tolerance document with
  | some settings => settings.checked
  | none => .error .wrongValue

/-- The reader for the documents whose file names end so. -/
def documentReader? (extension : Text) : Option (Text → Option Document) :=
  if extension ∈ ["yaml".toList, "yml".toList] then some readYaml
  else if extension = "toml".toList then some readToml
  else if extension = "json".toList then some readJson
  else none

/-- The text without the mark of byte order that it may begin with. -/
def skipOrderMark : Text → Text
  | '\ufeff' :: rest => rest
  | text => text

/-- The settings in the document with this content, if there is one, in the
format of the extension. -/
def loadSettings (extension : Text) (content : Option Text) : Except SettingsFailure Settings :=
  match content, documentReader? extension with
  | none, _ => .error .missing
  | some _, none => .error .unreadable
  | some content, some read =>
    match (read (skipOrderMark content)).bind Document.withPaths? with
    | some document => Settings.ofDocument .lenient document
    | none => .error .unreadable

end TagFilter
