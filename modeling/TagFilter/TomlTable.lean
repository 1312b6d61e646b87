import TagFilter.Document

/-!
# The tables of TOML

A table comes into being on the way to a header, by a header of its own, on the
way of a dotted key, or as one of the tables that a name has in order.  Where it
came from says what may still be added to it: a table has at most one header,
and a dotted key adds to no table that has one.  A value is never added to.

Every change is made at the end of a path of names (`alterToml`).
-/

namespace TagFilter

/-- How a table came into being. -/
inductive TomlOrigin where
  /-- On the way to a header. -/
  | implied
  /-- By a header of its own. -/
  | header
  /-- On the way of a dotted key. -/
  | dotted
  deriving DecidableEq, Repr

/-- What stands under a name. -/
inductive TomlItem where
  /-- A value; nothing can be added to it. -/
  | value (value : Document)
  | table (origin : TomlOrigin) (entries : List (Text × TomlItem))
  /-- Tables in order, of which only the last can be added to. -/
  | tables (earlier : List Document) (last : List (Text × TomlItem))
  deriving Inhabited

/-- Values and tables by name. -/
abbrev TomlEntries := List (Text × TomlItem)

mutual

/-- The document that an item stands for. -/
def TomlItem.document : TomlItem → Document
  | .value value => value
  | .table _ entries => .table (tomlDocuments entries)
  | .tables earlier last => .list (earlier ++ [.table (tomlDocuments last)])

/-- The documents of some entries, by the same names. -/
def tomlDocuments : List (Text × TomlItem) → List (Text × Document)
  | [] => []
  | entry :: entries => tomlDocument entry :: tomlDocuments entries

/-- The document of an entry, by the same name. -/
def tomlDocument : Text × TomlItem → Text × Document
  | (name, item) => (name, item.document)

end

/-- The entries after a change to the table at the end of a path.  Tables that
are missing on the way are made, and come into being by `way`; a dotted key goes
through no table with a header and ends in none of several tables. -/
def alterToml (way : TomlOrigin) (change : TomlEntries → Option TomlEntries) :
    List Text → TomlEntries → Option TomlEntries
  | [], entries => change entries
  | name :: path, entries =>
    match lookup name entries with
    | none =>
      (alterToml way change path []).map fun inner => assign name (.table way inner) entries
    | some (.table origin inner) =>
      if way = .dotted && origin = .header then none
      else
        (alterToml way change path inner).map
          fun inner => assign name (.table origin inner) entries
    | some (.tables earlier last) =>
      if way = .dotted && path = [] then none
      else
        (alterToml way change path last).map
          fun last => assign name (.tables earlier last) entries
    | some (.value _) => none

/-- Gives a new name its value. -/
def addTomlValue (name : Text) (value : Document) (entries : TomlEntries) : Option TomlEntries :=
  match lookup name entries with
  | none => some (assign name (.value value) entries)
  | some _ => none

/-- Gives a table its header. -/
def openTomlTable (name : Text) (entries : TomlEntries) : Option TomlEntries :=
  match lookup name entries with
  | none => some (assign name (.table .header []) entries)
  | some (.table .implied inner) => some (assign name (.table .header inner) entries)
  | some _ => none

/-- Begins the next of the tables that a name has in order. -/
def pushTomlTable (name : Text) (entries : TomlEntries) : Option TomlEntries :=
  match lookup name entries with
  | none => some (assign name (.tables [] []) entries)
  | some (.tables earlier last) =>
    some (assign name (.tables (earlier ++ [.table (tomlDocuments last)]) []) entries)
  | some _ => none

end TagFilter
