import TagFilter.Document

/-!
# Paths into a document

A name at the top of a settings document may be a path: names with points
between them, and places in lists, between brackets and counted from the front
or, below zero, from the back.  What stands on the way to a path is made to fit:
a table where a name follows, and a long enough list where a place does.

A table given to a path adds its entries to the table that is there.
-/

namespace TagFilter

/-- One step of a path. -/
inductive PathStep where
  /-- To the value of a name. -/
  | name (name : Text)
  /-- To the item at a place. -/
  | place (place : Int)
  deriving DecidableEq, Repr

/-! ## Reading paths -/

/-- Whether the character may stand in a name of a path. -/
def isPathChar (c : Char) : Bool := c.isAlphanum || c = '_' || c = '-'

/-- Reads a name. -/
def readPathName (text : Text) : Option (PathStep × Text) :=
  match text.takeWhile isPathChar with
  | [] => none
  | name => some (.name name, text.dropWhile isPathChar)

/-- The integer of 64 bits at the start of a text, and the rest. -/
def readPlace (text : Text) : Option (Int × Text) :=
  let (isNegative, digits) := match text with
    | '-' :: rest => (true, rest)
    | _ => (false, text)
  (numberOfDigits? 10 (digits.takeWhile isDigit)).bind fun value =>
    let rest := digits.dropWhile isDigit
    if isNegative then if value ≤ Nat.pow 2 63 then some (-value, rest) else none
    else if value < Nat.pow 2 63 then some (value, rest)
    else none

/-- Reads a place behind its opening bracket, and the closing one. -/
def readPathPlace (text : Text) : Option (PathStep × Text) :=
  let isSpace (c : Char) : Bool := c = ' ' || c = '\t'
  match readPlace (text.dropWhile isSpace) with
  | none => none
  | some (place, rest) =>
    match rest.dropWhile isSpace with
    | ']' :: rest => some (.place place, rest)
    | _ => none

/-- Reads the steps that are left; `fuel` bounds their number. -/
def readPathSteps (fuel : Nat) (text : Text) : Option (List PathStep) :=
  let step := match text with
    | '.' :: rest => readPathName rest
    | '[' :: rest => readPathPlace rest
    | _ => none
  match fuel, text, step with
  | _, [], _ => some []
  | fuel + 1, _, some (step, rest) => (readPathSteps fuel rest).map (step :: ·)
  | _, _, _ => none

/-- The path that a name is, if it is one, and else the path of that one name. -/
def pathOf (name : Text) : List PathStep :=
  let steps : Option (List PathStep) := do
    let (first, rest) ← readPathName name
    (readPathSteps rest.length rest).map (first :: ·)
  steps.getD [.name name]

/-! ## Giving values to paths -/

namespace Document

/-- The entries of a table; a value of another kind has none. -/
def entries : Document → List (Text × Document)
  | .table entries => entries
  | _ => []

/-- The items of a list; a value of another kind has none. -/
def items : Document → List Document
  | .list items => items
  | _ => []

mutual

/-- The value `old` after it was given a new one. -/
def merge : Document → Document → Document
  | .table added, .null => mergeEntries added (.table [])
  | .table added, old => mergeEntries added old
  | value, _ => value

/-- The value `old` after its names were given new values. -/
def mergeEntries : List (Text × Document) → Document → Document
  | [], old => old
  | entry :: added, old =>
    let value := mergeEntry entry ((lookup entry.1 old.entries).getD .null)
    mergeEntries added (.table (assign entry.1 value old.entries))

/-- The value `old` of a name after the name was given a new one. -/
def mergeEntry : Text × Document → Document → Document
  | (_, value), old => value.merge old

end

/-- The list and the index in it that a place stands for, where the list is made
longer by nulls so far as that is needed. -/
def reach (place : Int) (items : List Document) : List Document × Nat :=
  if 0 ≤ place then
    (items ++ List.replicate (place.toNat + 1 - items.length) .null, place.toNat)
  else
    let back := (-place).toNat
    (List.replicate (back - items.length) .null ++ items, items.length - back)

/-- The value `old` after a path in it was given a value. -/
def assignPath : List PathStep → Document → Document → Document
  | [], value, old => value.merge old
  | .name name :: path, value, old =>
    let inner := (lookup name old.entries).getD .null
    .table (assign name (assignPath path value inner) old.entries)
  | .place place :: path, value, old =>
    let (items, index) := reach place old.items
    .list (items.modify index (assignPath path value))

/-- A document that is a table, with each of its names taken for a path. -/
def withPaths? : Document → Option Document
  | .table entries =>
    some (entries.foldl (fun all entry => assignPath (pathOf entry.1) entry.2 all) (.table []))
  | _ => none

end Document

end TagFilter
