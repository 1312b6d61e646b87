import TagFilter.Query

/-!
# The tags a query mentions

The plain tags of a query, at any depth, as a strictly ascending list: by code
point, each name once.  Globs mention no tag.
-/

namespace TagFilter

/-- Adds a name to a strictly ascending list, unless it is there. -/
def insertName (name : Text) : List Text → List Text
  | [] => [name]
  | head :: rest =>
    if name < head then name :: head :: rest
    else if name = head then head :: rest
    else head :: insertName name rest

namespace Query

mutual

/-- The names at the tags of a query, from left to right. -/
def tagNames : Query → List Text
  | .empty | .glob _ => []
  | .tag name => [name]
  | .all operands | .any operands => tagNamesOfList operands
  | .negation operand => operand.tagNames

/-- The names at the tags of some queries, from left to right. -/
def tagNamesOfList : List Query → List Text
  | [] => []
  | query :: queries => query.tagNames ++ tagNamesOfList queries

end

/-- Adds what a query mentions to names collected before. -/
def collect (query : Query) (names : List Text) : List Text :=
  query.tagNames.foldl (fun collected name => insertName name collected) names

/-- The tags a query mentions, ascending. -/
def mentions (query : Query) : List Text := query.collect []

end Query

end TagFilter
