import TagFilter.Failure
import TagFilter.Query

/-!
# Tag lists

A plain list of tags: names with blanks between them, quoted where that is
needed, and nothing else.
-/

namespace TagFilter

/-- The name that a token of a tag list is. -/
def Token.plainName (marker : Char) (token : Token) : Except Failure Text :=
  match token.kind with
  | .wildcard => .error (Complaint.unexpectedWildcard.about token)
  | .text =>
    if marker ∈ token.value then .error (Complaint.unexpectedWildcard.about token)
    else if token.value = [] then .error (Complaint.unexpectedToken.about token)
    else .ok token.value
  | .and | .or | .not | .opening | .closing => .error (Complaint.unexpectedToken.about token)

/-- The names that a stream lists, or the first failure in it. -/
def plainNames (marker : Char) : List Token → Ending → Except Failure (List Text)
  | [], .done _ => .ok []
  | [], .openQuote offset => .error (.openQuote offset)
  | token :: tokens, ending =>
    match token.plainName marker with
    | .error failure => .error failure
    | .ok name =>
      match plainNames marker tokens ending with
      | .error failure => .error failure
      | .ok names => .ok (name :: names)

/-- The names in a tag list, in order. -/
def parseTagList (marker : Char) (input : Text) : Except Failure (List Text) :=
  plainNames marker (tokens marker input).tokens (tokens marker input).ending

/-- The query that holds where all of the tags are. -/
def Query.ofTags : List Text → Query
  | [] => .empty
  | names => .conjunction (names.map .tag)

/-- The query that a tag list stands for. -/
def parseTags (marker : Char) (input : Text) : Except Failure Query :=
  (parseTagList marker input).map .ofTags

end TagFilter
