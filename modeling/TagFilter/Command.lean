import TagFilter.Canonical
import TagFilter.Mentions
import TagFilter.Reading
import TagFilter.Settings
import TagFilter.TagList

/-!
# Commands

What can be done with the text of a filter from outside: match it, write it in
its canonical form, list the tags it mentions; and split a tag list.
-/

namespace TagFilter

/-- A command with its operands. -/
inductive Command where
  /-- Whether a filter holds of an item with these tags. -/
  | holds (expression : Text) (tags : List Text)
  /-- The canonical text of a filter. -/
  | write (expression : Text)
  /-- The tags that a filter mentions. -/
  | mentions (expression : Text)
  /-- The tags in a tag list. -/
  | list (input : Text)
  deriving DecidableEq, Repr

/-- What a command prints, and whether it counts as a success. -/
structure Outcome where
  lines : List Text
  success : Bool
  deriving DecidableEq, Repr

/-- Why a command cannot be carried out. -/
inductive CommandFailure where
  /-- Its filter cannot be read. -/
  | expression (text : Text) (failure : Failure)
  /-- Its tag list cannot be read. -/
  | tagList (text : Text) (failure : Failure)
  deriving DecidableEq, Repr

namespace CommandFailure

/-- What could not be done. -/
def heading : CommandFailure → String
  | .expression text _ => "Query: Failed to parse " ++ String.ofList (quoteText text)
  | .tagList text _ => "Query: Failed to parse tag list " ++ String.ofList (quoteText text)

/-- Why it could not be done. -/
def cause : CommandFailure → Failure
  | .expression _ failure | .tagList _ failure => failure

/-- What could not be done and why, on one line. -/
def message (failure : CommandFailure) : String :=
  failure.heading ++ ": " ++ failure.cause.message

end CommandFailure

/-- The word for a truth value. -/
def truthWord (value : Bool) : Text :=
  if value then ['t', 'r', 'u', 'e'] else ['f', 'a', 'l', 's', 'e']

namespace Command

/-- What `print` makes of the query of a filter. -/
def withQuery (settings : Settings) (expression : Text) (print : Query → Outcome) :
    Except CommandFailure Outcome :=
  match parse settings.marker expression with
  | .ok query => .ok (print query)
  | .error failure => .error (.expression expression failure)

/-- Carries out a command. -/
def run (settings : Settings) : Command → Except CommandFailure Outcome
  | .holds expression tags =>
    withQuery settings expression fun query =>
      let holds := query.holds settings.matching tags
      ⟨[truthWord holds], holds⟩
  | .write expression =>
    withQuery settings expression fun query => ⟨[query.write settings.marker], true⟩
  | .mentions expression => withQuery settings expression fun query => ⟨query.mentions, true⟩
  | .list input =>
    match parseTagList settings.marker input with
    | .ok names => .ok ⟨names, true⟩
    | .error failure => .error (.tagList input failure)

end Command

end TagFilter
