import TagFilter.Scan

/-!
# Failures

Why a filter or a tag list cannot be read, and where: at an open quote, or at
the token that the grammar cannot accept.
-/

namespace TagFilter

/-- What is wrong with a token where it stands. -/
inductive Complaint where
  /-- A parenthesis without its partner. -/
  | unbalancedParenthesis
  /-- A pair of parentheses with nothing inside. -/
  | emptyGroup
  /-- A token, or the end, that the grammar does not have here. -/
  | unexpectedToken
  /-- A marker where only plain tags may stand. -/
  | unexpectedWildcard
  deriving DecidableEq, Repr

/-- The words for a complaint in a message. -/
def Complaint.phrase : Complaint → String
  | .unbalancedParenthesis => "unbalanced parenthesis"
  | .emptyGroup => "empty group"
  | .unexpectedToken => "unexpected token"
  | .unexpectedWildcard => "unexpected wildcard"

/-- Why an input cannot be read. -/
inductive Failure where
  /-- The quote after `offset` characters is never closed. -/
  | openQuote (offset : Nat)
  /-- A complaint about the token after `offset` characters; the end of the
  input is a token without text. -/
  | grammar (complaint : Complaint) (offset : Nat) (value : Text)
  deriving DecidableEq, Repr

/-- A complaint about a token. -/
def Complaint.about (complaint : Complaint) (token : Token) : Failure :=
  .grammar complaint token.start token.value

/-- How many characters stand before the place a failure points at. -/
def Failure.offset : Failure → Nat
  | .openQuote offset => offset
  | .grammar _ offset _ => offset

/-- The message for a failure. -/
def Failure.message : Failure → String
  | .openQuote offset => "column " ++ toString offset ++ ": unterminated quoted string"
  | .grammar complaint offset value =>
    "column " ++ toString offset ++ ": " ++ complaint.phrase ++ " '" ++ String.ofList value ++ "'"

end TagFilter
