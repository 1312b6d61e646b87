import TagFilter.Query
import TagFilter.Token

/-!
# The canonical text of a query

Connectives are written in capitals, and parentheses stand only where the grammar
needs them.  A name is quoted if it is empty, a keyword, or has a character in it
that means something to the scanner, also where a word could go on with that
character.  A connective with one operand is written as that operand.
-/

namespace TagFilter

/-- Whether a name is written in quotes. -/
def needsQuotes (name : Text) : Bool :=
  name.isEmpty || (keyword? name).isSome || name.any isReserved

/-- A name as it is written. -/
def writeName (name : Text) : Text := if needsQuotes name then enclose '"' name else name

/-- What an operand is an operand of. -/
inductive Around where
  | all
  | any
  | negation
  deriving DecidableEq, Repr

/-- Puts a text in parentheses. -/
def parenthesize (text : Text) : Text := '(' :: text ++ [')']

/-- The texts with ` AND ` between them. -/
def joinAnd (texts : List Text) : Text := [' ', 'A', 'N', 'D', ' '].intercalate texts

/-- The texts with ` OR ` between them. -/
def joinOr (texts : List Text) : Text := [' ', 'O', 'R', ' '].intercalate texts

/-- The text of a negation. -/
def writeNot (text : Text) : Text := ['N', 'O', 'T', ' '] ++ text

namespace Query

mutual

/-- The text of a query as an operand. -/
def writeOperand (marker : Char) (around : Around) : Query → Text
  | .empty => []
  | .tag name => writeName name
  | .glob g => writeName (g.toText marker)
  | .negation operand => writeNot (operand.writeOperand marker .negation)
  | .all [operand] | .any [operand] => operand.writeOperand marker around
  | .all operands =>
    let text := joinAnd (writeOperands marker .all operands)
    if around = .negation then parenthesize text else text
  | .any operands =>
    let text := joinOr (writeOperands marker .any operands)
    if around = .any then text else parenthesize text

/-- The texts of the operands of one connective. -/
def writeOperands (marker : Char) (around : Around) : List Query → List Text
  | [] => []
  | operand :: operands =>
    operand.writeOperand marker around :: writeOperands marker around operands

end

/-- The text of a whole query.  The root is written as the connective it is:
its operands stand as operands of it even where there is only one. -/
def write (marker : Char) : Query → Text
  | .all operands => joinAnd (writeOperands marker .all operands)
  | .any operands => joinOr (writeOperands marker .any operands)
  | query => query.writeOperand marker .any

end Query

end TagFilter
