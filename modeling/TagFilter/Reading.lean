import TagFilter.Failure
import TagFilter.Query

/-!
# Reading a filter

The grammar, loosest connective first:

    disjunction = conjunction (OR conjunction)*
    conjunction = unary (AND unary)*
    unary       = NOT unary | primary
    primary     = ( disjunction ) | name | wildcard

and an empty input is a filter too.  Connectives are never implied.

The reader takes one token after the other and never goes back.  What it has
read so far is a `Progress`: for the innermost open group the operands that are
complete, and for each group around it the same and its opening parenthesis.
Each token either leads to a further progress or is the place where the reading
fails, so a failure never depends on what follows it.
-/

namespace TagFilter

/-- What has been read of one group. -/
structure Level where
  /-- The complete operands of its disjunction. -/
  disjuncts : List Query
  /-- The complete operands of the conjunction being read. -/
  conjuncts : List Query
  /-- How many negations wait for the next operand. -/
  nots : Nat
  deriving DecidableEq, Repr

namespace Level

/-- A group of which nothing has been read. -/
def fresh : Level := ⟨[], [], 0⟩

/-- The level after one more negation. -/
def withNot (level : Level) : Level := { level with nots := level.nots + 1 }

/-- The level after an operand, which the waiting negations apply to. -/
def withOperand (level : Level) (operand : Query) : Level :=
  { level with conjuncts := level.conjuncts ++ [operand.negated level.nots], nots := 0 }

/-- The level after the connective of disjunction. -/
def withOr (level : Level) : Level :=
  { level with disjuncts := level.disjuncts ++ [.conjunction level.conjuncts], conjuncts := [] }

/-- The query of a level that ends behind an operand. -/
def query (level : Level) : Query := .disjunction level.withOr.disjuncts

end Level

/-- An open group: its parenthesis, and what was read around it before that. -/
structure Group where
  opening : Token
  /-- The level that the group will be an operand of. -/
  outer : Level
  deriving DecidableEq, Repr

/-- What the reader has just passed. -/
inductive Passed where
  | nothing
  /-- The parenthesis that opens a group. -/
  | opening
  | operator
  /-- An operand: a leaf, or a whole group. -/
  | operand
  deriving DecidableEq, Repr

/-- How far a reading has come. -/
structure Progress where
  /-- The open groups, innermost first. -/
  groups : List Group
  /-- What has been read of the innermost group, or outside all groups. -/
  level : Level
  passed : Passed
  deriving DecidableEq, Repr

namespace Progress

/-- A reading at its start. -/
def start : Progress := ⟨[], .fresh, .nothing⟩

/-- The progress after a leaf or a whole group. -/
def withOperand (progress : Progress) (operand : Query) : Progress :=
  { progress with level := progress.level.withOperand operand, passed := .operand }

/-- The progress after an opening parenthesis. -/
def opened (progress : Progress) (opening : Token) : Progress :=
  ⟨⟨opening, progress.level⟩ :: progress.groups, .fresh, .opening⟩

/-- Reads a token where an operand has to begin. -/
def takeOperand (marker : Char) (progress : Progress) (token : Token) : Except Failure Progress :=
  match token.kind with
  | .text =>
    if token.value = [] then .error (Complaint.unexpectedToken.about token)
    else .ok (progress.withOperand (.leaf marker token.value))
  | .wildcard => .ok (progress.withOperand (.glob (.ofText marker token.value)))
  | .not => .ok { progress with level := progress.level.withNot, passed := .operator }
  | .opening => .ok (progress.opened token)
  | .closing =>
    match progress.groups with
    | [] => .error (Complaint.unbalancedParenthesis.about token)
    | group :: _ =>
      if progress.passed = .opening then .error (Complaint.emptyGroup.about group.opening)
      else .error (Complaint.unexpectedToken.about token)
  | .and | .or => .error (Complaint.unexpectedToken.about token)

/-- Reads a token behind an operand. -/
def takeOperator (progress : Progress) (token : Token) : Except Failure Progress :=
  match token.kind with
  | .and => .ok { progress with passed := .operator }
  | .or => .ok { progress with level := progress.level.withOr, passed := .operator }
  | .closing =>
    match progress.groups with
    | [] => .error (Complaint.unbalancedParenthesis.about token)
    | group :: groups =>
      .ok ⟨groups, group.outer.withOperand progress.level.query, .operand⟩
  | .text | .wildcard | .not | .opening => .error (Complaint.unexpectedToken.about token)

/-- Reads one token. -/
def take (marker : Char) (progress : Progress) (token : Token) : Except Failure Progress :=
  if progress.passed = .operand then progress.takeOperator token
  else progress.takeOperand marker token

/-- The query, if the input may end here. -/
def finish (progress : Progress) : Ending → Except Failure Query
  | .openQuote offset => .error (.openQuote offset)
  | .done offset =>
    match progress.passed, progress.groups with
    | .nothing, _ => .ok .empty
    | .operand, [] => .ok progress.level.query
    | .operand, group :: _ => .error (Complaint.unbalancedParenthesis.about group.opening)
    | .opening, _ | .operator, _ => .error (.grammar .unexpectedToken offset [])

end Progress

/-- What came of a reading. -/
structure Reading where
  /-- The query, or why there is none. -/
  result : Except Failure Query
  /-- How many elements of the stream were looked at: tokens, and the ending. -/
  pulls : Nat

/-- Reads the tokens that follow, up to the first failure. -/
def Progress.read (marker : Char) (progress : Progress) : List Token → Ending → Reading
  | [], ending => ⟨progress.finish ending, 1⟩
  | token :: tokens, ending =>
    match progress.take marker token with
    | .error failure => ⟨.error failure, 1⟩
    | .ok further =>
      let reading := further.read marker tokens ending
      { reading with pulls := reading.pulls + 1 }

/-- Reads a whole input. -/
def reading (marker : Char) (input : Text) : Reading :=
  Progress.start.read marker (tokens marker input).tokens (tokens marker input).ending

/-- The query that an input is the text of, or why it is not the text of one. -/
def parse (marker : Char) (input : Text) : Except Failure Query := (reading marker input).result

end TagFilter
