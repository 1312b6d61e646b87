import TagFilter.Proofs.Flattening
import TagFilter.Proofs.Scanning
import TagFilter.Reading

/-!
# Reading a filter by recursive descent

The grammar can be read by procedures that call each other, one for each of its rules.
They share a scan and the one element of it that they decide by, the lookahead.  `Runs`
says what each of them does from where it is called, with a log of the calls and of the
pulls from the scan, and `Descends` what they do to a whole input.

A loop over the operands of a chain is no call: the procedure has the same task again, with
one more operand that is complete.  That every procedure comes to an end is not part of the
rules but follows from them (`settles`).
-/

namespace TagFilter

variable {marker : Char}

/-! ## The lookahead -/

/-- The element that a descent decides by. -/
inductive Lookahead where
  | found (token : Token)
  /-- The end of an input that is used up. -/
  | done (offset : Nat)
  deriving DecidableEq, Repr

/-- The pull that gave it. -/
def Lookahead.pulled : Lookahead → Pulled
  | .found token => .token token
  | .done offset => .ending (.done offset)

namespace Pulled

/-- The kind of a token. -/
def kind? : Pulled → Option Kind
  | .token found => some found.kind
  | .ending _ => none

/-- What a descent goes on with, unless an open quote stops it. -/
def lookahead : Pulled → Except Failure Lookahead
  | .token found => .ok (.found found)
  | .ending (.done offset) => .ok (.done offset)
  | .ending (.openQuote offset) => .error (.openQuote offset)

/-- What was pulled can be looked at if it is no open quote. -/
theorem lookahead_eq_ok_iff {element : Pulled} {current : Lookahead} :
    element.lookahead = .ok current ↔ element = current.pulled := by
  cases current <;> rcases element with token | offset | offset <;>
    simp [lookahead, Lookahead.pulled]

/-- An open quote ends the descent where it is pulled. -/
theorem lookahead_eq_error_iff {element : Pulled} {failure : Failure} :
    element.lookahead = .error failure ↔
      ∃ offset, element = .ending (.openQuote offset) ∧ failure = .openQuote offset := by
  rcases element with token | offset | offset <;> simp [lookahead, eq_comm]

end Pulled

/-- Where a descent is. -/
structure Reader where
  current : Lookahead
  /-- The place behind the lookahead. -/
  scan : Scan
  /-- How many groups are open. -/
  depth : Nat
  deriving DecidableEq, Repr

namespace Reader

/-- Pulls once, to go on with what comes. -/
def load (scan : Scan) (depth : Nat) : Except Failure Reader :=
  scan.pull.1.lookahead.map fun current => ⟨current, scan.pull.2, depth⟩

/-- Passes over the lookahead. -/
def advance (reader : Reader) : Except Failure Reader := load reader.scan reader.depth

/-- What the next pull gives. -/
def next (reader : Reader) : Pulled := reader.scan.pull.1

/-- The kind of the lookahead, if it is a token. -/
def kind? (reader : Reader) : Option Kind := reader.current.pulled.kind?

/-- The reader in one more group. -/
def deeper (reader : Reader) : Reader := { reader with depth := reader.depth + 1 }

/-- The reader in one group less. -/
def shallower (reader : Reader) : Reader := { reader with depth := reader.depth - 1 }

/-- The failure where the lookahead cannot begin an operand. -/
def refusal (reader : Reader) : Failure :=
  match reader.current with
  | .found token =>
    if token.kind = .closing ∧ reader.depth = 0 then Complaint.unbalancedParenthesis.about token
    else Complaint.unexpectedToken.about token
  | .done offset => .grammar .unexpectedToken offset []

/-- The failure where the lookahead does not close the group that is open. -/
def unclosed (reader : Reader) (opening : Token) : Failure :=
  match reader.current with
  | .found token => Complaint.unexpectedToken.about token
  | .done _ => Complaint.unbalancedParenthesis.about opening

/-- What comes of a whole input, with its query in front of the lookahead. -/
def finish (reader : Reader) (query : Query) : Except Failure Query :=
  match reader.current with
  | .found token =>
    .error (if token.kind = .closing then Complaint.unbalancedParenthesis.about token
      else Complaint.unexpectedToken.about token)
  | .done _ => .ok query

/-- The lookahead and all that comes behind it. -/
def stream (reader : Reader) : Stream :=
  match reader.current with
  | .found token => reader.scan.stream.prepend [token]
  | .done offset => ⟨[], .done offset⟩

end Reader

/-! ## The procedures -/

namespace Connective

/-- The kind of the keyword between the operands. -/
def kind : Connective → Kind
  | .all => .and
  | .any => .or

end Connective

/-- The procedures of a descent, one for each rule of the grammar.  Calls of one that
are made for different reasons are told apart. -/
inductive Procedure where
  /-- Operands with one connective between them. -/
  | chain (connective : Connective)
  /-- An operand with the negations in front of it, which may itself stand behind one. -/
  | unary (negated : Bool)
  | primary
  | group
  deriving DecidableEq, Repr

/-- What a procedure has still to do. -/
inductive Task where
  /-- The next operand is due, behind some that are complete. -/
  | chain (connective : Connective) (operands : List Query)
  | unary
  | primary
  | group
  deriving DecidableEq, Repr

/-- What a procedure has to do when it is called. -/
def Procedure.task : Procedure → Task
  | .chain connective => .chain connective []
  | .unary _ => .unary
  | .primary => .primary
  | .group => .group

/-- The procedure that reads one operand of a chain. -/
def Connective.operand : Connective → Procedure
  | .all => .unary false
  | .any => .chain .all

/-- The query of a token that is an operand by itself. -/
def Token.leaf? (marker : Char) (token : Token) : Option Query :=
  match token.kind with
  | .text => if token.value = [] then none else some (.leaf marker token.value)
  | .wildcard => some (.glob (.ofText marker token.value))
  | .and | .or | .not | .opening | .closing => none

/-- What can be seen of a descent. -/
inductive Event where
  /-- A call, with all calls that are active then, the new one first. -/
  | called (active : List Procedure)
  | pulled (element : Pulled)
  deriving DecidableEq, Repr

/-- The element of a pull. -/
def Event.pulled? : Event → Option Pulled
  | .called _ => none
  | .pulled element => some element

/-- What was pulled, in order. -/
def pulls (log : List Event) : List Pulled := log.filterMap Event.pulled?

/-- What a procedure comes back with: a query and the reader behind it, or a failure. -/
abbrev Return : Type := Except Failure (Query × Reader)

/-- What the running procedure does, `active` being the calls that are active, its own
first: the events of it, and what it comes back with. -/
inductive Runs (marker : Char) : List Procedure → Task → Reader → List Event → Return → Prop
  | chainFailed {active : List Procedure} {connective : Connective} {operands : List Query}
      {reader : Reader} {log : List Event} {failure : Failure}
      (operand : Runs marker (connective.operand :: active) connective.operand.task reader log
        (.error failure)) :
      Runs marker active (.chain connective operands) reader
        (.called (connective.operand :: active) :: log) (.error failure)
  /-- No keyword follows, so the operand was the last. -/
  | chainLast {active : List Procedure} {connective : Connective} {operands : List Query}
      {reader after : Reader} {log : List Event} {query : Query}
      (operand : Runs marker (connective.operand :: active) connective.operand.task reader log
        (.ok (query, after)))
      (last : after.kind? ≠ some connective.kind) :
      Runs marker active (.chain connective operands) reader
        (.called (connective.operand :: active) :: log)
        (.ok (connective.combine (operands ++ [query]), after))
  | chainStopped {active : List Procedure} {connective : Connective} {operands : List Query}
      {reader after : Reader} {log : List Event} {query : Query} {failure : Failure}
      (operand : Runs marker (connective.operand :: active) connective.operand.task reader log
        (.ok (query, after)))
      (more : after.kind? = some connective.kind) (stopped : after.advance = .error failure) :
      Runs marker active (.chain connective operands) reader
        (.called (connective.operand :: active) :: (log ++ [.pulled after.next])) (.error failure)
  | chainMore {active : List Procedure} {connective : Connective} {operands : List Query}
      {reader after further : Reader} {log later : List Event} {query : Query} {outcome : Return}
      (operand : Runs marker (connective.operand :: active) connective.operand.task reader log
        (.ok (query, after)))
      (more : after.kind? = some connective.kind) (advanced : after.advance = .ok further)
      (rest : Runs marker active (.chain connective (operands ++ [query])) further later outcome) :
      Runs marker active (.chain connective operands) reader
        (.called (connective.operand :: active) :: (log ++ .pulled after.next :: later)) outcome
  | unaryPrimary {active : List Procedure} {reader : Reader} {log : List Event}
      {outcome : Return} (plain : reader.kind? ≠ some .not)
      (operand : Runs marker (.primary :: active) .primary reader log outcome) :
      Runs marker active .unary reader (.called (.primary :: active) :: log) outcome
  | unaryStopped {active : List Procedure} {reader : Reader} {failure : Failure}
      (not : reader.kind? = some .not) (stopped : reader.advance = .error failure) :
      Runs marker active .unary reader [.pulled reader.next] (.error failure)
  | unaryNot {active : List Procedure} {reader further : Reader} {log : List Event}
      {outcome : Return} (not : reader.kind? = some .not) (advanced : reader.advance = .ok further)
      (operand : Runs marker (.unary true :: active) .unary further log outcome) :
      Runs marker active .unary reader
        (.pulled reader.next :: .called (.unary true :: active) :: log)
        (outcome.map fun (query, after) => (query.negation, after))
  | primaryLeaf {active : List Procedure} {reader : Reader} {token : Token} {query : Query}
      (current : reader.current = .found token) (leaf : token.leaf? marker = some query) :
      Runs marker active .primary reader [.pulled reader.next]
        (reader.advance.map fun after => (query, after))
  | primaryGroup {active : List Procedure} {reader : Reader} {log : List Event}
      {outcome : Return} (opening : reader.kind? = some .opening)
      (group : Runs marker (.group :: active) .group reader log outcome) :
      Runs marker active .primary reader (.called (.group :: active) :: log) outcome
  | primaryRefused {active : List Procedure} {reader : Reader}
      (opening : reader.kind? ≠ some .opening)
      (leaf : ∀ token, reader.current = .found token → token.leaf? marker = none) :
      Runs marker active .primary reader [] (.error reader.refusal)
  | groupStopped {active : List Procedure} {reader : Reader} {opening : Token} {failure : Failure}
      (current : reader.current = .found opening) (kind : opening.kind = .opening)
      (stopped : reader.advance = .error failure) :
      Runs marker active .group reader [.pulled reader.next] (.error failure)
  | groupEmpty {active : List Procedure} {reader further : Reader} {opening : Token}
      (current : reader.current = .found opening) (kind : opening.kind = .opening)
      (advanced : reader.advance = .ok further) (closing : further.kind? = some .closing) :
      Runs marker active .group reader [.pulled reader.next]
        (.error (Complaint.emptyGroup.about opening))
  | groupFailed {active : List Procedure} {reader further : Reader} {opening : Token}
      {log : List Event} {failure : Failure}
      (current : reader.current = .found opening) (kind : opening.kind = .opening)
      (advanced : reader.advance = .ok further) (closing : further.kind? ≠ some .closing)
      (inside : Runs marker (.chain .any :: active) (.chain .any []) further.deeper log
        (.error failure)) :
      Runs marker active .group reader
        (.pulled reader.next :: .called (.chain .any :: active) :: log) (.error failure)
  | groupClosed {active : List Procedure} {reader further last : Reader} {opening : Token}
      {log : List Event} {query : Query}
      (current : reader.current = .found opening) (kind : opening.kind = .opening)
      (advanced : reader.advance = .ok further) (closing : further.kind? ≠ some .closing)
      (inside : Runs marker (.chain .any :: active) (.chain .any []) further.deeper log
        (.ok (query, last)))
      (closed : last.kind? = some .closing) :
      Runs marker active .group reader
        (.pulled reader.next :: .called (.chain .any :: active) :: (log ++ [.pulled last.next]))
        (last.shallower.advance.map fun after => (query, after))
  | groupUnclosed {active : List Procedure} {reader further last : Reader} {opening : Token}
      {log : List Event} {query : Query}
      (current : reader.current = .found opening) (kind : opening.kind = .opening)
      (advanced : reader.advance = .ok further) (closing : further.kind? ≠ some .closing)
      (inside : Runs marker (.chain .any :: active) (.chain .any []) further.deeper log
        (.ok (query, last)))
      (closed : last.kind? ≠ some .closing) :
      Runs marker active .group reader
        (.pulled reader.next :: .called (.chain .any :: active) :: log)
        (.error (last.unclosed opening))

/-- What a descent on a whole input does, and what comes of it. -/
inductive Descends (marker : Char) (input : Text) : List Event → Except Failure Query → Prop
  | stopped {failure : Failure} (stopped : Reader.load (.start marker input) 0 = .error failure) :
      Descends marker input [.pulled (Scan.start marker input).pull.1] (.error failure)
  | empty {reader : Reader} (loaded : Reader.load (.start marker input) 0 = .ok reader)
      (blank : reader.kind? = none) :
      Descends marker input [.pulled (Scan.start marker input).pull.1] (.ok .empty)
  | read {reader : Reader} {log : List Event} {outcome : Return}
      (loaded : Reader.load (.start marker input) 0 = .ok reader) (blank : reader.kind? ≠ none)
      (run : Runs marker [.chain .any] (.chain .any []) reader log outcome) :
      Descends marker input
        (.pulled (Scan.start marker input).pull.1 :: .called [.chain .any] :: log)
        (outcome.bind fun (query, after) => after.finish query)

end TagFilter
