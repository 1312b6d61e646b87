import TagFilter.Canonical
import TagFilter.Matching
import TagFilter.Mentions
import TagFilter.Reading
import TagFilter.TagList

/-!
# Sessions

A query that is built up step by step over one collection of tags, for a caller who
keeps one open: the operations on queries stand behind one interface here, with one
marker and one way to match, and each works on what the ones before it have left.  A step
that cannot read its text leaves the query as it was.
-/

namespace TagFilter

/-- One step of a session. -/
inductive Step where
  /-- Takes the query of a text. -/
  | parse (text : Text)
  /-- Takes the query of a tag list. -/
  | list (text : Text)
  /-- Joins the query and that of a text by conjunction. -/
  | and (text : Text)
  /-- Joins the query and that of a text by disjunction. -/
  | or (text : Text)
  | not
  /-- Goes down to the first operand. -/
  | child
  | holds
  /-- Asks for the canonical text. -/
  | write
  /-- Collects the tags that the query mentions. -/
  | collect
  /-- Hands out what was collected. -/
  | collected
  deriving DecidableEq, Repr

/-- The reply to a step. -/
inductive Reply where
  | query (query : Query)
  /-- Why a text cannot be read. -/
  | failure (failure : Failure)
  | nothing
  | holds (holds : Bool)
  | text (text : Text)
  /-- Names, ascending. -/
  | names (names : List Text)
  deriving DecidableEq, Repr

/-- A session between two steps. -/
structure Session where
  /-- The character that stands for a gap. -/
  marker : Char
  matching : Matching
  /-- The tags that the query is asked about. -/
  tags : List Text
  query : Query
  /-- The names collected since they were last handed out. -/
  names : List Text
  deriving DecidableEq, Repr

namespace Session

/-- A session at its start, with the empty query. -/
def start (marker : Char) (matching : Matching) (tags : List Text) : Session :=
  ⟨marker, matching, tags, .empty, []⟩

/-- Goes on with a query. -/
def become (session : Session) (query : Query) : Reply × Session :=
  (.query query, { session with query := query })

/-- Goes on with what `build` makes of a query that was read, if it was. -/
def becomeRead (session : Session) (read : Except Failure Query) (build : Query → Query) :
    Reply × Session :=
  match read with
  | .ok query => session.become (build query)
  | .error failure => (.failure failure, session)

/-- Takes one step. -/
def step (session : Session) : Step → Reply × Session
  | .parse text => session.becomeRead (TagFilter.parse session.marker text) id
  | .list text => session.becomeRead (parseTags session.marker text) id
  | .and text =>
    session.becomeRead (TagFilter.parse session.marker text) fun query =>
      .all [session.query, query]
  | .or text =>
    session.becomeRead (TagFilter.parse session.marker text) fun query =>
      .any [session.query, query]
  | .not => session.become (.negation session.query)
  | .child =>
    match session.query.children with
    | [] => (.nothing, session)
    | child :: _ => session.become child
  | .holds => (.holds (session.query.holds session.matching session.tags), session)
  | .write => (.text (session.query.write session.marker), session)
  | .collect => (.nothing, { session with names := session.query.collect session.names })
  | .collected => (.names session.names, { session with names := [] })

/-- Takes steps one after the other and keeps the replies. -/
def run (session : Session) : List Step → List Reply
  | [] => []
  | step :: steps =>
    let (reply, further) := session.step step
    reply :: further.run steps

end Session

end TagFilter
