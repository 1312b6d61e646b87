import TagFilter.Collection
import TagFilter.Query

/-!
# Matching

Whether a query holds of a collection of tags, and what the collection is
asked on the way.  Operands are taken from left to right, and no more of them
than decide the connective; a search through the tags stops at the first that
satisfies it.
-/

namespace TagFilter

/-- The choices that a match depends on. -/
structure Matching where
  /-- Whether capital and small letters differ. -/
  caseSensitive : Bool := true
  /-- Whether the empty query holds of everything, or of nothing. -/
  emptyMatchesAll : Bool := true
  deriving DecidableEq, Repr

/-- One thing asked of a collection. -/
inductive Question where
  | has (tag : Text)
  | tags
  /-- For the next tag of the list, which was this one. -/
  | next (tag : Text)
  deriving DecidableEq, Repr

/-- What a match finds out. -/
structure Answer where
  holds : Bool
  /-- What was asked to find out, in order. -/
  asked : List Question
  deriving DecidableEq, Repr

namespace Answer

/-- The answer, after something else was asked. -/
def after (asked : List Question) (answer : Answer) : Answer :=
  { answer with asked := asked ++ answer.asked }

end Answer

/-- Looks for a tag that satisfies `wanted`, up to the first. -/
def search (wanted : Text → Bool) : List Text → Answer
  | [] => ⟨false, []⟩
  | tag :: tags => if wanted tag then ⟨true, [.next tag]⟩ else (search wanted tags).after [.next tag]

namespace Query

variable {κ : Type} [Collection κ]

/-- Whether a leaf that lists the tags is satisfied by one of them. -/
def askTags (tags : κ) (wanted : Text → Bool) : Answer :=
  (search wanted (Collection.tags tags)).after [.tags]

/-- Whether the collection has the tag. -/
def askTag (matching : Matching) (tags : κ) (name : Text) : Answer :=
  if matching.caseSensitive then ⟨Collection.has tags name, [.has name]⟩
  else askTags tags fun tag => lowercase tag = lowercase name

/-- Whether the collection has a tag that the glob stands for. -/
def askGlob (matching : Matching) (tags : κ) (glob : Glob) : Answer :=
  if matching.caseSensitive then askTags tags glob.accepts
  else askTags tags fun tag => glob.lowercase.accepts (lowercase tag)

mutual

/-- Whether the query holds of the collection. -/
def ask (matching : Matching) (tags : κ) : Query → Answer
  | .empty => ⟨matching.emptyMatchesAll, []⟩
  | .tag name => askTag matching tags name
  | .glob g => askGlob matching tags g
  | .all operands => askAll matching tags operands
  | .any operands => askAny matching tags operands
  | .negation operand =>
    let answer := operand.ask matching tags
    { answer with holds := !answer.holds }

/-- Whether every operand holds, up to the first that does not. -/
def askAll (matching : Matching) (tags : κ) : List Query → Answer
  | [] => ⟨true, []⟩
  | operand :: operands =>
    let answer := operand.ask matching tags
    if answer.holds then (askAll matching tags operands).after answer.asked else answer

/-- Whether some operand holds, up to the first that does. -/
def askAny (matching : Matching) (tags : κ) : List Query → Answer
  | [] => ⟨false, []⟩
  | operand :: operands =>
    let answer := operand.ask matching tags
    if answer.holds then answer else (askAny matching tags operands).after answer.asked

end

/-- Whether the query holds of the collection. -/
def holds (matching : Matching) (tags : κ) (query : Query) : Bool :=
  (query.ask matching tags).holds

end Query

end TagFilter
