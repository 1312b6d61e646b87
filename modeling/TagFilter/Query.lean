import TagFilter.Glob

/-!
# Queries

The tree of a filter: tags and globs at its leaves, connectives with any
number of operands, and negation.  A reading never builds a connective with
fewer than two operands, but a tree may have one.
-/

namespace TagFilter

/-- A filter over collections of tags. -/
inductive Query where
  /-- The filter of an empty text. -/
  | empty
  /-- One tag by its exact name. -/
  | tag (name : Text)
  /-- Any tag that a glob stands for. -/
  | glob (glob : Glob)
  | all (operands : List Query)
  | any (operands : List Query)
  | negation (operand : Query)
  deriving Inhabited, Repr

namespace Query

mutual

/-- Whether two queries are the same tree. -/
def decEq : (p q : Query) → Decidable (p = q)
  | .empty, .empty => isTrue rfl
  | .tag a, .tag b => decidable_of_iff (a = b) (by simp)
  | .glob a, .glob b => decidable_of_iff (a = b) (by simp)
  | .all a, .all b =>
    match decEqList a b with
    | isTrue h => isTrue (by rw [h])
    | isFalse h => isFalse (by simpa using h)
  | .any a, .any b =>
    match decEqList a b with
    | isTrue h => isTrue (by rw [h])
    | isFalse h => isFalse (by simpa using h)
  | .negation a, .negation b =>
    match decEq a b with
    | isTrue h => isTrue (by rw [h])
    | isFalse h => isFalse (by simpa using h)
  | .empty, .tag _ | .empty, .glob _ | .empty, .all _ | .empty, .any _ | .empty, .negation _
  | .tag _, .empty | .tag _, .glob _ | .tag _, .all _ | .tag _, .any _ | .tag _, .negation _
  | .glob _, .empty | .glob _, .tag _ | .glob _, .all _ | .glob _, .any _ | .glob _, .negation _
  | .all _, .empty | .all _, .tag _ | .all _, .glob _ | .all _, .any _ | .all _, .negation _
  | .any _, .empty | .any _, .tag _ | .any _, .glob _ | .any _, .all _ | .any _, .negation _
  | .negation _, .empty | .negation _, .tag _ | .negation _, .glob _ | .negation _, .all _
  | .negation _, .any _ => isFalse (by simp)

/-- Whether two lists of queries are the same. -/
def decEqList : (ps qs : List Query) → Decidable (ps = qs)
  | [], [] => isTrue rfl
  | [], _ :: _ | _ :: _, [] => isFalse (by simp)
  | p :: ps, q :: qs =>
    match decEq p q, decEqList ps qs with
    | isTrue h, isTrue hs => isTrue (by rw [h, hs])
    | isFalse h, _ => isFalse (by simp [h])
    | _, isFalse hs => isFalse (by simp [hs])

end

instance : DecidableEq Query := decEq

/-- The operands directly below the root, in order. -/
def children : Query → List Query
  | .all operands | .any operands => operands
  | .negation operand => [operand]
  | .empty | .tag _ | .glob _ => []

/-- The query under `n` negations. -/
def negated : Nat → Query → Query
  | 0, query => query
  | n + 1, query => .negation (negated n query)

/-- A conjunction of operands; one alone stands for itself. -/
def conjunction : List Query → Query
  | [operand] => operand
  | operands => .all operands

/-- A disjunction of operands; one alone stands for itself. -/
def disjunction : List Query → Query
  | [operand] => operand
  | operands => .any operands

/-- The leaf a text stands for: a glob if the marker occurs in it, else a tag. -/
def leaf (marker : Char) (text : Text) : Query :=
  if marker ∈ text then .glob (.ofText marker text) else .tag text

end Query

end TagFilter
