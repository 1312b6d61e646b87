import Mathlib.Data.List.Basic
import TagFilter.Proofs.Connective
import TagFilter.Proofs.GlobText

/-!
# The normal form of a query

A connective with one operand says what the operand says, and a conjunction
inside a conjunction, or a disjunction inside a disjunction, says what it would
say with its operands in place.  The normal form makes both changes everywhere,
from the leaves up, and no other.

* `Query.Formed` tells which trees can be written: no empty query, enough
  operands, and no leaf that would be read back as another.
* `Query.Formed.normal`: the normal form of such a tree has no connective with
  fewer than two operands.
-/

namespace TagFilter

namespace Query

mutual

/-- The query with its connectives flat: one operand stands for itself, and a
connective inside the same connective is spliced into it. -/
def normal : Query → Query
  | .empty => .empty
  | .tag name => .tag name
  | .glob g => .glob g
  | .negation operand => .negation operand.normal
  | .all [operand] | .any [operand] => operand.normal
  | .all operands => .all (normalOperands .all operands)
  | .any operands => .any (normalOperands .any operands)

/-- The normal forms of some queries, as operands of the connective. -/
def normalOperands (connective : Connective) : List Query → List Query
  | [] => []
  | query :: queries => connective.operandsOf query.normal ++ normalOperands connective queries

end

/-- Operands have their normal forms apart. -/
theorem normalOperands_eq_flatMap (connective : Connective) (queries : List Query) :
    normalOperands connective queries =
      queries.flatMap fun query => connective.operandsOf query.normal := by
  induction queries with
  | nil => rfl
  | cons query queries ih => rw [normalOperands, ih, List.flatMap_cons]

/-- A connective with one operand has the normal form of that operand. -/
theorem normal_alone (connective : Connective) (query : Query) :
    (connective.join [query]).normal = query.normal := by
  cases connective <;> rw [Connective.join, normal]

/-- Any other connective has the normal forms of its operands spliced. -/
theorem normal_join (connective : Connective) {operands : List Query} (h : operands.length ≠ 1) :
    (connective.join operands).normal =
      connective.join (operands.flatMap fun query => connective.operandsOf query.normal) := by
  have hother : ∀ operand, operands ≠ [operand] := by
    simpa [List.length_eq_one_iff] using h
  rw [← normalOperands_eq_flatMap]
  cases connective with
  | all =>
      rw [Connective.join, normal]
      exact hother
  | any =>
      rw [Connective.join, normal]
      exact hother

/-! ## Shape -/

/-- The tree can be written with the marker: it has no empty query, its
connectives have `least` operands or more, no tag is empty or has the marker in
it, and its globs fit the marker. -/
inductive Formed (marker : Char) (least : Nat) : Query → Prop
  | tag {name : Text} (nonempty : name ≠ []) (plain : marker ∉ name) :
      Formed marker least (.tag name)
  | glob {g : Glob} (fits : g.Fits marker) : Formed marker least (.glob g)
  | all {operands : List Query} (length : least ≤ operands.length)
      (operand : ∀ query ∈ operands, Formed marker least query) :
      Formed marker least (.all operands)
  | any {operands : List Query} (length : least ≤ operands.length)
      (operand : ∀ query ∈ operands, Formed marker least query) :
      Formed marker least (.any operands)
  | negation {query : Query} (operand : Formed marker least query) :
      Formed marker least (.negation query)

variable {marker : Char}

/-- A tag is formed if it is not empty and the marker is not in it. -/
@[simp]
theorem formed_tag {least : Nat} {name : Text} :
    (Query.tag name).Formed marker least ↔ name ≠ [] ∧ marker ∉ name := by
  refine ⟨fun h => ?_, fun h => .tag h.1 h.2⟩
  cases h with
  | tag nonempty plain => exact ⟨nonempty, plain⟩

/-- A glob is formed if it fits the marker. -/
@[simp]
theorem formed_glob {least : Nat} {g : Glob} :
    (Query.glob g).Formed marker least ↔ g.Fits marker := by
  refine ⟨fun h => ?_, .glob⟩
  cases h with
  | glob fits => exact fits

/-- A connective is formed if it has enough operands, all formed. -/
theorem formed_join {least : Nat} {connective : Connective} {operands : List Query} :
    (connective.join operands).Formed marker least ↔
      least ≤ operands.length ∧ ∀ query ∈ operands, query.Formed marker least := by
  constructor
  · intro h
    cases connective with
    | all => cases h with | all length operand => exact ⟨length, operand⟩
    | any => cases h with | any length operand => exact ⟨length, operand⟩
  · intro h
    cases connective with
    | all => exact .all h.1 h.2
    | any => exact .any h.1 h.2

/-- So a conjunction is. -/
@[simp]
theorem formed_all {least : Nat} {operands : List Query} :
    (Query.all operands).Formed marker least ↔
      least ≤ operands.length ∧ ∀ query ∈ operands, query.Formed marker least :=
  @formed_join marker least .all operands

/-- And so is a disjunction. -/
@[simp]
theorem formed_any {least : Nat} {operands : List Query} :
    (Query.any operands).Formed marker least ↔
      least ≤ operands.length ∧ ∀ query ∈ operands, query.Formed marker least :=
  @formed_join marker least .any operands

/-- A negation is formed if its operand is. -/
@[simp]
theorem formed_negation {least : Nat} {query : Query} :
    (Query.negation query).Formed marker least ↔ query.Formed marker least := by
  refine ⟨fun h => ?_, .negation⟩
  cases h with
  | negation operand => exact operand

/-- Induction over a formed query, with one case for both connectives. -/
@[elab_as_elim, induction_eliminator]
theorem Formed.inductionOn {least : Nat}
    {motive : (query : Query) → query.Formed marker least → Prop}
    (tag : ∀ {name : Text} (nonempty : name ≠ []) (plain : marker ∉ name),
      motive (.tag name) (.tag nonempty plain))
    (glob : ∀ {g : Glob} (fits : g.Fits marker), motive (.glob g) (.glob fits))
    (join : ∀ (connective : Connective) {operands : List Query}
      (length : least ≤ operands.length)
      (operand : ∀ query ∈ operands, query.Formed marker least),
      (∀ (query : Query) (h : query ∈ operands), motive query (operand query h)) →
        motive (connective.join operands) (formed_join.mpr ⟨length, operand⟩))
    (negation : ∀ {query : Query} (operand : query.Formed marker least),
      motive query operand → motive (.negation query) (.negation operand)) :
    {query : Query} → (h : query.Formed marker least) → motive query h
  | _, .tag nonempty plain => tag nonempty plain
  | _, .glob fits => glob fits
  | _, .all length operand =>
      join .all length operand fun query h =>
        inductionOn tag glob join negation (operand query h)
  | _, .any length operand =>
      join .any length operand fun query h =>
        inductionOn tag glob join negation (operand query h)
  | _, .negation operand => negation operand (inductionOn tag glob join negation operand)

/-- Where connectives have many operands, they have few. -/
theorem Formed.mono {least most : Nat} {query : Query} (hle : least ≤ most)
    (h : query.Formed marker most) : query.Formed marker least := by
  induction h with
  | tag nonempty plain => exact .tag nonempty plain
  | glob fits => exact .glob fits
  | join connective length _ ih => exact formed_join.mpr ⟨Nat.le_trans hle length, ih⟩
  | negation _ ih => exact .negation ih

/-- What a formed query is spliced as is something. -/
theorem Formed.operandsOf_ne_nil (connective : Connective) {query : Query}
    (h : query.Formed marker 2) : connective.operandsOf query ≠ [] := by
  rcases connective.operandsOf_cases query with ⟨inner, rfl, hinner⟩ | hone
  · have hlength := (formed_join.mp h).1
    rw [hinner]
    exact List.length_pos_iff.mp (Nat.lt_of_lt_of_le Nat.two_pos hlength)
  · rw [hone]
    exact List.cons_ne_nil query []

/-- What a formed query is spliced as is formed. -/
theorem Formed.operandsOf (connective : Connective) {query : Query} (h : query.Formed marker 2) :
    ∀ operand ∈ connective.operandsOf query, operand.Formed marker 2 := by
  rcases connective.operandsOf_cases query with ⟨inner, rfl, hinner⟩ | hone
  · rw [hinner]
    exact (formed_join.mp h).2
  · rw [hone]
    exact List.forall_mem_singleton.mpr h

/-- Operands that are each spliced as something do not get fewer. -/
theorem length_le_length_flatMap {splice : Query → List Query} {operands : List Query}
    (h : ∀ query ∈ operands, splice query ≠ []) :
    operands.length ≤ (operands.flatMap splice).length := by
  induction operands with
  | nil => exact Nat.zero_le _
  | cons query operands ih =>
      have hquery := List.length_pos_iff.mpr (h query List.mem_cons_self)
      have hoperands := ih fun other hother => h other (List.mem_cons_of_mem query hother)
      rw [List.flatMap_cons, List.length_append, List.length_cons]
      omega

/-- **Shape of the normal form.**  If no connective is empty, none has fewer than
two operands afterwards. -/
theorem Formed.normal {query : Query} (h : query.Formed marker 1) :
    query.normal.Formed marker 2 := by
  induction h with
  | tag nonempty plain => exact .tag nonempty plain
  | glob fits => exact .glob fits
  | negation _ ih => exact .negation ih
  | @join connective operands length _ ih =>
      by_cases hone : operands.length = 1
      · obtain ⟨operand, rfl⟩ := List.length_eq_one_iff.mp hone
        rw [normal_alone]
        exact ih operand List.mem_cons_self
      · have hsplice := length_le_length_flatMap fun query hquery =>
          (ih query hquery).operandsOf_ne_nil connective
        rw [normal_join connective hone]
        refine formed_join.mpr ⟨by omega, ?_⟩
        intro operand hmem
        obtain ⟨query, hquery, hoperand⟩ := List.mem_flatMap.mp hmem
        exact (ih query hquery).operandsOf connective operand hoperand

end Query

end TagFilter
