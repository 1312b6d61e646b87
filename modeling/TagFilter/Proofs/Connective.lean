import TagFilter.Canonical

/-!
# Connectives

Conjunctions and disjunctions are put together, taken apart and written in the same way.
What holds of both is said once, of a `Connective`: it joins operands (`join`), stands for
a chain of operands of which there may be one alone (`combine`), and takes up the operands
of the same connective in place of it (`operandsOf`).

* `Query.inductionOn`: induction over a query, with one case for both connectives.
* `Query.writeOperand_join`, `Query.write_join`: the text of a connective, where it stands
  among others and at the root.
-/

namespace TagFilter

/-- A connective with any number of operands. -/
inductive Connective where
  | all
  | any
  deriving DecidableEq, Repr

namespace Connective

/-- The query that joins the operands. -/
def join : Connective → List Query → Query
  | .all => .all
  | .any => .any

/-- The query of a chain of operands; one alone stands for itself. -/
def combine : Connective → List Query → Query
  | .all => .conjunction
  | .any => .disjunction

/-- The operands that a query is spliced into the connective as. -/
def operandsOf : Connective → Query → List Query
  | .all, .all operands | .any, .any operands => operands
  | _, query => [query]

/-- A joined query tells its connective and its operands. -/
theorem join_inj {connective other : Connective} {operands queries : List Query}
    (h : connective.join operands = other.join queries) :
    connective = other ∧ operands = queries := by
  cases connective <;> cases other <;> simp [join] at h ⊢ <;> exact h

/-- The operands of a joined query are the queries right below its root. -/
theorem children_join (connective : Connective) (operands : List Query) :
    (connective.join operands).children = operands := by
  cases connective <;> rfl

/-- A chain of one operand stands for that operand. -/
theorem combine_singleton (connective : Connective) (query : Query) :
    connective.combine [query] = query := by
  cases connective <;> rfl

/-- A chain that has not just one operand is joined by its connective. -/
theorem combine_eq_join (connective : Connective) {operands : List Query}
    (h : operands.length ≠ 1) : connective.combine operands = connective.join operands := by
  match operands, h with
  | [], _ => cases connective <;> rfl
  | _ :: _ :: _, _ => cases connective <;> rfl

/-- A query of the connective is spliced in as its operands, any other as itself. -/
theorem operandsOf_cases (connective : Connective) (query : Query) :
    (∃ inner, query = connective.join inner ∧ connective.operandsOf query = inner) ∨
      connective.operandsOf query = [query] := by
  cases connective with
  | all =>
      cases query with
      | all inner => exact .inl ⟨inner, rfl, rfl⟩
      | _ => exact .inr rfl
  | any =>
      cases query with
      | any inner => exact .inl ⟨inner, rfl, rfl⟩
      | _ => exact .inr rfl

end Connective

namespace Query

/-- Induction over a query, with the hypothesis for every operand of a connective. -/
@[elab_as_elim, induction_eliminator]
theorem inductionOn {motive : Query → Prop} (empty : motive .empty)
    (tag : ∀ name, motive (.tag name)) (glob : ∀ g, motive (.glob g))
    (join : ∀ (connective : Connective) (operands : List Query),
      (∀ query ∈ operands, motive query) → motive (connective.join operands))
    (negation : ∀ query, motive query → motive (.negation query)) : (query : Query) → motive query
  | .empty => empty
  | .tag name => tag name
  | .glob g => glob g
  | .all operands =>
      join .all operands fun query _ => inductionOn empty tag glob join negation query
  | .any operands =>
      join .any operands fun query _ => inductionOn empty tag glob join negation query
  | .negation query => negation query (inductionOn empty tag glob join negation query)

end Query

/-! ## Canonical texts -/

namespace Connective

/-- What the operands of the connective are operands of. -/
def around : Connective → Around
  | .all => .all
  | .any => .any

/-- The word between the operands. -/
def word : Connective → Text
  | .all => ['A', 'N', 'D']
  | .any => ['O', 'R']

/-- The word with blanks around it. -/
def keyword (connective : Connective) : Text := ' ' :: (connective.word ++ [' '])

/-- The text of the connective, in parentheses where the grammar needs them. -/
def encloseText : Connective → Around → Text → Text
  | .all, around, text => if around = .negation then parenthesize text else text
  | .any, around, text => if around = .any then text else parenthesize text

/-- Where it is enclosed, the text stands in parentheses. -/
theorem encloseText_cases (connective : Connective) (around : Around) (text : Text) :
    connective.encloseText around text = text ∨
      connective.encloseText around text = parenthesize text := by
  cases connective <;> cases around <;> simp [encloseText]

/-- As an operand of the same connective it is not enclosed. -/
theorem encloseText_around (connective : Connective) (text : Text) :
    connective.encloseText connective.around text = text := by
  cases connective <;> rfl

end Connective

namespace Query

variable {marker : Char}

/-- The texts of operands are written apart. -/
theorem writeOperands_eq_map (around : Around) (operands : List Query) :
    writeOperands marker around operands = operands.map (writeOperand marker around) := by
  induction operands with
  | nil => rfl
  | cons query operands ih => rw [writeOperands, ih, List.map_cons]

/-- A connective with one operand is written as that operand. -/
theorem writeOperand_alone (connective : Connective) (around : Around) (operand : Query) :
    (connective.join [operand]).writeOperand marker around =
      operand.writeOperand marker around := by
  cases connective <;> rw [Connective.join, writeOperand]

/-- Any other connective is written as its operands with the keyword between them. -/
theorem writeOperand_join (connective : Connective) (around : Around) {operands : List Query}
    (h : operands.length ≠ 1) :
    (connective.join operands).writeOperand marker around =
      connective.encloseText around
        (connective.keyword.intercalate
          (operands.map (writeOperand marker connective.around))) := by
  have hother : ∀ operand, operands ≠ [operand] := by
    simpa [List.length_eq_one_iff] using h
  rw [← writeOperands_eq_map]
  cases connective with
  | all | any =>
      rw [Connective.join, writeOperand]
      · rfl
      · exact hother

/-- The root is written as the connective that it is, also where it has one operand. -/
theorem write_join (connective : Connective) (operands : List Query) :
    (connective.join operands).write marker =
      connective.keyword.intercalate (operands.map (writeOperand marker connective.around)) := by
  cases connective <;> rw [Connective.join, write, writeOperands_eq_map] <;> rfl

end Query

end TagFilter
