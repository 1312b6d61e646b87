import Mathlib.Logic.Relation
import TagFilter.Matching
import TagFilter.Mentions
import TagFilter.Proofs.NormalForm

/-!
# Flattening a query, one place after the other

Two changes make a query flatter at one place: a connective with one operand gives way
to that operand, and a connective among the operands of the same connective is spliced
in where it stands.  The place may be anywhere in the query, and the query may be any
tree, with empty queries and connectives without operands in it too.

* `Query.ask_eq_of_flattens`: one change leaves the answer of a match as it was, and
  every question with its place in the order.
* `Query.ask_eq_of_flattened`: so do changes at any places, one after the other.
* `Query.flattened_normal`: the normal form is reached that way.
* `Query.ask_normal`, `Query.mentions_normal`: so a match of it finds the same answer
  and asks the same questions, and it mentions the same tags.
-/

namespace TagFilter

/-! ## Asking operands -/

namespace Connective

variable {κ : Type} [Collection κ] (matching : Matching) (tags : κ)

/-- The value of an operand behind which the connective is not decided yet. -/
def undecided : Connective → Bool
  | .all => true
  | .any => false

/-- Asks the operands from left to right, up to the one that decides. -/
def askOperands : Connective → List Query → Answer
  | .all => Query.askAll matching tags
  | .any => Query.askAny matching tags

variable (connective : Connective)

/-- Without operands nothing is asked, and nothing decides. -/
theorem askOperands_nil :
    connective.askOperands matching tags [] = ⟨connective.undecided, []⟩ := by
  cases connective <;> rfl

/-- The first operand decides, or the others have to be asked. -/
theorem askOperands_cons (query : Query) (operands : List Query) :
    connective.askOperands matching tags (query :: operands) =
      if (query.ask matching tags).holds = connective.undecided then
        (connective.askOperands matching tags operands).after (query.ask matching tags).asked
      else query.ask matching tags := by
  cases connective with
  | all => rw [askOperands, Query.askAll, undecided]
  | any =>
      rw [askOperands, Query.askAny, undecided]
      cases (query.ask matching tags).holds <;> rfl

/-- One operand alone is asked as itself. -/
theorem askOperands_singleton (query : Query) :
    connective.askOperands matching tags [query] = query.ask matching tags := by
  rw [askOperands_cons, askOperands_nil]
  split
  · rename_i hquery
    simp [Answer.after, ← hquery]
  · rfl

/-- The operands behind some others are asked only if those do not decide. -/
theorem askOperands_append (before after : List Query) :
    connective.askOperands matching tags (before ++ after) =
      if (connective.askOperands matching tags before).holds = connective.undecided then
        (connective.askOperands matching tags after).after
          (connective.askOperands matching tags before).asked
      else connective.askOperands matching tags before := by
  induction before with
  | nil => simp [askOperands_nil, Answer.after]
  | cons query before ih =>
      rw [List.cons_append, askOperands_cons, askOperands_cons]
      by_cases hquery : (query.ask matching tags).holds = connective.undecided
      · by_cases hbefore : (connective.askOperands matching tags before).holds =
            connective.undecided
        · simp [ih, hquery, hbefore, Answer.after]
        · simp [ih, hquery, hbefore, Answer.after]
      · simp [hquery]

/-- Operands that are asked alike can stand for each other between any others. -/
theorem askOperands_between {middle other : List Query}
    (h : connective.askOperands matching tags middle = connective.askOperands matching tags other)
    (before after : List Query) :
    connective.askOperands matching tags (before ++ (middle ++ after)) =
      connective.askOperands matching tags (before ++ (other ++ after)) := by
  simp only [askOperands_append, h]

end Connective

namespace Query

/-- The query is made flatter at one place. -/
inductive Flattens : Query → Query → Prop
  /-- One operand stands for itself. -/
  | alone (connective : Connective) (query : Query) : Flattens (connective.join [query]) query
  /-- A connective inside the same connective gives way to its operands. -/
  | splice (connective : Connective) (before inner after : List Query) :
      Flattens (connective.join (before ++ connective.join inner :: after))
        (connective.join (before ++ (inner ++ after)))
  /-- The place is in an operand of a connective. -/
  | operand (connective : Connective) (before after : List Query) {query flat : Query}
      (step : Flattens query flat) :
      Flattens (connective.join (before ++ query :: after))
        (connective.join (before ++ flat :: after))
  /-- The place is under a negation. -/
  | negation {query flat : Query} (step : Flattens query flat) :
      Flattens query.negation flat.negation

/-- The query is made flatter at some places, one after the other. -/
abbrev Flattened : Query → Query → Prop := Relation.ReflTransGen Flattens

/-- What no single change shows in, changes one after the other do not show in. -/
theorem Flattened.apply_eq {β : Type} {f : Query → β}
    (step : ∀ query flat, Flattens query flat → f flat = f query) {query flat : Query}
    (h : Flattened query flat) : f flat = f query := by
  induction h with
  | refl => rfl
  | tail _ hstep ih => exact (step _ _ hstep).trans ih

/-! ## Matching -/

section Matching

variable {κ : Type} [Collection κ] (matching : Matching) (tags : κ) (connective : Connective)

/-- A connective asks its operands. -/
theorem ask_join (operands : List Query) :
    (connective.join operands).ask matching tags =
      connective.askOperands matching tags operands := by
  cases connective with
  | all => rw [Connective.join, ask, Connective.askOperands]
  | any => rw [Connective.join, ask, Connective.askOperands]

variable {query flat : Query}

/-- **One change.**  Where a query is made flatter at one place, a match finds the same
answer and asks the same questions in the same order. -/
theorem ask_eq_of_flattens (h : Flattens query flat) :
    flat.ask matching tags = query.ask matching tags := by
  induction h with
  | alone connective query => rw [ask_join, connective.askOperands_singleton]
  | splice connective before inner after =>
      have hinner : connective.askOperands matching tags [connective.join inner] =
          connective.askOperands matching tags inner := by
        rw [connective.askOperands_singleton, ask_join]
      rw [ask_join, ask_join]
      exact (connective.askOperands_between matching tags hinner before after).symm
  | operand connective before after step ih =>
      rename_i query flat
      have hoperand : connective.askOperands matching tags [flat] =
          connective.askOperands matching tags [query] := by
        rw [connective.askOperands_singleton, connective.askOperands_singleton, ih]
      rw [ask_join, ask_join]
      exact connective.askOperands_between matching tags hoperand before after
  | negation step ih => rw [ask, ask, ih]

/-- **Flattening asks the same.**  Whatever one-operand connectives give way to their
operand and whatever connectives are spliced into the same connective around them, a
match finds the same answer and asks the same questions in the same order. -/
theorem ask_eq_of_flattened (h : Flattened query flat) :
    flat.ask matching tags = query.ask matching tags := by
  have step : ∀ query flat, Flattens query flat →
      flat.ask matching tags = query.ask matching tags := by
    intro query flat hstep
    exact ask_eq_of_flattens matching tags hstep
  exact h.apply_eq step

end Matching

/-- The places are in the query: an operand that stands for itself, an empty conjunction
among others, and a connective under a negation. -/
theorem ask_eq_of_flattened_tags :
    Flattened
        (.all [.any [.all [.tag ['a'], .empty]], .all [],
          .negation (.any [.tag ['b'], .any [.glob ⟨['c'], [[]]⟩]])])
        (.all [.tag ['a'], .empty, .negation (.any [.tag ['b'], .glob ⟨['c'], [[]]⟩])]) ∧
      (Query.all [.tag ['a'], .empty, .negation (.any [.tag ['b'], .glob ⟨['c'], [[]]⟩])]).ask
          {} [['a'], ['c', 'd'], ['e']] =
        (Query.all [.any [.all [.tag ['a'], .empty]], .all [],
          .negation (.any [.tag ['b'], .any [.glob ⟨['c'], [[]]⟩]])]).ask
          {} [['a'], ['c', 'd'], ['e']] := by
  have hsteps : Flattened
      (.all [.any [.all [.tag ['a'], .empty]], .all [],
        .negation (.any [.tag ['b'], .any [.glob ⟨['c'], [[]]⟩]])])
      (.all [.tag ['a'], .empty, .negation (.any [.tag ['b'], .glob ⟨['c'], [[]]⟩])]) := by
    refine .head (.operand .all [] _ (.alone .any _)) ?_
    refine .head (.splice .all [] [.tag ['a'], .empty] _) ?_
    refine .head (.splice .all [.tag ['a'], .empty] [] _) ?_
    exact .single (.operand .all [.tag ['a'], .empty] []
      (.negation (.splice .any [.tag ['b']] [.glob ⟨['c'], [[]]⟩] [])))
  exact ⟨hsteps, ask_eq_of_flattened {} [['a'], ['c', 'd'], ['e']] hsteps⟩

/-! ## The normal form -/

namespace Flattened

variable {query flat : Query}

/-- Any number of steps can be made in one operand. -/
theorem operand (connective : Connective) (before after : List Query) (h : Flattened query flat) :
    Flattened (connective.join (before ++ query :: after))
      (connective.join (before ++ flat :: after)) :=
  h.lift (fun query => connective.join (before ++ query :: after))
    fun _ _ => .operand connective before after

/-- So they can under a negation. -/
theorem negation (h : Flattened query flat) : Flattened query.negation flat.negation :=
  h.lift Query.negation fun _ _ => .negation

end Flattened

/-- An operand can be replaced by the operands that it is spliced in as. -/
theorem flattened_operandsOf (connective : Connective) (before : List Query) (query : Query)
    (after : List Query) :
    Flattened (connective.join (before ++ query :: after))
      (connective.join (before ++ (connective.operandsOf query ++ after))) := by
  rcases connective.operandsOf_cases query with ⟨inner, rfl, hinner⟩ | hone
  · rw [hinner]
    exact .single (.splice connective before inner after)
  · rw [hone]
    exact .refl

/-- Operands are flattened from left to right, behind those that are finished. -/
theorem flattened_operands (connective : Connective) (before : List Query) {operands : List Query}
    (h : ∀ query ∈ operands, Flattened query query.normal) :
    Flattened (connective.join (before ++ operands))
      (connective.join (before ++ operands.flatMap fun query =>
        connective.operandsOf query.normal)) := by
  induction operands generalizing before with
  | nil => exact .refl
  | cons query operands ih =>
      have hquery := (h query List.mem_cons_self).operand connective before operands
      have hsplice := flattened_operandsOf connective before query.normal operands
      have hrest := ih (before ++ connective.operandsOf query.normal) fun other hother =>
        h other (List.mem_cons_of_mem query hother)
      rw [List.append_assoc, List.append_assoc] at hrest
      exact (hquery.trans hsplice).trans hrest

/-- A connective of flattened operands is flattened to its normal form. -/
theorem flattened_normal_join (connective : Connective) {operands : List Query}
    (h : ∀ query ∈ operands, Flattened query query.normal) :
    Flattened (connective.join operands) (connective.join operands).normal := by
  by_cases hone : operands.length = 1
  · obtain ⟨query, rfl⟩ := List.length_eq_one_iff.mp hone
    rw [normal_alone]
    exact .head (.alone connective query) (h query List.mem_cons_self)
  · rw [normal_join connective hone]
    exact flattened_operands connective [] h

/-- **The normal form is flatter.**  Every query is made into its normal form by changes
at one place after the other. -/
theorem flattened_normal (query : Query) : Flattened query query.normal := by
  induction query with
  | empty => rw [normal]
  | tag name => rw [normal]
  | glob g => rw [normal]
  | negation query ih =>
      rw [normal]
      exact ih.negation
  | join connective operands ih => exact flattened_normal_join connective ih

/-- **Matching the normal form.**  It has the same answer, and asks the same
questions in the same order. -/
theorem ask_normal {κ : Type} [Collection κ] (matching : Matching) (tags : κ) (query : Query) :
    query.normal.ask matching tags = query.ask matching tags :=
  (flattened_normal query).apply_eq fun _ _ => ask_eq_of_flattens matching tags

/-! ## Tag names -/

/-- The names of some queries are those of each, in order. -/
theorem tagNamesOfList_eq_flatMap (queries : List Query) :
    tagNamesOfList queries = queries.flatMap tagNames := by
  induction queries with
  | nil => rfl
  | cons query queries ih => rw [tagNamesOfList, ih, List.flatMap_cons]

/-- A connective has the names of its operands, in order. -/
theorem tagNames_join (connective : Connective) (operands : List Query) :
    (connective.join operands).tagNames = operands.flatMap tagNames := by
  cases connective <;> rw [Connective.join, tagNames, tagNamesOfList_eq_flatMap]

/-- Where a query is made flatter at one place, its tags stay in their order. -/
theorem tagNames_eq_of_flattens {query flat : Query} (h : Flattens query flat) :
    flat.tagNames = query.tagNames := by
  induction h with
  | alone connective query => rw [tagNames_join, List.flatMap_singleton]
  | splice connective before inner after => simp [tagNames_join]
  | operand connective before after step ih => simp [tagNames_join, ih]
  | negation step ih => rw [tagNames, tagNames, ih]

/-- A query mentions the tags that its normal form mentions. -/
theorem mentions_normal (query : Query) : query.normal.mentions = query.mentions := by
  have hnames : query.normal.tagNames = query.tagNames :=
    (flattened_normal query).apply_eq fun _ _ => tagNames_eq_of_flattens
  rw [mentions, collect, hnames, mentions, collect]

end Query

end TagFilter
