import TagFilter.Proofs.CanonicalForm
import TagFilter.Proofs.ShortCircuit

/-!
# Connectives with one operand in the canonical text

A connective with one operand is written as that operand wherever it stands below the root
(`Query.writeOperand_replaceAt`).  The root alone is written as the connective that it is, and
its one operand as an operand of it.  So where a root gives way to its one operand, the text
changes exactly if that is, but for further connectives with one operand, a disjunction, and
stands in parentheses in one of the two texts alone (`write_replaceAt_eq_iff`).
-/

namespace TagFilter

variable {marker : Char}

namespace Query

/-! ## Parts at places -/

/-- The query with another part at a place. -/
def replaceAt : Query → List Nat → Query → Query
  | _, [], part => part
  | .all operands, i :: place, part => .all (operands.modify i (·.replaceAt place part))
  | .any operands, i :: place, part => .any (operands.modify i (·.replaceAt place part))
  | .negation operand, 0 :: place, part => .negation (operand.replaceAt place part)
  | query, _ :: _, _ => query

/-- The part in place of the whole query. -/
theorem replaceAt_nil (query part : Query) : query.replaceAt [] part = part := by
  rw [replaceAt]

/-- In a connective the part stands in one of the operands. -/
theorem replaceAt_join (connective : Connective) (operands : List Query) (i : Nat)
    (place : List Nat) (part : Query) :
    (connective.join operands).replaceAt (i :: place) part =
      connective.join (operands.modify i (·.replaceAt place part)) := by
  cases connective <;> rw [Connective.join, replaceAt]

/-! ## Below the root -/

/-- Operands that are written alike wherever they stand make up connectives that are
written alike. -/
theorem writeOperand_join_congr (connective : Connective) {operands others : List Query}
    (h : ∀ around,
      operands.map (writeOperand marker around) = others.map (writeOperand marker around))
    (around : Around) :
    (connective.join operands).writeOperand marker around =
      (connective.join others).writeOperand marker around := by
  have hlength : operands.length = others.length := by
    simpa using congrArg List.length (h .all)
  by_cases hone : operands.length = 1
  · obtain ⟨operand, rfl⟩ := List.length_eq_one_iff.mp hone
    obtain ⟨other, rfl⟩ := List.length_eq_one_iff.mp (hlength.symm.trans hone)
    rw [writeOperand_alone, writeOperand_alone]
    simpa using h around
  · rw [writeOperand_join connective around hone,
      writeOperand_join connective around (hlength ▸ hone), h]

/-- Where one operand gives way to another that is written like it, all operands are
written as before. -/
theorem map_writeOperand_modify {operands : List Query} {operand : Query} {i : Nat}
    (hoperand : operands[i]? = some operand) {change : Query → Query} {around : Around}
    (h : (change operand).writeOperand marker around = operand.writeOperand marker around) :
    (operands.modify i change).map (writeOperand marker around) =
      operands.map (writeOperand marker around) := by
  refine List.ext_getElem? fun j => ?_
  rw [List.getElem?_map, List.getElem?_map, List.getElem?_modify]
  by_cases hj : i = j
  · subst hj
    simp [hoperand, h]
  · simp [hj]

/-- **Below the root.**  A connective with one operand that stands in an operand may give
way to its operand: nothing that is around it is written in another way. -/
theorem writeOperand_replaceAt {query operand : Query} {connective : Connective}
    {place : List Nat} (h : query.at? place = some (connective.join [operand]))
    (around : Around) :
    (query.replaceAt place operand).writeOperand marker around =
      query.writeOperand marker around := by
  induction place generalizing query around with
  | nil =>
      rw [at?_nil] at h
      rw [replaceAt_nil, Option.some.inj h, writeOperand_alone]
  | cons i below ih =>
      obtain ⟨child, hchild, hbelow⟩ := exists_child_of_at?_cons h
      have hoperands : ∀ operands : List Query, operands[i]? = some child → ∀ inside,
          (operands.modify i (·.replaceAt below operand)).map (writeOperand marker inside) =
            operands.map (writeOperand marker inside) := by
        intro operands hat inside
        exact map_writeOperand_modify hat (ih hbelow inside)
      cases query using inductionOn with
      | empty | tag | glob => simp [children] at hchild
      | join connective operands =>
          rw [connective.children_join] at hchild
          rw [replaceAt_join]
          exact writeOperand_join_congr connective (hoperands operands hchild) around
      | negation query =>
          -- a negation has one operand, which has the number zero
          cases i with
          | zero =>
              obtain rfl : query = child := Option.some.inj hchild
              rw [replaceAt, writeOperand, writeOperand, ih hbelow]
          | succ i => simp [children] at hchild

/-! ## The root -/

/-- What the root of a query is written as an operand of, if it has one operand: the
connective that it is, and else a disjunction, where nothing needs parentheses. -/
def rootAround : Query → Around
  | .all _ => .all
  | _ => .any

/-- Only at the root does another part make another root. -/
theorem rootAround_replaceAt_cons (query : Query) (i : Nat) (below : List Nat) (part : Query) :
    (query.replaceAt (i :: below) part).rootAround = query.rootAround := by
  cases query <;> cases i <;> rfl

/-- A lone operand is written as an operand is, where the connective stands. -/
theorem write_alone (connective : Connective) (operand : Query) :
    (connective.join [operand]).write marker = operand.writeOperand marker connective.around := by
  rw [write_join, List.map_singleton, List.intercalate_singleton]

/-- A connective is written like an operand of one of its own kind. -/
theorem write_join_eq_writeOperand (connective : Connective) (operands : List Query) :
    (connective.join operands).write marker =
      (connective.join operands).writeOperand marker connective.around := by
  by_cases hone : operands.length = 1
  · obtain ⟨operand, rfl⟩ := List.length_eq_one_iff.mp hone
    rw [write_alone, writeOperand_alone]
  · rw [write_join, writeOperand_join connective _ hone, connective.encloseText_around]

/-- A whole query is written like an operand of what its root is. -/
theorem write_eq_writeOperand_rootAround (query : Query) :
    query.write marker = query.writeOperand marker query.rootAround := by
  cases query using inductionOn with
  | empty | tag | glob | negation => rfl
  | join connective operands =>
      have hroot : (connective.join operands).rootAround = connective.around := by
        cases connective <;> rfl
      rw [hroot]
      exact write_join_eq_writeOperand connective operands

/-- The query inside all the connectives with one operand that stand around it. -/
def core : Query → Query
  | .all [operand] | .any [operand] => operand.core
  | query => query

/-- A connective with one operand does not belong to the core. -/
theorem core_alone (connective : Connective) (operand : Query) :
    (connective.join [operand]).core = operand.core := by
  cases connective <;> rw [Connective.join, core]

/-- Around any other connective there is none. -/
theorem core_join (connective : Connective) {operands : List Query} (h : operands.length ≠ 1) :
    (connective.join operands).core = connective.join operands := by
  match operands, h with
  | [], _ => cases connective <;> rfl
  | _ :: _ :: _, _ => cases connective <;> rfl

/-- Of all operands, it is the disjunctions that are written in a conjunction with
parentheses that they do not have in a disjunction. -/
theorem writeOperand_all_eq_any_iff (marker : Char) (query : Query) :
    query.writeOperand marker .all = query.writeOperand marker .any ↔
      ∀ operands, query.core ≠ .any operands := by
  induction query using join_induction with
  | leaf query hleaf => cases hleaf <;> simp [writeOperand, core]
  | join connective operands ih =>
      by_cases hlength : operands.length = 1
      · obtain ⟨operand, rfl⟩ := List.length_eq_one_iff.mp hlength
        rw [writeOperand_alone, writeOperand_alone, core_alone]
        exact ih operand List.mem_cons_self
      · rw [writeOperand_join connective .all hlength,
          writeOperand_join connective .any hlength, core_join connective hlength]
        cases connective with
        | all => simp [Connective.encloseText, Connective.join]
        | any =>
            constructor
            · intro htexts
              have hlengths := congrArg List.length htexts
              simp [Connective.encloseText, parenthesize] at hlengths
              omega
            · intro hcore
              exact absurd rfl (hcore operands)
  | negation query ih => simp [writeOperand, core]

/-- An operand is written the same in two connectives, unless they are not the same and
one of them alone needs parentheses around it. -/
theorem writeOperand_eq_iff {around other : Around} (h : around ≠ .negation)
    (h' : other ≠ .negation) (query : Query) :
    query.writeOperand marker around = query.writeOperand marker other ↔
      around = other ∨ ∀ operands, query.core ≠ .any operands := by
  have hiff := writeOperand_all_eq_any_iff marker query
  cases around with
  | negation => exact absurd rfl h
  | all =>
      cases other with
      | negation => exact absurd rfl h'
      | all => simp
      | any => simpa using hiff
  | any =>
      cases other with
      | negation => exact absurd rfl h'
      | all => simpa [eq_comm] using hiff
      | any => simp

end Query

open Query

/-- **Where a lone operand shows.**  A connective with one operand may give way to its
operand without a change of the text, at every place but the root.  At the root the text
stays if the operand is written in the connective as its own root would have it, or if it
is no disjunction, further connectives with one operand left out. -/
theorem write_replaceAt_eq_iff {query operand : Query} {connective : Connective}
    {place : List Nat} (h : query.at? place = some (connective.join [operand])) :
    (query.replaceAt place operand).write marker = query.write marker ↔
      place ≠ [] ∨ connective.around = operand.rootAround ∨
        ∀ operands, operand.core ≠ .any operands := by
  cases place with
  | cons i below =>
      have hbelow : (query.replaceAt (i :: below) operand).write marker = query.write marker := by
        rw [write_eq_writeOperand_rootAround, rootAround_replaceAt_cons,
          writeOperand_replaceAt h, ← write_eq_writeOperand_rootAround]
      simp [hbelow]
  | nil =>
      rw [at?_nil] at h
      have hroot : operand.rootAround ≠ .negation := by
        cases operand <;> simp [rootAround]
      have hconnective : connective.around ≠ .negation := by
        cases connective <;> simp [Connective.around]
      rw [replaceAt_nil, Option.some.inj h, write_alone, write_eq_writeOperand_rootAround,
        writeOperand_eq_iff hroot hconnective]
      simp [eq_comm]

/-- Below a negation, a chain of connectives with one operand each is shorter by one. -/
theorem write_replaceAt_below_negation :
    (Query.negation (.all [.any [.all [.tag ['a'], .tag ['b']]]])).at? [0] =
        some (Connective.all.join [.any [.all [.tag ['a'], .tag ['b']]]]) ∧
      ((Query.negation (.all [.any [.all [.tag ['a'], .tag ['b']]]])).replaceAt [0]
          (.any [.all [.tag ['a'], .tag ['b']]])).write '*' =
        (Query.negation (.all [.any [.all [.tag ['a'], .tag ['b']]]])).write '*' := by
  have hat : (Query.negation (.all [.any [.all [.tag ['a'], .tag ['b']]]])).at? [0] =
      some (Connective.all.join [.any [.all [.tag ['a'], .tag ['b']]]]) := by decide
  exact ⟨hat, (write_replaceAt_eq_iff hat).mpr (.inl (by decide))⟩

/-- At the root, parentheses stand around a disjunction that needs none. -/
theorem not_forall_write_replaceAt_eq :
    ¬∀ (marker : Char) (query operand : Query) (connective : Connective) (place : List Nat),
      query.at? place = some (connective.join [operand]) →
        (query.replaceAt place operand).write marker = query.write marker := by
  intro h
  have htexts := h '*' (.all [.any [.tag ['a'], .tag ['b']]]) (.any [.tag ['a'], .tag ['b']])
    .all [] rfl
  revert htexts
  decide

end TagFilter
