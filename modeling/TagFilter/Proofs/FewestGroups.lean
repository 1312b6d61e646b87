import TagFilter.Proofs.CanonicalForm
import TagFilter.Proofs.Leaves

/-!
# The fewest parentheses

The grammar needs parentheses around a disjunction among the operands of a conjunction, and
around either connective under a negation.  `Query.groups` counts these places in a query.

* Symbols that derive a query have at least as many pairs of parentheses
  (`Grammar.Derives.groups_le`).
* The canonical text of a query that was read has just as many
  (`Query.Formed.exists_groups_write`).

So whatever is read as the same query as a canonical text has no fewer pairs than that text,
and none of its pairs can be left out (`parse_ne_of_group_left_out`).
-/

namespace TagFilter

open Grammar

variable {marker : Char}

/-! ## The groups that a query needs -/

/-- How many pairs of parentheses the connective itself needs where it stands. -/
def Connective.groups : Connective → Around → Nat
  | .all, .negation | .any, .all | .any, .negation => 1
  | .all, .all | .all, .any | .any, .any => 0

/-- A connective needs no parentheses as an operand of the same connective. -/
theorem Connective.groups_around (connective : Connective) :
    connective.groups connective.around = 0 := by
  cases connective <;> rfl

namespace Query

mutual

/-- How many pairs of parentheses the grammar needs for a query where it stands. -/
def groups : Around → Query → Nat
  | _, .empty | _, .tag _ | _, .glob _ => 0
  | _, .negation operand => operand.groups .negation
  | around, .all operands => Connective.all.groups around + groupsAmong .all operands
  | around, .any operands => Connective.any.groups around + groupsAmong .any operands

/-- How many pairs of parentheses the grammar needs for some operands. -/
def groupsAmong (around : Around) : List Query → Nat
  | [] => 0
  | query :: queries => query.groups around + groupsAmong around queries

end

/-- Operands need what each of them needs, together. -/
theorem groupsAmong_eq_sum (around : Around) (queries : List Query) :
    groupsAmong around queries = (queries.map (groups around)).sum := by
  induction queries with
  | nil => rfl
  | cons query queries ih => rw [groupsAmong, ih, List.map_cons, List.sum_cons]

/-- One more operand needs its own groups besides. -/
theorem groupsAmong_concat (around : Around) (queries : List Query) (query : Query) :
    groupsAmong around (queries ++ [query]) = groupsAmong around queries + query.groups around := by
  simp [groupsAmong_eq_sum]

/-- A connective needs a pair of its own where it cannot stand bare, and those of its operands.
-/
theorem groups_join (connective : Connective) (around : Around) (operands : List Query) :
    (connective.join operands).groups around =
      connective.groups around + groupsAmong connective.around operands := by
  cases connective <;> rw [Connective.join, groups, Connective.around]

/-- What stands in a conjunction can stand in a disjunction. -/
theorem groups_any_le_all (query : Query) : query.groups .any ≤ query.groups .all := by
  cases query <;> simp [groups, Connective.groups]

/-- What stands under a negation can stand in a conjunction. -/
theorem groups_all_le_negation (query : Query) : query.groups .all ≤ query.groups .negation := by
  cases query <;> simp [groups, Connective.groups]

/-- One pair is enough for what stands alone to stand anywhere. -/
theorem groups_negation_le (query : Query) : query.groups .negation ≤ query.groups .any + 1 := by
  cases query <;> simp [groups, Connective.groups, Nat.add_comm]

/-- A chain of operands needs the groups of its operands, among such operands. -/
theorem groups_combine (connective : Connective) (operands : List Query) :
    (connective.combine operands).groups connective.around =
      groupsAmong connective.around operands := by
  by_cases hone : operands.length = 1
  · obtain ⟨query, rfl⟩ := List.length_eq_one_iff.mp hone
    rw [connective.combine_singleton, groupsAmong, groupsAmong, Nat.add_zero]
  · rw [connective.combine_eq_join hone, groups_join, connective.groups_around, Nat.zero_add]

end Query

/-! ## Every derivation has them -/

/-- A group has one more pair than what is in it. -/
theorem count_opening_group (symbols : List Symbol) :
    (Symbol.opening :: symbols ++ [Symbol.closing]).count .opening =
      symbols.count .opening + 1 := by
  simp

/-- A keyword opens no group. -/
theorem count_opening_keyword {keyword : Symbol} (h : keyword ≠ .opening)
    (before after : List Symbol) :
    (before ++ keyword :: after).count .opening = before.count .opening + after.count .opening := by
  simp [h]

namespace Grammar

mutual

/-- One operand that stands alone has the groups that it needs under a negation. -/
theorem Primary.groups_le {symbols : List Symbol} {query : Query} :
    Primary marker symbols query → query.groups .negation ≤ symbols.count .opening
  | .tag _ _ | .glob _ | .wildcard => Nat.zero_le _
  | .group inside => by
      have hinside := (Query.groups_combine .any _).trans_le inside.groups_le
      rw [count_opening_group]
      exact Nat.le_trans (Query.groups_negation_le _) (Nat.succ_le_succ hinside)

/-- A negation needs what its operand needs, which stands under it. -/
theorem Unary.groups_le {symbols : List Symbol} {query : Query} :
    Unary marker symbols query → query.groups .negation ≤ symbols.count .opening
  | .primary operand => operand.groups_le
  | .not operand => by
      have hoperand := operand.groups_le
      rw [Query.groups]
      simpa using hoperand

/-- A chain of conjunction has the groups that its operands need there. -/
theorem Conjuncts.groups_le {symbols : List Symbol} {queries : List Query} :
    Conjuncts marker symbols queries →
      Query.groupsAmong .all queries ≤ symbols.count .opening
  | .one operand => Nat.le_trans (Query.groups_all_le_negation _) operand.groups_le
  | .and operands operand => by
      have hoperand := Nat.le_trans (Query.groups_all_le_negation _) operand.groups_le
      rw [Query.groupsAmong_concat, count_opening_keyword (by simp)]
      exact Nat.add_le_add operands.groups_le hoperand

/-- So has a chain of disjunction. -/
theorem Disjuncts.groups_le {symbols : List Symbol} {queries : List Query} :
    Disjuncts marker symbols queries →
      Query.groupsAmong .any queries ≤ symbols.count .opening
  | .one operand => by
      have hoperand := (Query.groups_combine .all _).trans_le operand.groups_le
      exact Nat.le_trans (Query.groups_any_le_all _) hoperand
  | .or operands operand => by
      have hoperand := (Query.groups_combine .all _).trans_le operand.groups_le
      rw [Query.groupsAmong_concat, count_opening_keyword (by simp)]
      exact Nat.add_le_add operands.groups_le
        (Nat.le_trans (Query.groups_any_le_all _) hoperand)

end

/-- **Every derivation.**  Symbols that derive a query have the pairs of parentheses that the
query needs, at least. -/
theorem Derives.groups_le {symbols : List Symbol} {query : Query}
    (h : Derives marker symbols query) : query.groups .any ≤ symbols.count .opening := by
  cases h with
  | disjunction operands =>
      exact (Query.groups_combine .any _).trans_le operands.groups_le

end Grammar

/-! ## The canonical text has no others -/

/-- The text of a connective where it stands has the parentheses that it needs there. -/
theorem Spells.encloseText {text : Text} {symbols : List Symbol} (h : Spells marker text symbols)
    (connective : Connective) (around : Around) :
    ∃ enclosed, Spells marker (connective.encloseText around text) enclosed ∧
      enclosed.count .opening = connective.groups around + symbols.count .opening := by
  have hbare : ∃ enclosed, Spells marker text enclosed ∧
      enclosed.count .opening = 0 + symbols.count .opening := ⟨symbols, h, (Nat.zero_add _).symm⟩
  have hgroup : ∃ enclosed, Spells marker (TagFilter.parenthesize text) enclosed ∧
      enclosed.count .opening = 1 + symbols.count .opening :=
    ⟨_, h.parenthesize, (count_opening_group symbols).trans (Nat.add_comm _ 1)⟩
  cases connective with
  | all =>
      cases around with
      | all | any => exact hbare
      | negation => exact hgroup
  | any =>
      cases around with
      | any => exact hbare
      | all | negation => exact hgroup

/-- A name opens no group. -/
theorem count_opening_nameSymbol (name : Text) :
    [nameSymbol marker name].count .opening = 0 := by
  rw [nameSymbol]
  split <;> rfl

/-- Among the symbols as many parentheses open as the numbers come to. -/
def Opens (symbols : List Symbol) (counts : List Nat) : Prop :=
  symbols.count .opening = counts.sum

/-- On both sides of a keyword the groups are counted separately. -/
theorem Opens.append {keyword : Symbol} (h : keyword ≠ .opening) {left right : List Symbol}
    {before after : List Nat} (hleft : Opens left before) (hright : Opens right after) :
    Opens (left ++ keyword :: right) (before ++ after) := by
  rw [Opens] at hleft hright ⊢
  rw [count_opening_keyword h, hleft, hright, List.sum_append]

namespace Query

/-- Operands with the keyword between them have the groups that they need, together. -/
theorem exists_groups_operands (connective : Connective) {operands : List Query}
    (hne : operands ≠ [])
    (h : ∀ query ∈ operands,
      ∃ symbols, Spells marker (query.writeOperand marker connective.around) symbols ∧
        symbols.count .opening = query.groups connective.around) :
    ∃ symbols, Spells marker (connective.keyword.intercalate
        (operands.map (writeOperand marker connective.around))) symbols ∧
      symbols.count .opening = groupsAmong connective.around operands := by
  have hsymbol : connective.symbol ≠ .opening := by cases connective <;> decide
  have hoperand : ∀ query ∈ operands,
      ∃ symbols, Spells marker (query.writeOperand marker connective.around) symbols ∧
        Opens symbols [query.groups connective.around] := by
    simpa [Opens] using h
  rw [groupsAmong_eq_sum, List.map_eq_flatMap (f := groups connective.around)]
  exact spells_intercalate (Opens.append hsymbol) hne hoperand

/-- A connective where it stands has the groups of its operands, and its own. -/
theorem exists_groups_join (connective : Connective) {operands : List Query}
    (length : 2 ≤ operands.length)
    (h : ∀ query ∈ operands,
      ∃ symbols, Spells marker (query.writeOperand marker connective.around) symbols ∧
        symbols.count .opening = query.groups connective.around) (around : Around) :
    ∃ symbols, Spells marker ((connective.join operands).writeOperand marker around) symbols ∧
      symbols.count .opening = (connective.join operands).groups around := by
  have hne : operands ≠ [] := List.length_pos_iff.mp (Nat.lt_of_lt_of_le Nat.two_pos length)
  obtain ⟨symbols, hspells, hcount⟩ := exists_groups_operands connective hne h
  rw [writeOperand_join connective around (by omega), groups_join, ← hcount]
  exact hspells.encloseText connective around

/-- **Operands.**  Wherever an operand stands, its canonical text has just the groups that it
needs there. -/
theorem Formed.exists_groups_writeOperand {query : Query} (h : query.Formed marker 2)
    (around : Around) :
    ∃ symbols, Spells marker (query.writeOperand marker around) symbols ∧
      symbols.count .opening = query.groups around := by
  induction h generalizing around with
  | @tag name nonempty plain =>
      exact ⟨_, spells_writeName marker name, count_opening_nameSymbol name⟩
  | glob fits => exact ⟨_, spells_writeName marker _, count_opening_nameSymbol _⟩
  | negation _ ih =>
      obtain ⟨symbols, hspells, hcount⟩ := ih .negation
      refine ⟨.not :: symbols, hspells.writeNot, ?_⟩
      rw [groups, ← hcount]
      simp
  | join connective length _ ih =>
      exact exists_groups_join connective length
        (fun query hquery => ih query hquery connective.around) around

/-- The canonical text of a query that can be written has just the groups that it needs. -/
theorem Formed.exists_groups_write {query : Query} (h : query.Formed marker 2) :
    ∃ symbols, Spells marker (query.write marker) symbols ∧
      symbols.count .opening = query.groups .any := by
  rw [h.write_eq_writeOperand]
  exact h.exists_groups_writeOperand .any

end Query

/-! ## Texts that are read alike -/

/-- How many groups begin among the tokens of a text. -/
def countGroups (marker : Char) (text : Text) : Nat :=
  ((tokens marker text).tokens.map Token.symbol).count .opening

/-- The groups of a text are counted among the symbols that it spells. -/
theorem Spells.countGroups_eq {text : Text} {symbols : List Symbol}
    (h : Spells marker text symbols) : countGroups marker text = symbols.count .opening := by
  obtain ⟨found, stop, hfound, rfl⟩ := h
  rw [countGroups, hfound]

/-- **The fewest parentheses.**  A text that is read as the same query as a canonical text has
no fewer groups. -/
theorem countGroups_write_le {input text : Text} {query : Query}
    (h : parse marker input = .ok query) (htext : parse marker text = .ok query.normal) :
    countGroups marker (query.write marker) ≤ countGroups marker text := by
  rw [← Query.write_normal_of_parse h]
  rcases Query.formed_of_parse h with rfl | hformed
  · have hnone : countGroups marker [] = 0 := (spells_nil marker).countGroups_eq
    exact hnone.symm ▸ Nat.zero_le _
  · have hnormal := (hformed.mono (by decide : 1 ≤ 2)).normal
    obtain ⟨symbols, hspells, hcount⟩ := hnormal.exists_groups_write
    rw [hspells.countGroups_eq, hcount]
    obtain ⟨found, stop, hfound, ⟨-, hempty⟩ | hderives⟩ := exists_derives_of_parse htext
    · rw [hempty] at hnormal
      cases hnormal
    · rw [countGroups, hfound]
      exact hderives.groups_le

/-- What a token is, wherever it stands. -/
def Token.content (token : Token) : Kind × Text := (token.kind, token.value)

/-- Tokens with the same kinds and values have the same symbols. -/
theorem map_symbol_of_map_content {found other : List Token}
    (h : found.map Token.content = other.map Token.content) :
    found.map Token.symbol = other.map Token.symbol := by
  have hsymbol : Token.symbol = (fun content => content.1.symbol content.2) ∘ Token.content := rfl
  rw [hsymbol, ← List.map_map, h, List.map_map]

/-- A group among some tokens: its two parentheses, and the tokens before it, in it and
behind it. -/
structure Enclosure (tokens : List Token) where
  before : List Token
  opening : Token
  within : List Token
  closing : Token
  after : List Token
  split : tokens = before ++ opening :: (within ++ closing :: after)
  opens : opening.kind = .opening
  closes : closing.kind = .closing
  /-- The two parentheses belong together. -/
  nested : Nested (within.map Token.symbol)

/-- The tokens without the two parentheses of the group. -/
def Enclosure.leftOut {tokens : List Token} (group : Enclosure tokens) : List Token :=
  group.before ++ (group.within ++ group.after)

/-- Without a group there is one opening parenthesis less. -/
theorem Enclosure.count_leftOut {tokens : List Token} (group : Enclosure tokens) :
    (tokens.map Token.symbol).count .opening =
      (group.leftOut.map Token.symbol).count .opening + 1 := by
  have hopening : group.opening.symbol = .opening := by
    rw [Token.symbol, group.opens, Kind.symbol]
  have hclosing : group.closing.symbol = .closing := by
    rw [Token.symbol, group.closes, Kind.symbol]
  simp only [group.split, leftOut, List.map_append, List.map_cons, hopening, hclosing,
    List.count_append, List.count_cons_self]
  rw [List.count_cons_of_ne (by simp)]
  omega

/-- **No parentheses can be left out.**  Where the two parentheses of a group are left out of
the tokens of a canonical text, no text with the tokens that remain is read as the query that
the canonical text is read as. -/
theorem parse_ne_of_group_left_out {input text : Text} {query : Query}
    (h : parse marker input = .ok query)
    (group : Enclosure (tokens marker (query.write marker)).tokens)
    (htext : (tokens marker text).tokens.map Token.content = group.leftOut.map Token.content) :
    ∃ same, parse marker (query.write marker) = .ok same ∧ parse marker text ≠ .ok same := by
  refine ⟨query.normal, parse_write_of_parse h, fun hsame => ?_⟩
  have hle := countGroups_write_le h hsame
  rw [countGroups, countGroups, map_symbol_of_map_content htext, group.count_leftOut] at hle
  exact Nat.not_succ_le_self _ hle

/-- Without its only pair the negation is one of the first tag alone. -/
theorem parse_ne_of_negated_group_left_out :
    parse '*' "not (a and b)".toList = .ok (.negation (.all [.tag ['a'], .tag ['b']])) ∧
      ∃ group : Enclosure
          (tokens '*' ((Query.negation (.all [.tag ['a'], .tag ['b']])).write '*')).tokens,
        (tokens '*' "NOT a  AND b".toList).tokens.map Token.content =
            group.leftOut.map Token.content ∧
          ∃ same, parse '*' ((Query.negation (.all [.tag ['a'], .tag ['b']])).write '*') =
              .ok same ∧ parse '*' "NOT a  AND b".toList ≠ .ok same := by
  have hparse : parse '*' "not (a and b)".toList =
      .ok (.negation (.all [.tag ['a'], .tag ['b']])) := by cbv
  have hsplit : (tokens '*' ((Query.negation (.all [.tag ['a'], .tag ['b']])).write '*')).tokens =
      [⟨.not, ['N', 'O', 'T'], 0, 3⟩] ++ ⟨.opening, ['('], 4, 5⟩ ::
        ([⟨.text, ['a'], 5, 6⟩, ⟨.and, ['A', 'N', 'D'], 7, 10⟩, ⟨.text, ['b'], 11, 12⟩] ++
          ⟨.closing, [')'], 12, 13⟩ :: []) := by cbv
  have hnested : Nested [.name ['a'], .and, .name ['b']] :=
    .other (by simp) (by simp) (.other (by simp) (by simp) (.other (by simp) (by simp) .nil))
  have htext : (tokens '*' "NOT a  AND b".toList).tokens.map Token.content =
      [(.not, ['N', 'O', 'T']), (.text, ['a']), (.and, ['A', 'N', 'D']), (.text, ['b'])] := by cbv
  exact ⟨hparse, ⟨_, _, _, _, _, hsplit, rfl, rfl, hnested⟩, htext,
    parse_ne_of_group_left_out hparse ⟨_, _, _, _, _, hsplit, rfl, rfl, hnested⟩ htext⟩

end TagFilter
