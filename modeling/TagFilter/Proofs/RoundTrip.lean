import TagFilter.Proofs.Acceptance
import TagFilter.Proofs.NormalForm
import TagFilter.Proofs.Spelling

/-!
# Reading what was written

The text of a query is read back as its normal form.  What an operand is written
as depends on what it is an operand of, and so does what its symbols are to the
grammar: a chain that goes on with the operands around it, or one operand that
stands alone (`Around.Phrase`).  `Query.Formed.phrase` goes through a query with
all three at once.

The marker may be any character, a letter or a quote too: a name or a glob with
a character that means something to the scanner is quoted, and a lone marker is
read as the glob that it is.
-/

namespace TagFilter

open Grammar

variable {marker : Char}

/-! ## Operands -/

/-- What the symbols of an operand are to the grammar, where the operand may
stand: operands of the chain it is written in, or the one operand of a negation. -/
def Around.Phrase (marker : Char) : Around → List Symbol → Query → Prop
  | .all, symbols, query => Conjuncts marker symbols (Connective.all.operandsOf query)
  | .any, symbols, query => Disjuncts marker symbols (Connective.any.operandsOf query)
  | .negation, symbols, query => Unary marker symbols query

/-- As an operand of a connective it is a chain of that connective. -/
theorem phrase_around {symbols : List Symbol} {query : Query} (connective : Connective) :
    connective.around.Phrase marker symbols query ↔
      Chain marker connective symbols (connective.operandsOf query) := by
  cases connective <;> exact Iff.rfl

/-- A phrase that is an operand wherever it stands. -/
theorem phrase_of_unary {symbols : List Symbol} {query : Query} (h : Unary marker symbols query)
    (halone : ∀ connective : Connective, connective.operandsOf query = [query])
    (around : Around) : around.Phrase marker symbols query := by
  cases around with
  | all =>
      rw [Around.Phrase, halone]
      exact .one h
  | any =>
      rw [Around.Phrase, halone]
      exact .one (.one h)
  | negation => exact h

/-- The text of a tag is one operand. -/
theorem exists_primary_tag {name : Text} (nonempty : name ≠ []) (plain : marker ∉ name) :
    ∃ symbols, Spells marker (writeName name) symbols ∧ Primary marker symbols (.tag name) :=
  ⟨_, spells_writeName_of_plain plain, .tag nonempty plain⟩

/-- The text of a glob is one operand: a name, or a lone marker. -/
theorem exists_primary_glob {g : Glob} (fits : g.Fits marker) :
    ∃ symbols, Spells marker (writeName (g.toText marker)) symbols ∧
      Primary marker symbols (.glob g) := by
  have hspells := spells_writeName marker (g.toText marker)
  have hread := Glob.ofText_toText (Glob.plain_iff.mp fits.plain)
  refine ⟨_, hspells, ?_⟩
  rw [nameSymbol]
  split
  · rename_i hlone
    have hgap : g = .ofSegments [.wildcard] := by
      rw [← hread, hlone.1]
      simp [Glob.ofText, Glob.ofSegments]
    rw [hgap]
    exact .wildcard
  · have hprimary : Primary marker [.name (g.toText marker)] _ :=
      .glob (Glob.marker_mem_toText fits.gap)
    rwa [hread] at hprimary

namespace Query

/-- What a formed query is spliced as makes it up again. -/
theorem Formed.combine_operandsOf (connective : Connective) {query : Query}
    (h : query.Formed marker 2) : connective.combine (connective.operandsOf query) = query := by
  rcases connective.operandsOf_cases query with ⟨inner, rfl, hinner⟩ | hone
  · have hlength := (formed_join.mp h).1
    rw [hinner]
    exact connective.combine_eq_join (by omega)
  · rw [hone, connective.combine_singleton]

/-- The normal form of a connective, whether it has one operand or more. -/
theorem Formed.normal_join_eq_combine {connective : Connective} {operands : List Query}
    (length : 1 ≤ operands.length) (operand : ∀ query ∈ operands, query.Formed marker 1) :
    (connective.join operands).normal =
      connective.combine (operands.flatMap fun query => connective.operandsOf query.normal) := by
  by_cases hone : operands.length = 1
  · obtain ⟨query, rfl⟩ := List.length_eq_one_iff.mp hone
    have hnormal := (operand query List.mem_cons_self).normal
    rw [normal_alone, List.flatMap_singleton, hnormal.combine_operandsOf]
  · have hsplice := length_le_length_flatMap fun query hquery =>
      (operand query hquery).normal.operandsOf_ne_nil connective
    rw [normal_join connective hone, connective.combine_eq_join (by omega)]

/-- A chain of a connective is, enclosed as it has to be, a phrase wherever it stands. -/
theorem exists_phrase_encloseText {connective : Connective} {text : Text}
    {symbols : List Symbol} {operands : List Query} (hlength : 2 ≤ operands.length)
    (hspells : Spells marker text symbols) (hchain : Chain marker connective symbols operands)
    (around : Around) :
    ∃ enclosed, Spells marker (connective.encloseText around text) enclosed ∧
      around.Phrase marker enclosed (connective.join operands) := by
  have hcombine : connective.combine operands = connective.join operands :=
    connective.combine_eq_join (by omega)
  have hgroup := hchain.derives.group
  rw [hcombine] at hgroup
  cases connective with
  | all =>
      cases around with
      | all => exact ⟨symbols, hspells, hchain⟩
      | any =>
          have hone : Disjuncts marker symbols [Connective.all.combine operands] := .one hchain
          rw [hcombine] at hone
          exact ⟨symbols, hspells, hone⟩
      | negation => exact ⟨_, hspells.parenthesize, hgroup⟩
  | any =>
      cases around with
      | all => exact ⟨_, hspells.parenthesize, .one hgroup⟩
      | any => exact ⟨symbols, hspells, hchain⟩
      | negation => exact ⟨_, hspells.parenthesize, hgroup⟩

/-- The operands of a connective, each a phrase there, are a chain of it. -/
theorem exists_chain_operands (connective : Connective) {operands : List Query}
    (hne : operands ≠ [])
    (h : ∀ query ∈ operands,
      ∃ symbols, Spells marker (query.writeOperand marker connective.around) symbols ∧
        connective.around.Phrase marker symbols query.normal) :
    ∃ symbols, Spells marker (connective.keyword.intercalate
        (operands.map (writeOperand marker connective.around))) symbols ∧
      Chain marker connective symbols
        (operands.flatMap fun query => connective.operandsOf query.normal) := by
  have hoperand : ∀ query ∈ operands,
      ∃ symbols, Spells marker (query.writeOperand marker connective.around) symbols ∧
        Chain marker connective symbols (connective.operandsOf query.normal) := by
    intro query hquery
    obtain ⟨symbols, hspells, hphrase⟩ := h query hquery
    exact ⟨symbols, hspells, (phrase_around connective).mp hphrase⟩
  exact spells_intercalate Chain.append hne hoperand

/-- **Operands.**  The text of an operand is, where it stands, a phrase of its
normal form. -/
theorem Formed.phrase {query : Query} (h : query.Formed marker 1) (around : Around) :
    ∃ symbols, Spells marker (query.writeOperand marker around) symbols ∧
      around.Phrase marker symbols query.normal := by
  induction h generalizing around with
  | tag nonempty plain =>
      obtain ⟨symbols, hspells, hprimary⟩ := exists_primary_tag nonempty plain
      refine ⟨symbols, hspells, phrase_of_unary (.primary hprimary) ?_ around⟩
      exact fun connective => by cases connective <;> rfl
  | glob fits =>
      obtain ⟨symbols, hspells, hprimary⟩ := exists_primary_glob fits
      refine ⟨symbols, hspells, phrase_of_unary (.primary hprimary) ?_ around⟩
      exact fun connective => by cases connective <;> rfl
  | negation _ ih =>
      obtain ⟨symbols, hspells, hunary⟩ := ih .negation
      refine ⟨.not :: symbols, hspells.writeNot, phrase_of_unary (.not hunary) ?_ around⟩
      exact fun connective => by cases connective <;> rfl
  | @join connective operands length operand ih =>
      by_cases hone : operands.length = 1
      · obtain ⟨query, rfl⟩ := List.length_eq_one_iff.mp hone
        rw [writeOperand_alone, normal_alone]
        exact ih query List.mem_cons_self around
      · have hsplice := length_le_length_flatMap fun query hquery =>
          (operand query hquery).normal.operandsOf_ne_nil connective
        obtain ⟨symbols, hspells, hchain⟩ := exists_chain_operands connective
          (List.length_pos_iff.mp length) fun query hquery => ih query hquery connective.around
        rw [writeOperand_join connective around hone, normal_join connective hone]
        exact exists_phrase_encloseText (by omega) hspells hchain around

/-! ## Whole queries -/

/-- The text of a query spells symbols that derive its normal form.  The root is
written in the chain that it is, even if it has one operand. -/
theorem Formed.exists_derives_write {query : Query} (h : query.Formed marker 1) :
    ∃ symbols, Spells marker (query.write marker) symbols ∧
      Derives marker symbols query.normal := by
  have hleaf : query.write marker = query.writeOperand marker .negation →
      ∃ symbols, Spells marker (query.write marker) symbols ∧
        Derives marker symbols query.normal := by
    intro hwrite
    obtain ⟨symbols, hspells, hunary⟩ := h.phrase .negation
    rw [hwrite]
    exact ⟨symbols, hspells, hunary.derives⟩
  cases h using Formed.inductionOn with
  | tag | glob | negation => exact hleaf rfl
  | join connective length operand =>
      obtain ⟨symbols, hspells, hchain⟩ := exists_chain_operands connective
        (List.length_pos_iff.mp length) fun query hquery =>
          (operand query hquery).phrase connective.around
      rw [write_join, Formed.normal_join_eq_combine length operand]
      exact ⟨symbols, hspells, hchain.derives⟩

/-- A text that spells symbols of the grammar is read as their tree. -/
theorem parse_of_spells {text : Text} {symbols : List Symbol} {query : Query}
    (hspells : Spells marker text symbols) (h : Derives marker symbols query) :
    parse marker text = .ok query := by
  obtain ⟨found, stop, hfound, rfl⟩ := hspells
  exact parse_of_derives hfound h

/-- The text of a query that can be written is read as its normal form. -/
theorem Formed.parse_write {query : Query} (h : query.Formed marker 1) :
    parse marker (query.write marker) = .ok query.normal := by
  obtain ⟨symbols, hspells, hderives⟩ := h.exists_derives_write
  exact parse_of_spells hspells hderives

end Query

/-- The empty text is read as the empty query. -/
theorem parse_nil (marker : Char) : parse marker [] = .ok .empty :=
  parse_of_blank (Scan.stream_of_pull_ending rfl)

/-- **Reading what was written.**  The text of a query with any marker, written by
hand or read with another marker, is read with that marker as the normal form of
the query. -/
theorem parse_write_eq_normal (marker : Char) (query : Query)
    (h : query = .empty ∨ query.Formed marker 1) :
    parse marker (query.write marker) = .ok query.normal := by
  rcases h with rfl | hformed
  · exact parse_nil marker
  · exact hformed.parse_write

/-- The marker may be the quote that names are written in, and names may be
keywords or have blanks, parentheses and backslashes in them. -/
theorem parse_write_eq_normal_quote :
    (Query.all [.any [.all [.tag ['O', 'R']], .tag ['a', ' ', '(']],
      .all [.tag ['\\'], .negation (.any [.glob ⟨[], [['x']]⟩])]]).Formed '"' 1 ∧
    parse '"' ((Query.all [.any [.all [.tag ['O', 'R']], .tag ['a', ' ', '(']],
      .all [.tag ['\\'], .negation (.any [.glob ⟨[], [['x']]⟩])]]).write '"') =
        .ok (.all [.any [.tag ['O', 'R'], .tag ['a', ' ', '(']], .tag ['\\'],
          .negation (.glob ⟨[], [['x']]⟩)]) := by
  have hglob : Glob.Fits '"' ⟨[], [['x']]⟩ := ⟨by decide, Glob.plain_iff.mpr (by decide)⟩
  have hformed : (Query.all [.any [.all [.tag ['O', 'R']], .tag ['a', ' ', '(']],
      .all [.tag ['\\'], .negation (.any [.glob ⟨[], [['x']]⟩])]]).Formed '"' 1 := by
    simp [hglob]
  exact ⟨hformed, parse_write_eq_normal '"' _ (.inr hformed)⟩

end TagFilter
