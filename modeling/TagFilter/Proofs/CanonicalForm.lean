import Mathlib
import TagFilter.Proofs.Interchange

/-!
# The canonical text as a canonical form

Queries that were read are written alike exactly if they are the same tree once
every connective inside the same connective is spliced into it
(`write_eq_write_iff_of_parse`).  One direction is the round trip: the text tells
the spliced tree.  For the other, splicing must not show in the text, at any depth
and whatever the connective is an operand of.

A row of pieces that is put together from those of the operands, with a separator
between them, is a `Phrasing`; splicing does not show in any (`Phrasing.row_normal`).
Two are of use here: the canonical text, and the `spine` of a query, its symbols
without parentheses.  By the second, filters with one canonical text differ in
blanks, the letter case of keywords, quotes and parentheses alone.
-/

namespace TagFilter

open Grammar

/-! ## Rows with a separator -/

/-- Rows in two parts have the separator between the parts, too. -/
theorem intercalate_append {β : Type} (separator : List β) {before after : List (List β)}
    (hbefore : before ≠ []) (hafter : after ≠ []) :
    separator.intercalate (before ++ after) =
      separator.intercalate before ++ separator ++ separator.intercalate after := by
  induction before with
  | nil => exact absurd rfl hbefore
  | cons row before ih =>
      by_cases hempty : before = []
      · subst hempty
        rw [List.singleton_append, List.intercalate_cons_of_ne_nil hafter,
          List.intercalate_singleton]
      · have hrest : before ++ after ≠ [] := by simp [hempty]
        rw [List.cons_append, List.intercalate_cons_of_ne_nil hrest, ih hempty,
          List.intercalate_cons_of_ne_nil hempty]
        simp only [List.append_assoc]

/-- Rows that are each put together with the separator make up one such row. -/
theorem intercalate_flatMap {α β : Type} {separator : List β} {parts : α → List (List β)}
    {row : α → List β} {items : List α}
    (h : ∀ item ∈ items, parts item ≠ [] ∧ separator.intercalate (parts item) = row item) :
    separator.intercalate (items.flatMap parts) = separator.intercalate (items.map row) := by
  induction items with
  | nil => rfl
  | cons item items ih =>
      obtain ⟨hne, hrow⟩ := h item List.mem_cons_self
      have hrest := ih fun other hother => h other (List.mem_cons_of_mem item hother)
      cases items with
      | nil => simpa using hrow
      | cons next items =>
          have hnext : (next :: items).flatMap parts ≠ [] := by
            have hparts := (h next (by simp)).1
            simp [hparts]
          rw [List.flatMap_cons, intercalate_append separator hne hnext, hrest, hrow, List.map_cons]
          exact (List.intercalate_cons_of_ne_nil (by simp)).symm

/-! ## Splicing alone -/

namespace Query

mutual

/-- The query with every connective inside the same connective spliced into it, from
the leaves up; a connective with one operand stays. -/
def spliced : Query → Query
  | .empty => .empty
  | .tag name => .tag name
  | .glob g => .glob g
  | .negation operand => .negation operand.spliced
  | .all operands => .all (splicedOperands .all operands)
  | .any operands => .any (splicedOperands .any operands)

/-- Some queries, spliced, as operands of the connective. -/
def splicedOperands (connective : Connective) : List Query → List Query
  | [] => []
  | query :: queries => connective.operandsOf query.spliced ++ splicedOperands connective queries

end

/-- Operands are spliced apart. -/
theorem splicedOperands_eq_flatMap (connective : Connective) (queries : List Query) :
    splicedOperands connective queries =
      queries.flatMap fun query => connective.operandsOf query.spliced := by
  induction queries with
  | nil => rfl
  | cons query queries ih => rw [splicedOperands, ih, List.flatMap_cons]

/-- A connective has its operands spliced. -/
theorem spliced_join (connective : Connective) (operands : List Query) :
    (connective.join operands).spliced =
      connective.join (operands.flatMap fun query => connective.operandsOf query.spliced) := by
  cases connective <;> rw [Connective.join, spliced, splicedOperands_eq_flatMap]

variable {marker : Char}

/-- Without connectives of one operand there is nothing else to make flat. -/
theorem Formed.spliced_eq_normal {query : Query} (h : query.Formed marker 2) :
    query.spliced = query.normal := by
  induction h with
  | tag => rw [spliced, Query.normal]
  | glob => rw [spliced, Query.normal]
  | negation _ ih => rw [spliced, Query.normal, ih]
  | join connective length _ ih =>
      rw [spliced_join, normal_join connective (by omega)]
      refine congrArg connective.join (List.flatMap_congr fun query hquery => ?_)
      rw [ih query hquery]

end Query

/-! ## Phrasings -/

/-- A way to write queries as rows: the rows of operands with a separator between them,
enclosed where the connective stands in something else. -/
structure Phrasing (β : Type) where
  row : Around → Query → List β
  /-- What stands between the operands of the connective. -/
  separator : Connective → List β
  /-- What is made of the row of a connective where it stands. -/
  enclose : Connective → Around → List β → List β
  negate : List β → List β
  row_negation : ∀ (around : Around) (query : Query),
    row around (.negation query) = negate (row .negation query)
  row_alone : ∀ (connective : Connective) (around : Around) (query : Query),
    row around (connective.join [query]) = row around query
  row_join : ∀ (connective : Connective) (around : Around) (operands : List Query),
    operands.length ≠ 1 →
      row around (connective.join operands) =
        enclose connective around
          ((separator connective).intercalate (operands.map (row connective.around)))
  enclose_self : ∀ (connective : Connective) (cells : List β),
    enclose connective connective.around cells = cells

namespace Phrasing

variable {β : Type} (phrasing : Phrasing β) {marker : Char}

/-- An operand of a connective has the row of what it is spliced in as. -/
theorem row_operandsOf (connective : Connective) {query : Query} (h : query.Formed marker 2) :
    (phrasing.separator connective).intercalate
        ((connective.operandsOf query).map (phrasing.row connective.around)) =
      phrasing.row connective.around query := by
  rcases connective.operandsOf_cases query with ⟨inner, rfl, hinner⟩ | hone
  · have hlength := (Query.formed_join.mp h).1
    rw [hinner, phrasing.row_join connective connective.around inner (by omega),
      phrasing.enclose_self]
  · rw [hone, List.map_singleton, List.intercalate_singleton]

/-- A connective has the row of its normal form, if its operands have. -/
theorem row_normal_join (connective : Connective) {operands : List Query}
    (length : 1 ≤ operands.length) (formed : ∀ query ∈ operands, query.Formed marker 1)
    (ih : ∀ query ∈ operands, ∀ around,
      phrasing.row around query.normal = phrasing.row around query) (around : Around) :
    phrasing.row around (connective.join operands).normal =
      phrasing.row around (connective.join operands) := by
  by_cases hone : operands.length = 1
  · obtain ⟨query, rfl⟩ := List.length_eq_one_iff.mp hone
    rw [Query.normal_alone, phrasing.row_alone]
    exact ih query List.mem_cons_self around
  · have hparts : ∀ query ∈ operands,
        (connective.operandsOf query.normal).map (phrasing.row connective.around) ≠ [] ∧
          (phrasing.separator connective).intercalate
              ((connective.operandsOf query.normal).map (phrasing.row connective.around)) =
            phrasing.row connective.around query := by
      intro query hquery
      have hformed := (formed query hquery).normal
      refine ⟨by simpa using hformed.operandsOf_ne_nil connective, ?_⟩
      rw [phrasing.row_operandsOf connective hformed, ih query hquery]
    have hsplice := Query.length_le_length_flatMap fun query hquery =>
      (formed query hquery).normal.operandsOf_ne_nil connective
    rw [Query.normal_join connective hone,
      phrasing.row_join connective around _ (by omega), List.map_flatMap,
      intercalate_flatMap hparts, phrasing.row_join connective around operands hone]

/-- **The normal form does not show.**  However queries are written as rows of their
operands, a query and its normal form have one row wherever they stand. -/
theorem row_normal {query : Query} (h : query.Formed marker 1) (around : Around) :
    phrasing.row around query.normal = phrasing.row around query := by
  induction h generalizing around with
  | tag => rw [Query.normal]
  | glob => rw [Query.normal]
  | negation _ ih => rw [Query.normal, phrasing.row_negation, phrasing.row_negation, ih]
  | join connective length operand ih =>
      exact phrasing.row_normal_join connective length operand ih around

end Phrasing

/-! ## Canonical texts -/

namespace Query

variable {marker : Char}

/-- The canonical text of operands. -/
def texts (marker : Char) : Phrasing Char where
  row := writeOperand marker
  separator := Connective.keyword
  enclose := Connective.encloseText
  negate := writeNot
  row_negation _ _ := by rw [writeOperand]
  row_alone := writeOperand_alone
  row_join connective around _ := writeOperand_join connective around
  enclose_self := Connective.encloseText_around

/-- Where no connective has one operand, the root is written like an operand of a
disjunction. -/
theorem Formed.write_eq_writeOperand {query : Query} (h : query.Formed marker 2) :
    query.write marker = query.writeOperand marker .any := by
  cases h using Formed.inductionOn with
  | tag | glob | negation => rfl
  | join connective length =>
      rw [write_join, writeOperand_join connective .any (by omega)]
      cases connective <;> rfl

/-- A query that was read is written like its normal form. -/
theorem write_normal_of_parse {input : Text} {query : Query}
    (h : parse marker input = .ok query) : query.normal.write marker = query.write marker := by
  rcases formed_of_parse h with rfl | hformed
  · rfl
  · have hone : query.Formed marker 1 := hformed.mono (by decide)
    rw [hone.normal.write_eq_writeOperand, hformed.write_eq_writeOperand]
    exact (texts marker).row_normal hone .any

/-- A query that was read has no connective with one operand, so splicing is all that its
normal form takes. -/
theorem spliced_eq_normal_of_parse {input : Text} {query : Query}
    (h : parse marker input = .ok query) : query.spliced = query.normal := by
  rcases formed_of_parse h with rfl | hformed
  · rfl
  · exact hformed.spliced_eq_normal

end Query

/-! ## Symbols without parentheses -/

/-- The symbol, whether it was quoted or not: a marker in quotes stands for the same
glob as a lone marker. -/
def Symbol.unquoted (marker : Char) : Symbol → Symbol
  | .name text => if text = [marker] then .wildcard else .name text
  | symbol => symbol

/-- The symbols that are not parentheses, whether they were quoted or not. -/
def skeleton (marker : Char) (symbols : List Symbol) : List Symbol :=
  (symbols.filter fun symbol => symbol ≠ .opening ∧ symbol ≠ .closing).map (Symbol.unquoted marker)

variable {marker : Char}

/-- The skeleton is taken symbol by symbol. -/
theorem skeleton_append (left right : List Symbol) :
    skeleton marker (left ++ right) = skeleton marker left ++ skeleton marker right := by
  simp [skeleton]

/-- Parentheses around symbols leave their skeleton as it is. -/
theorem skeleton_group (symbols : List Symbol) :
    skeleton marker (.opening :: symbols ++ [.closing]) = skeleton marker symbols := by
  simp [skeleton]

/-- What is not a parenthesis stays in the skeleton, without its quotes. -/
theorem skeleton_cons {symbol : Symbol} (symbols : List Symbol) (opening : symbol ≠ .opening)
    (closing : symbol ≠ .closing) :
    skeleton marker (symbol :: symbols) = symbol.unquoted marker :: skeleton marker symbols := by
  simp [skeleton, opening, closing]

namespace Query

mutual

/-- The symbols of a query that are not parentheses. -/
def spine (marker : Char) : Query → List Symbol
  | .empty => []
  | .tag name => [.name name]
  | .glob g => [Symbol.unquoted marker (.name (g.toText marker))]
  | .negation operand => .not :: operand.spine marker
  | .all operands => [Symbol.and].intercalate (spines marker operands)
  | .any operands => [Symbol.or].intercalate (spines marker operands)

/-- The symbols of some queries that are not parentheses, apart. -/
def spines (marker : Char) : List Query → List (List Symbol)
  | [] => []
  | query :: queries => query.spine marker :: spines marker queries

end

/-- The spines of queries are apart. -/
theorem spines_eq_map (queries : List Query) :
    spines marker queries = queries.map (spine marker) := by
  induction queries with
  | nil => rfl
  | cons query queries ih => rw [spines, ih, List.map_cons]

/-- A connective has the spines of its operands with its symbol between them. -/
theorem spine_join (connective : Connective) (operands : List Query) :
    (connective.join operands).spine marker =
      [connective.symbol].intercalate (operands.map (spine marker)) := by
  cases connective <;> rw [Connective.join, spine, spines_eq_map, Connective.symbol]

/-- So has a chain of operands. -/
theorem spine_combine (connective : Connective) (operands : List Query) :
    (connective.combine operands).spine marker =
      [connective.symbol].intercalate (operands.map (spine marker)) := by
  by_cases hone : operands.length = 1
  · obtain ⟨query, rfl⟩ := List.length_eq_one_iff.mp hone
    rw [connective.combine_singleton, List.map_singleton, List.intercalate_singleton]
  · rw [connective.combine_eq_join hone, spine_join]

/-- The symbols without parentheses, wherever the query stands. -/
def symbols (marker : Char) : Phrasing Symbol where
  row _ := spine marker
  separator connective := [connective.symbol]
  enclose _ _ cells := cells
  negate cells := .not :: cells
  row_negation _ _ := by rw [spine]
  row_alone connective _ query := by
    rw [spine_join, List.map_singleton, List.intercalate_singleton]
  row_join connective _ operands _ := spine_join connective operands
  enclose_self _ _ := rfl

end Query

namespace Grammar

/-- One more operand adds its skeleton behind the symbol of the connective. -/
theorem skeleton_concat (connective : Connective) {before symbols : List Symbol}
    {queries : List Query} {query : Query} (hne : queries ≠ [])
    (hbefore : skeleton marker before =
      [connective.symbol].intercalate (queries.map (Query.spine marker)))
    (hlast : skeleton marker symbols = query.spine marker) :
    skeleton marker (before ++ connective.symbol :: symbols) =
      [connective.symbol].intercalate ((queries ++ [query]).map (Query.spine marker)) := by
  have hqueries : queries.map (Query.spine marker) ≠ [] := mt List.map_eq_nil_iff.mp hne
  have hsymbol : skeleton marker (connective.symbol :: symbols) =
      [connective.symbol] ++ query.spine marker := by
    rw [← hlast]
    cases connective <;> rfl
  rw [skeleton_append, hsymbol, hbefore, List.map_append, List.map_singleton,
    intercalate_append [connective.symbol] hqueries (by simp), List.intercalate_singleton,
    List.append_assoc]

mutual

/-- The symbols of an operand are the spine of its tree, but for parentheses. -/
theorem Primary.skeleton_eq_spine {symbols : List Symbol} {query : Query} :
    Primary marker symbols query → skeleton marker symbols = query.spine marker
  | .tag _ plain => by
      have hname : ∀ text, marker ∉ text → text ≠ [marker] := by
        rintro text hplain rfl
        exact hplain List.mem_cons_self
      rw [skeleton_cons _ (by simp) (by simp), Symbol.unquoted, if_neg (hname _ plain), Query.spine]
      rfl
  | .glob _ => by
      rw [skeleton_cons _ (by simp) (by simp), Query.spine, Glob.toText_ofText]
      rfl
  | .wildcard => by
      simp [skeleton, Query.spine, Symbol.unquoted, Glob.ofSegments, Glob.nothing,
        Glob.prependGap, Glob.toText]
  | .group inside => by
      exact (skeleton_group _).trans
        (inside.skeleton_eq_spine.trans (Query.spine_combine .any _).symm)

/-- A negation adds its symbol. -/
theorem Unary.skeleton_eq_spine {symbols : List Symbol} {query : Query} :
    Unary marker symbols query → skeleton marker symbols = query.spine marker
  | .primary operand => operand.skeleton_eq_spine
  | .not operand => by
      rw [skeleton_cons _ (by simp) (by simp), operand.skeleton_eq_spine, Query.spine]
      rfl

/-- A chain of conjunction has the spines of its operands. -/
theorem Conjuncts.skeleton_eq_spine {symbols : List Symbol} {queries : List Query} :
    Conjuncts marker symbols queries → skeleton marker symbols =
      [Connective.all.symbol].intercalate (queries.map (Query.spine marker))
  | .one operand => by
      rw [operand.skeleton_eq_spine, List.map_singleton, List.intercalate_singleton]
  | .and operands operand =>
      skeleton_concat .all operands.ne_nil operands.skeleton_eq_spine operand.skeleton_eq_spine

/-- A chain of disjunction has the spines of its operands. -/
theorem Disjuncts.skeleton_eq_spine {symbols : List Symbol} {queries : List Query} :
    Disjuncts marker symbols queries → skeleton marker symbols =
      [Connective.any.symbol].intercalate (queries.map (Query.spine marker))
  | .one operand => by
      rw [List.map_singleton, List.intercalate_singleton]
      exact operand.skeleton_eq_spine.trans (Query.spine_combine .all _).symm
  | .or operands operand =>
      skeleton_concat .any operands.ne_nil operands.skeleton_eq_spine
        (operand.skeleton_eq_spine.trans (Query.spine_combine .all _).symm)

end

/-- **Derivations.**  Symbols that derive a query are its spine, but for parentheses. -/
theorem Derives.skeleton_eq_spine {symbols : List Symbol} {query : Query}
    (h : Derives marker symbols query) : skeleton marker symbols = query.spine marker := by
  cases h with
  | disjunction operands =>
      exact operands.skeleton_eq_spine.trans (Query.spine_combine .any _).symm

end Grammar

/-- The symbols of a filter without parentheses are the spine of its normal form. -/
theorem skeleton_of_parse {input : Text} {query : Query} (h : parse marker input = .ok query) :
    skeleton marker ((tokens marker input).tokens.map Token.symbol) =
      query.normal.spine marker := by
  obtain ⟨found, stop, hfound, ⟨rfl, rfl⟩ | hderives⟩ := exists_derives_of_parse h
  · rw [hfound]
    rfl
  · have hone : query.Formed marker 1 := hderives.formed.mono (by decide)
    have hnormal : query.normal.spine marker = query.spine marker :=
      (Query.symbols marker).row_normal hone .any
    rw [hfound, hnormal, hderives.skeleton_eq_spine]

/-- **The canonical text is a canonical form.**  Two filters are written alike exactly
if their trees are the same once every connective inside the same connective is spliced
into it.  What is written is read again, and written like that again.  And filters that
are written alike have the same symbols but for parentheses and quotes: they differ in
blanks, the letter case of keywords, quotes, and parentheses that change nothing in the
spliced tree. -/
theorem write_eq_write_iff_of_parse {left right : Text} {query other : Query}
    (h : parse marker left = .ok query) (h' : parse marker right = .ok other) :
    (query.write marker = other.write marker ↔ query.spliced = other.spliced) ∧
      (∃ again, parse marker (query.write marker) = .ok again ∧
        again.write marker = query.write marker) ∧
      (query.write marker = other.write marker →
        skeleton marker ((tokens marker left).tokens.map Token.symbol) =
          skeleton marker ((tokens marker right).tokens.map Token.symbol)) := by
  have hread := parse_write_of_parse h
  have hread' := parse_write_of_parse h'
  have hnormal : query.write marker = other.write marker → query.normal = other.normal := by
    intro htext
    rw [htext] at hread
    exact Except.ok.inj (hread.symm.trans hread')
  refine ⟨⟨fun htext => ?_, fun hspliced => ?_⟩, ⟨query.normal, hread, ?_⟩, fun htext => ?_⟩
  · rw [Query.spliced_eq_normal_of_parse h, Query.spliced_eq_normal_of_parse h', hnormal htext]
  · rw [Query.spliced_eq_normal_of_parse h, Query.spliced_eq_normal_of_parse h'] at hspliced
    rw [← Query.write_normal_of_parse h, hspliced, Query.write_normal_of_parse h']
  · exact Query.write_normal_of_parse h
  · rw [skeleton_of_parse h, skeleton_of_parse h', hnormal htext]

/-- Two trees with one canonical text: a nested chain and a flat one, with keywords,
quotes and parentheses written in other ways. -/
theorem write_eq_write_of_parse_chains :
    ∃ query other : Query,
      parse '*' "a and (B AND (NOT \"*\" or c))".toList = .ok query ∧
        parse '*' "(a)AND B and(NOT * OR 'c')".toList = .ok other ∧
        query ≠ other ∧ query.spliced = other.spliced ∧
        query.write '*' = other.write '*' ∧
        (∃ again, parse '*' (query.write '*') = .ok again ∧
          again.write '*' = query.write '*') ∧
        skeleton '*'
            ((tokens '*' "a and (B AND (NOT \"*\" or c))".toList).tokens.map Token.symbol) =
          skeleton '*'
            ((tokens '*' "(a)AND B and(NOT * OR 'c')".toList).tokens.map Token.symbol) := by
  have hnested : parse '*' "a and (B AND (NOT \"*\" or c))".toList = .ok
      (.all [.tag ['a'], .all [.tag ['B'],
        .any [.negation (.glob ⟨[], [[]]⟩), .tag ['c']]]]) := by cbv
  have hflat : parse '*' "(a)AND B and(NOT * OR 'c')".toList = .ok
      (.all [.tag ['a'], .tag ['B'],
        .any [.negation (.glob ⟨[], [[]]⟩), .tag ['c']]]) := by cbv
  obtain ⟨hiff, hagain, hskeleton⟩ := write_eq_write_iff_of_parse hnested hflat
  have htext := hiff.mpr rfl
  exact ⟨_, _, hnested, hflat, by decide, rfl, htext, hagain, hskeleton htext⟩

end TagFilter
