import TagFilter.Proofs.NormalForm
import TagFilter.Proofs.Spelling

/-!
# What the leaves of a query are read back as

A written name is one token, whatever characters are in it: it cannot end a group,
begin one, or add an operator.  So the text of any query, one that no reading
builds too, is scanned to its end, its groups are properly nested, and its names
and lone markers are the texts of its leaves from left to right
(`leaves_of_tokens_write`).

Both facts are about symbols in a row (`Leaves`), and are kept by what a query is
written with: keywords between operands, a keyword in front, and parentheses.
-/

namespace TagFilter

variable {marker : Char}

/-! ## Symbols in a row -/

/-- The groups among the symbols are properly nested. -/
inductive Nested : List Symbol → Prop
  | nil : Nested []
  | other {symbol : Symbol} {rest : List Symbol} (opening : symbol ≠ .opening)
      (closing : symbol ≠ .closing) (later : Nested rest) : Nested (symbol :: rest)
  | group {inside rest : List Symbol} (within : Nested inside) (later : Nested rest) :
      Nested (.opening :: (inside ++ .closing :: rest))

/-- Nested symbols may follow nested symbols. -/
theorem Nested.append {left right : List Symbol} (hleft : Nested left) (hright : Nested right) :
    Nested (left ++ right) := by
  induction hleft with
  | nil => exact hright
  | other opening closing _ ih => exact .other opening closing ih
  | group within _ _ ih =>
      rw [List.cons_append, List.append_assoc, List.cons_append]
      exact .group within ih

/-- The text of a leaf, which for a lone marker is the marker. -/
def Symbol.leafText? (marker : Char) : Symbol → Option Text
  | .name text => some text
  | .wildcard => some [marker]
  | .and | .or | .not | .opening | .closing => none

/-- The groups among the symbols are properly nested, and their leaves have these
texts. -/
structure Leaves (marker : Char) (symbols : List Symbol) (texts : List Text) : Prop where
  nested : Nested symbols
  texts : symbols.filterMap (Symbol.leafText? marker) = texts

namespace Leaves

/-- No symbols have no leaves. -/
theorem nil (marker : Char) : Leaves marker [] [] := ⟨.nil, rfl⟩

/-- A keyword adds no leaf. -/
theorem keyword {symbol : Symbol} {symbols : List Symbol} {texts : List Text}
    (opening : symbol ≠ .opening) (closing : symbol ≠ .closing)
    (hleaf : symbol.leafText? marker = none) (h : Leaves marker symbols texts) :
    Leaves marker (symbol :: symbols) texts :=
  ⟨.other opening closing h.nested, by rw [List.filterMap_cons_none hleaf, h.texts]⟩

/-- Leaves come in the order of their symbols. -/
theorem append {left right : List Symbol} {before after : List Text}
    (hleft : Leaves marker left before) (hright : Leaves marker right after) :
    Leaves marker (left ++ right) (before ++ after) :=
  ⟨hleft.nested.append hright.nested, by rw [List.filterMap_append, hleft.texts, hright.texts]⟩

/-- A group has the leaves of what is in it. -/
theorem group {symbols : List Symbol} {texts : List Text} (h : Leaves marker symbols texts) :
    Leaves marker (.opening :: symbols ++ [.closing]) texts := by
  refine ⟨.group h.nested .nil, ?_⟩
  rw [List.filterMap_append, List.filterMap_cons_none rfl, h.texts]
  exact List.append_nil texts

end Leaves

/-- A name is one leaf with its own text, also where it is read as a lone marker. -/
theorem leaves_nameSymbol (marker : Char) (name : Text) :
    Leaves marker [nameSymbol marker name] [name] := by
  rw [nameSymbol]
  split
  · rename_i hlone
    rw [hlone.1]
    exact ⟨.other (by simp) (by simp) .nil, rfl⟩
  · exact ⟨.other (by simp) (by simp) .nil, rfl⟩

/-! ## Queries -/

namespace Query

mutual

/-- The texts of the leaves of a query, from left to right. -/
def leafTexts (marker : Char) : Query → List Text
  | .empty => []
  | .tag name => [name]
  | .glob g => [g.toText marker]
  | .all operands | .any operands => leafTextsOfList marker operands
  | .negation operand => operand.leafTexts marker

/-- The texts of the leaves of some queries, from left to right. -/
def leafTextsOfList (marker : Char) : List Query → List Text
  | [] => []
  | query :: queries => query.leafTexts marker ++ leafTextsOfList marker queries

end

/-- The leaves of queries are listed apart. -/
theorem leafTextsOfList_eq_flatMap (queries : List Query) :
    leafTextsOfList marker queries = queries.flatMap (leafTexts marker) := by
  induction queries with
  | nil => rfl
  | cons query queries ih => rw [leafTextsOfList, ih, List.flatMap_cons]

/-- A connective has the leaves of its operands. -/
theorem leafTexts_join (connective : Connective) (operands : List Query) :
    (connective.join operands).leafTexts marker = operands.flatMap (leafTexts marker) := by
  cases connective <;> rw [Connective.join, leafTexts, leafTextsOfList_eq_flatMap]

/-- Operands with the keyword between them, which may be none at all. -/
theorem exists_leaves_join (connective : Connective) {operands : List Query}
    (h : ∀ query ∈ operands,
      ∃ symbols, Spells marker (query.writeOperand marker connective.around) symbols ∧
        Leaves marker symbols (query.leafTexts marker)) :
    ∃ symbols, Spells marker (connective.keyword.intercalate
        (operands.map (writeOperand marker connective.around))) symbols ∧
      Leaves marker symbols ((connective.join operands).leafTexts marker) := by
  have hsymbol : connective.symbol ≠ .opening ∧ connective.symbol ≠ .closing ∧
      connective.symbol.leafText? marker = none := by
    cases connective <;> exact ⟨by decide, by decide, rfl⟩
  obtain ⟨hopening, hclosing, hleaf⟩ := hsymbol
  rw [leafTexts_join]
  by_cases hempty : operands = []
  · subst hempty
    exact ⟨[], spells_nil marker, .nil marker⟩
  · exact spells_intercalate
      (fun hleft hright => hleft.append (hright.keyword hopening hclosing hleaf)) hempty h

/-- The text of a connective spells the same leaves, whether it is enclosed or not. -/
theorem exists_leaves_encloseText (connective : Connective) (around : Around) {text : Text}
    {texts : List Text} (h : ∃ symbols, Spells marker text symbols ∧ Leaves marker symbols texts) :
    ∃ symbols, Spells marker (connective.encloseText around text) symbols ∧
      Leaves marker symbols texts := by
  obtain ⟨symbols, hspells, hleaves⟩ := h
  rcases connective.encloseText_cases around text with hbare | hgroup
  · exact ⟨symbols, by rwa [hbare], hleaves⟩
  · exact ⟨_, by rw [hgroup]; exact hspells.parenthesize, hleaves.group⟩

/-- **Operands.**  Wherever an operand stands, its text spells its leaves. -/
theorem exists_leaves_writeOperand (query : Query) (around : Around) :
    ∃ symbols, Spells marker (query.writeOperand marker around) symbols ∧
      Leaves marker symbols (query.leafTexts marker) := by
  induction query generalizing around with
  | empty => exact ⟨[], spells_nil marker, .nil marker⟩
  | tag name => exact ⟨_, spells_writeName marker name, leaves_nameSymbol marker name⟩
  | glob g => exact ⟨_, spells_writeName marker _, leaves_nameSymbol marker _⟩
  | negation query ih =>
      obtain ⟨symbols, hspells, hleaves⟩ := ih .negation
      exact ⟨_, hspells.writeNot, hleaves.keyword (by decide) (by decide) rfl⟩
  | join connective operands ih =>
      -- one operand is written as itself, where the connective stands
      by_cases hone : operands.length = 1
      · obtain ⟨query, rfl⟩ := List.length_eq_one_iff.mp hone
        rw [writeOperand_alone, leafTexts_join, List.flatMap_singleton]
        exact ih query List.mem_cons_self around
      · rw [writeOperand_join connective around hone]
        exact exists_leaves_encloseText connective around
          (exists_leaves_join connective fun query hquery => ih query hquery connective.around)

/-- The root is written as the connective that it is. -/
theorem exists_leaves_write (marker : Char) (query : Query) :
    ∃ symbols, Spells marker (query.write marker) symbols ∧
      Leaves marker symbols (query.leafTexts marker) := by
  cases query using inductionOn with
  | empty | tag | glob | negation => exact exists_leaves_writeOperand _ .any
  | join connective operands =>
      rw [write_join]
      exact exists_leaves_join connective fun query _ =>
        query.exists_leaves_writeOperand connective.around

end Query

/-! ## Tokens -/

/-- The text of a token that is a leaf. -/
def Token.leafText? (token : Token) : Option Text :=
  match token.kind with
  | .text | .wildcard => some token.value
  | .and | .or | .not | .opening | .closing => none

/-- The symbol of a proper token tells the text of its leaf. -/
theorem Token.Proper.leafText?_symbol {token : Token} (h : token.Proper marker) :
    token.symbol.leafText? marker = token.leafText? := by
  rw [Token.symbol, Token.leafText?]
  cases hkind : token.kind with
  | wildcard => rw [h hkind]; rfl
  | text | and | or | not | opening | closing => rfl

/-- **The text of any query.**  It is scanned to its end, its groups are properly
nested, and the texts of the tokens that are names or lone markers are those of
the leaves of the query, in the same order. -/
theorem leaves_of_tokens_write (marker : Char) (query : Query) :
    ∃ found stop, tokens marker (query.write marker) = ⟨found, .done stop⟩ ∧
      Nested (found.map Token.symbol) ∧
      found.filterMap Token.leafText? = query.leafTexts marker := by
  obtain ⟨_, ⟨found, stop, hfound, rfl⟩, nested, texts⟩ := query.exists_leaves_write marker
  refine ⟨found, stop, hfound, nested, ?_⟩
  rw [← texts, List.filterMap_map]
  apply List.filterMap_congr
  intro token htoken
  have hproper : token.Proper marker := proper_of_mem_tokens token (by rwa [hfound])
  exact hproper.leafText?_symbol.symm

end TagFilter
