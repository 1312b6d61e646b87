import Mathlib.Data.List.TakeWhile
import TagFilter.Proofs.Grammar
import TagFilter.Proofs.Scanning

/-!
# Spelling symbols

A text spells symbols if it is scanned to its end and they are the symbols of
its tokens.  Texts that spell symbols are put together piece by piece: blanks,
parentheses, words and quoted texts each add their own, whatever follows them.

The written form of a name spells one symbol (`spells_writeName`): the name
itself, or a lone marker if the name is one and needs no quotes.  Keywords,
blanks, parentheses, quotes and backslashes in a name change nothing.
-/

namespace TagFilter

/-- The text is scanned to its end, and its tokens have these symbols. -/
def Spells (marker : Char) (text : Text) (symbols : List Symbol) : Prop :=
  ∃ found stop, tokens marker text = ⟨found, .done stop⟩ ∧ found.map Token.symbol = symbols

variable {marker : Char}

/-! ## Pieces -/

/-- The empty text spells nothing. -/
theorem spells_nil (marker : Char) : Spells marker [] [] :=
  ⟨[], 0, Scan.stream_of_pull_ending rfl, rfl⟩

/-- A place in front of a text does not change what it spells. -/
theorem Spells.stream_moved {text : Text} {symbols : List Symbol} (h : Spells marker text symbols)
    (n : Nat) : ∃ found stop, ((Scan.start marker text).moved n).stream = ⟨found, .done stop⟩ ∧
      found.map Token.symbol = symbols := by
  obtain ⟨found, stop, hfound, rfl⟩ := h
  refine ⟨found.map (·.moved n), stop + n, ?_, ?_⟩
  · have hstream : (Scan.start marker text).stream = ⟨found, .done stop⟩ := hfound
    rw [Scan.stream_moved, hstream]
    rfl
  · simp [Function.comp_def, Token.moved, Token.symbol]

/-- A text in front of one that cannot prolong its last word. -/
theorem Spells.append {left right : Text} {before after : List Symbol}
    (h : Spells marker left before) (h' : Spells marker right after) (hright : Separated right) :
    Spells marker (left ++ right) (before ++ after) := by
  obtain ⟨found, stop, hfound, rfl⟩ := h
  obtain ⟨later, stop', hlater, rfl⟩ := h'.stream_moved left.length
  refine ⟨found ++ later, stop', ?_, by simp⟩
  have hmoved := Scan.stream_moved left.length (Scan.start marker right)
  rw [hlater] at hmoved
  rw [tokens_append hfound hright, tokens, ← hmoved]
  rfl

/-- Blanks in front of a text spell nothing. -/
theorem Spells.blanks {gap text : Text} {symbols : List Symbol} (h : Spells marker text symbols)
    (hgap : ∀ c ∈ gap, isBlank c) : Spells marker (gap ++ text) symbols := by
  obtain ⟨found, stop, hfound, hsymbols⟩ := h.stream_moved gap.length
  refine ⟨found, stop, ?_, hsymbols⟩
  rw [tokens_blanks_append marker hgap, tokens, ← Scan.stream_moved, hfound]

/-- Nor does one blank. -/
theorem Spells.blank {c : Char} {text : Text} {symbols : List Symbol}
    (h : Spells marker text symbols) (hc : isBlank c) : Spells marker (c :: text) symbols := by
  have hgap : ∀ d ∈ [c], isBlank d := List.forall_mem_singleton.mpr hc
  exact h.blanks hgap

/-- A lexeme in front of a text adds its symbol. -/
theorem Spells.lexeme {c : Char} {rest : Text} {symbols : List Symbol} (found : Lexeme)
    (h : Spells marker found.rest symbols) (hc : isBlank c = false)
    (hfound : lexeme marker c rest = some found) :
    Spells marker (c :: rest) (found.kind.symbol found.value :: symbols) := by
  obtain ⟨later, stop, hlater, rfl⟩ := h.stream_moved found.length
  have hpull : (Scan.start marker (c :: rest)).pull =
      (.token ⟨found.kind, found.value, 0, found.length⟩,
        (Scan.start marker found.rest).moved found.length) := by
    simp [Scan.pull, Scan.cut, Scan.skipBlanks, Scan.start, Scan.moved, hc, hfound]
  refine ⟨⟨found.kind, found.value, 0, found.length⟩ :: later, stop, ?_, rfl⟩
  rw [tokens, Scan.stream_of_pull_token hpull, hlater]
  rfl

/-- A text in parentheses spells its symbols between the two. -/
theorem Spells.parenthesize {text : Text} {symbols : List Symbol} (h : Spells marker text symbols) :
    Spells marker (parenthesize text) (.opening :: symbols ++ [.closing]) := by
  have hclosing : Spells marker [')'] [.closing] :=
    .lexeme ⟨.closing, [')'], 1, []⟩ (spells_nil marker) (by decide) rfl
  have hrest := h.append hclosing (separated_cons (by decide))
  exact .lexeme ⟨.opening, ['('], 1, text ++ [')']⟩ hrest (by decide) rfl

/-- A word that does not begin with a quote spells the symbol of its kind. -/
theorem spells_word (marker : Char) {c : Char} {rest : Text} (hquote : isQuote c = false)
    (hword : (c :: rest).all isWordChar) :
    Spells marker (c :: rest) [(classify marker (c :: rest)).symbol (c :: rest)] := by
  rw [List.all_cons, Bool.and_eq_true] at hword
  obtain ⟨hc, hrest⟩ := hword
  have htake : rest.takeWhile isWordChar = rest :=
    List.takeWhile_eq_self_iff.mpr (List.all_eq_true.mp hrest)
  have hdrop : rest.dropWhile isWordChar = [] :=
    List.dropWhile_eq_nil_iff.mpr (List.all_eq_true.mp hrest)
  have hparentheses : c ≠ '(' ∧ c ≠ ')' := by
    simp only [isWordChar, Bool.and_eq_true, decide_eq_true_eq] at hc
    exact ⟨hc.1.2, hc.2⟩
  have hlexeme : lexeme marker c rest =
      some ⟨classify marker (c :: rest), c :: rest, rest.length + 1, []⟩ := by
    simp [lexeme, hparentheses, hquote, htake, hdrop]
  exact .lexeme _ (spells_nil marker) (isBlank_of_isWordChar hc) hlexeme

/-- A keyword between blanks, in front of a text. -/
theorem Spells.keyword {text word : Text} {symbols : List Symbol} (h : Spells marker text symbols)
    {symbol : Symbol} (hword : Spells marker word [symbol]) :
    Spells marker (' ' :: (word ++ ' ' :: text)) (symbol :: symbols) := by
  have hblank : isBlank ' ' := by decide
  have htext := h.blank hblank
  exact (hword.append htext (separated_cons (isWordChar_of_isBlank hblank))).blank hblank

/-- The word of a connective spells its symbol. -/
theorem Connective.spells_word (marker : Char) (connective : Connective) :
    Spells marker connective.word [connective.symbol] := by
  cases connective with
  | all => exact TagFilter.spells_word marker (by decide) (by decide)
  | any => exact TagFilter.spells_word marker (by decide) (by decide)

/-- The word of a negation spells its symbol. -/
theorem spells_not (marker : Char) : Spells marker ['N', 'O', 'T'] [.not] :=
  spells_word marker (by decide) (by decide)

/-- A negation spells its keyword in front of its operand. -/
theorem Spells.writeNot {text : Text} {symbols : List Symbol} (h : Spells marker text symbols) :
    Spells marker (writeNot text) (.not :: symbols) := by
  have hblank : isBlank ' ' := by decide
  have htext := h.blank hblank
  exact (spells_not marker).append htext (separated_cons (isWordChar_of_isBlank hblank))

/-- **Texts with a keyword between them.**  Texts that each spell a part of a chain
spell the whole of it with the keyword of its connective between them. -/
theorem spells_intercalate {α β : Type} {connective : Connective}
    {chain : List Symbol → List β → Prop}
    (happend : ∀ {left right : List Symbol} {before after : List β}, chain left before →
      chain right after → chain (left ++ connective.symbol :: right) (before ++ after))
    {text : α → Text} {parts : α → List β} {operands : List α} (hne : operands ≠ [])
    (h : ∀ operand ∈ operands,
      ∃ symbols, Spells marker (text operand) symbols ∧ chain symbols (parts operand)) :
    ∃ symbols, Spells marker (connective.keyword.intercalate (operands.map text)) symbols ∧
      chain symbols (operands.flatMap parts) := by
  induction operands with
  | nil => exact absurd rfl hne
  | cons operand operands ih =>
      obtain ⟨before, hbefore, hfirst⟩ := h operand List.mem_cons_self
      cases operands with
      | nil => exact ⟨before, by simpa using hbefore, by simpa using hfirst⟩
      | cons next operands =>
          obtain ⟨after, hafter, hrest⟩ :=
            ih (by simp) fun other hother => h other (List.mem_cons_of_mem operand hother)
          refine ⟨before ++ connective.symbol :: after, ?_, happend hfirst hrest⟩
          rw [List.map_cons, List.map_cons, List.intercalate_cons_cons]
          have hkeyword := hbefore.append (hafter.keyword (connective.spells_word marker))
            (separated_cons (isWordChar_of_isBlank (by decide)))
          simpa [Connective.keyword] using hkeyword

/-! ## Quoted names -/

/-- **Reading what was escaped.**  The quote behind an escaped text is the one
that closes it, and the text is read back. -/
theorem readQuoted_escape {quote : Char} (hquote : quote ≠ '\\') (text rest : Text) :
    readQuoted quote (escape quote text ++ quote :: rest) = some (text, rest) := by
  induction text with
  | nil => cases rest <;> simp [escape, readQuoted, hquote]
  | cons c text ih =>
      rw [escape]
      split
      · rename_i hc
        simp [readQuoted, unescape, ih, hc]
      · rename_i hc
        simp only [Bool.or_eq_true, decide_eq_true_eq, not_or] at hc
        obtain ⟨hne, hslash⟩ := hc
        -- a reader looks one character ahead: there is one, at least the closing quote
        obtain ⟨d, after, hafter⟩ : ∃ d after, escape quote text ++ quote :: rest = d :: after := by
          cases escape quote text <;> simp
        rw [hafter] at ih
        simp [hafter, readQuoted, hslash, hne, ih]

/-- A text in quotes spells the name that it is. -/
theorem spells_enclose {quote : Char} (hquote : isQuote quote) (name : Text) :
    Spells marker (enclose quote name) [.name name] := by
  have hread := readQuoted_escape (ne_backslash_of_isQuote hquote) name []
  have hcases : quote = '"' ∨ quote = '\x27' := by simpa [isQuote] using hquote
  have hchar : isBlank quote = false ∧ quote ≠ '(' ∧ quote ≠ ')' := by
    rcases hcases with rfl | rfl <;> decide
  have hlexeme : lexeme marker quote (escape quote name ++ [quote]) =
      some ⟨.text, name, (escape quote name ++ [quote]).length + 1, []⟩ := by
    simp [lexeme, hchar, hquote, hread]
  exact .lexeme _ (spells_nil marker) hchar.1 hlexeme

/-- The symbol that a name is read back as: a lone marker is no name, unless it
has to be quoted. -/
def nameSymbol (marker : Char) (name : Text) : Symbol :=
  if name = [marker] ∧ needsQuotes name = false then .wildcard else .name name

/-- What is not reserved is part of a word. -/
theorem isWordChar_of_not_isReserved {c : Char} (h : isReserved c = false) : isWordChar c := by
  simp only [isReserved, Bool.or_eq_false_iff, decide_eq_false_iff_not] at h
  simp [isWordChar, h]

/-- **Written names.**  A name spells its one symbol, quoted or not. -/
theorem spells_writeName (marker : Char) (name : Text) :
    Spells marker (writeName name) [nameSymbol marker name] := by
  unfold writeName nameSymbol
  cases hquotes : needsQuotes name with
  | true => simpa using spells_enclose (by decide) name
  | false =>
      simp only [needsQuotes, Bool.or_eq_false_iff, List.any_eq_false, Bool.not_eq_true] at hquotes
      obtain ⟨⟨hne, hkeyword⟩, hplain⟩ := hquotes
      have hkeyword : keyword? name = none := by simpa using hkeyword
      have hword : name.all isWordChar :=
        List.all_eq_true.mpr fun c hc => isWordChar_of_not_isReserved (hplain c hc)
      obtain ⟨c, rest, rfl⟩ : ∃ c rest, name = c :: rest :=
        List.exists_cons_of_ne_nil (by simpa using hne)
      have hquote : isQuote c = false := by
        have hreserved := hplain c List.mem_cons_self
        simp only [isReserved, Bool.or_eq_false_iff] at hreserved
        exact hreserved.1.2
      have hspells := spells_word marker hquote hword
      rw [classify, hkeyword] at hspells
      by_cases hmarker : c :: rest = [marker]
      · simpa [hmarker, Kind.symbol] using hspells
      · simpa [hmarker, Kind.symbol] using hspells

/-- Without the marker in it, a name is read back as a name. -/
theorem spells_writeName_of_plain {name : Text} (plain : marker ∉ name) :
    Spells marker (writeName name) [.name name] := by
  have hspells := spells_writeName marker name
  have hother : name ≠ [marker] := by
    rintro rfl
    exact plain List.mem_cons_self
  rwa [nameSymbol, if_neg fun h => hother h.1] at hspells

end TagFilter
