import Mathlib
import TagFilter.Proofs.BareWords

/-!
# The parts of an input

Scanning loses nothing.  It cuts an input into pieces with blanks between them:
parentheses, bare words that end only where a blank, a parenthesis or the end of
the input ends them, and quoted texts that end at their first quote without a
backslash.  Each piece is one token, and the place of the token is the number of
characters before the piece.

* `readQuoted_eq_some_iff`: what the reader of quoted text takes, without
  mention of the reader.
* `Piece.kind_iff_of_bare`: which kind of piece a bare word is.
* `Scan.stream_of_fit`: parts that fit side by side are scanned as their tokens.
* `Scan.exists_parts`: every text is made of such parts, up to its end or to a
  quote that nothing closes.
* `tokens_eq_iff_partition`: both together, for a whole input.
-/

namespace TagFilter

/-! ## Quoted text -/

/-- What stands between two quotes, and the text that it stands for.  A backslash
is taken away in front of the quote and of a backslash, and nowhere else. -/
inductive Quoted (quote : Char) : Text → Text → Prop
  | nil : Quoted quote [] []
  | plain {c : Char} {body value : Text} (hquote : c ≠ quote) (hslash : c ≠ '\\')
      (rest : Quoted quote body value) : Quoted quote (c :: body) (c :: value)
  | escaped {c : Char} {body value : Text} (special : c = quote ∨ c = '\\')
      (rest : Quoted quote body value) : Quoted quote ('\\' :: c :: body) (c :: value)
  | kept {c : Char} {body value : Text} (hquote : c ≠ quote) (hslash : c ≠ '\\')
      (rest : Quoted quote body value) :
      Quoted quote ('\\' :: c :: body) ('\\' :: c :: value)

/-- No quote in the text ends what began before it. -/
def Unclosed (quote : Char) (text : Text) : Prop :=
  ∀ body value after : Text, Quoted quote body value → text ≠ body ++ quote :: after

/-- A backslash and the character behind it stand for what unescaping makes of them. -/
theorem Quoted.unescape {quote : Char} {body value : Text} (c : Char)
    (h : Quoted quote body value) :
    Quoted quote ('\\' :: c :: body) (unescape quote c ++ value) := by
  by_cases hc : c = quote ∨ c = '\\'
  · have hvalue : TagFilter.unescape quote c = [c] := by simp [TagFilter.unescape, hc]
    rw [hvalue]
    exact .escaped hc h
  · have hvalue : TagFilter.unescape quote c = ['\\', c] := by simp [TagFilter.unescape, hc]
    rw [hvalue]
    obtain ⟨hquote, hslash⟩ := not_or.mp hc
    exact .kept hquote hslash h

/-- A reader stops at the quote behind a body. -/
theorem Quoted.readQuoted {quote : Char} (hquote : quote ≠ '\\') {body value : Text}
    (h : Quoted quote body value) (after : Text) :
    readQuoted quote (body ++ quote :: after) = some (value, after) := by
  induction h with
  | nil => cases after <;> simp [TagFilter.readQuoted, hquote]
  | @plain c body value hne hslash rest ih =>
      -- a reader looks one character ahead: there is one, at least the closing quote
      obtain ⟨d, tail, htail⟩ : ∃ d tail, body ++ quote :: after = d :: tail :=
        List.exists_cons_of_ne_nil (by simp)
      rw [htail] at ih
      simp [htail, TagFilter.readQuoted, hne, hslash, ih]
  | escaped special rest ih =>
      simp [TagFilter.readQuoted, TagFilter.unescape, special, ih]
  | kept hne hslash rest ih =>
      simp [TagFilter.readQuoted, TagFilter.unescape, hne, hslash, ih]

/-- What is read behind a quote is the text up to the quote that closes it. -/
theorem quoted_of_readQuoted {quote : Char} {text value after : Text}
    (h : readQuoted quote text = some (value, after)) :
    ∃ body, text = body ++ quote :: after ∧ Quoted quote body value := by
  fun_induction readQuoted quote text generalizing value with
  | case1 => simp at h
  | case2 =>
      obtain ⟨rfl, rfl⟩ := Prod.mk.inj (Option.some.inj h)
      exact ⟨[], rfl, .nil⟩
  | case3 => simp at h
  | case4 d rest ih =>
      obtain ⟨⟨value', after'⟩, hread, hpair⟩ := Option.map_eq_some_iff.mp h
      obtain ⟨rfl, rfl⟩ := Prod.mk.inj hpair
      obtain ⟨body, rfl, hbody⟩ := ih hread
      exact ⟨'\\' :: d :: body, rfl, hbody.unescape d⟩
  | case5 d rest =>
      obtain ⟨rfl, rfl⟩ := Prod.mk.inj (Option.some.inj h)
      exact ⟨[], rfl, .nil⟩
  | case6 c d rest hslash hquote ih =>
      obtain ⟨⟨value', after'⟩, hread, hpair⟩ := Option.map_eq_some_iff.mp h
      obtain ⟨rfl, rfl⟩ := Prod.mk.inj hpair
      obtain ⟨body, hrest, hbody⟩ := ih hread
      exact ⟨c :: body, by rw [hrest, List.cons_append], .plain hquote hslash hbody⟩

/-- **Quoted text.**  A reader takes a body and its closing quote, and gives the
text that the body stands for. -/
theorem readQuoted_eq_some_iff {quote : Char} (hquote : quote ≠ '\\') {text value after : Text} :
    readQuoted quote text = some (value, after) ↔
      ∃ body, text = body ++ quote :: after ∧ Quoted quote body value := by
  constructor
  · exact quoted_of_readQuoted
  · rintro ⟨body, rfl, hbody⟩
    exact hbody.readQuoted hquote after

/-- A reader takes nothing exactly if no quote closes the text. -/
theorem readQuoted_eq_none_iff {quote : Char} (hquote : quote ≠ '\\') {text : Text} :
    readQuoted quote text = none ↔ Unclosed quote text := by
  rw [Option.eq_none_iff_forall_ne_some]
  constructor
  · intro hnone body value after hbody htext
    exact hnone (value, after) ((readQuoted_eq_some_iff hquote).mpr ⟨body, htext, hbody⟩)
  · intro hopen found hfound
    obtain ⟨body, htext, hbody⟩ := (readQuoted_eq_some_iff hquote).mp hfound
    exact hopen body found.1 found.2 hbody htext

/-! ## Pieces -/

/-- A run of characters of a word that does not begin with a quote. -/
structure Bare (word : Text) : Prop where
  nonempty : word ≠ []
  unbroken : ∀ c ∈ word, isWordChar c
  unquoted : ∀ c ∈ word.head?, isQuote c = false

/-- The source of one token, with the kind and the text of the token. -/
inductive Piece (marker : Char) : Text → Kind → Text → Prop
  | opening : Piece marker ['('] .opening ['(']
  | closing : Piece marker [')'] .closing [')']
  | word {word : Text} (bare : Bare word) : Piece marker word (classify marker word) word
  | quoted {quote : Char} {body value : Text} (hquote : isQuote quote)
      (closed : Quoted quote body value) :
      Piece marker (quote :: (body ++ [quote])) .text value

/-- There are two quotes. -/
theorem quote_cases {c : Char} (h : isQuote c) : c = '"' ∨ c = '\x27' := by
  simpa [isQuote] using h

/-- A quote goes on with a word that comes before it. -/
theorem isWordChar_of_isQuote {c : Char} (h : isQuote c) : isWordChar c := by
  rcases quote_cases h with rfl | rfl <;> decide

/-- A parenthesis is no word. -/
theorem not_bare_parenthesis {c : Char} (h : c = '(' ∨ c = ')') : ¬Bare [c] := by
  intro hbare
  have hc := hbare.unbroken c List.mem_cons_self
  rcases h with rfl | rfl <;> exact absurd hc (by decide)

/-- A text that begins with a quote is no bare word. -/
theorem not_bare_quoted {quote : Char} (h : isQuote quote) (rest : Text) :
    ¬Bare (quote :: rest) := by
  intro hbare
  have hquote := hbare.unquoted quote (by simp)
  rw [h] at hquote
  cases hquote

/-- **Kinds of bare words.**  A bare word is a piece of one kind: the keyword that it has
the letters of, else the lone marker if it is the marker alone, and else a name. -/
theorem Piece.kind_iff_of_bare {marker : Char} {word value : Text} {kind : Kind}
    (bare : Bare word) :
    Piece marker word kind value ↔ value = word ∧
      ((∃ letters, kind.letters? = some letters ∧ Capitalized letters word) ∨
        keyword? word = none ∧
          (kind = .wildcard ∧ word = [marker] ∨ kind = .text ∧ word ≠ [marker])) := by
  rw [← keyword?_eq_some_iff, ← classify_eq_iff]
  constructor
  · intro h
    cases h with
    | opening => exact absurd bare (not_bare_parenthesis (.inl rfl))
    | closing => exact absurd bare (not_bare_parenthesis (.inr rfl))
    | word _ => exact ⟨rfl, rfl⟩
    | quoted hquote _ => exact absurd bare (not_bare_quoted hquote _)
  · rintro ⟨rfl, rfl⟩
    exact .word bare

/-- What follows a whole word cannot prolong it. -/
theorem separated_dropWhile (text : Text) : Separated (text.dropWhile isWordChar) := by
  intro c hc
  have hhead := List.head?_dropWhile_not isWordChar text
  rw [Option.mem_def.mp hc] at hhead
  exact hhead

/-- What a text begins with is a piece, and no longer one if it is a word. -/
theorem piece_of_lexeme {marker c : Char} {rest : Text} {found : Lexeme}
    (hc : isBlank c = false) (h : lexeme marker c rest = some found) :
    ∃ source, c :: rest = source ++ found.rest ∧ found.length = source.length ∧
      Piece marker source found.kind found.value ∧ (Bare source → Separated found.rest) := by
  unfold lexeme at h
  split at h
  · rename_i hopening
    obtain rfl := Option.some.inj h
    subst hopening
    exact ⟨['('], rfl, rfl, .opening, fun hbare =>
      absurd hbare (not_bare_parenthesis (.inl rfl))⟩
  · rename_i hopening
    split at h
    · rename_i hclosing
      obtain rfl := Option.some.inj h
      subst hclosing
      exact ⟨[')'], rfl, rfl, .closing, fun hbare =>
        absurd hbare (not_bare_parenthesis (.inr rfl))⟩
    · rename_i hclosing
      split at h
      · rename_i hquote
        obtain ⟨⟨value, after⟩, hread, rfl⟩ := Option.map_eq_some_iff.mp h
        obtain ⟨body, rfl, hbody⟩ := quoted_of_readQuoted hread
        refine ⟨c :: (body ++ [c]), by simp, ?_, .quoted hquote hbody, fun hbare =>
          absurd hbare (not_bare_quoted hquote _)⟩
        simp only [List.length_append, List.length_cons, List.length_nil]
        omega
      -- a bare word takes all characters that can be part of it
      · rename_i hquote
        obtain rfl := Option.some.inj h
        have hword : isWordChar c := by simp [isWordChar, hc, hopening, hclosing]
        refine ⟨c :: rest.takeWhile isWordChar, ?_, rfl, .word ⟨by simp, ?_, ?_⟩, fun _ => ?_⟩
        · rw [List.cons_append, List.takeWhile_append_dropWhile]
        · intro d hd
          rcases List.mem_cons.mp hd with rfl | hd
          · exact hword
          · exact List.mem_takeWhile_imp hd
        · simpa using hquote
        · exact separated_dropWhile rest

/-- A piece is what a text begins with, where no word is prolonged. -/
theorem Piece.lexeme {marker : Char} {source value rest : Text} {kind : Kind}
    (h : Piece marker source kind value) (hrest : Bare source → Separated rest) :
    ∃ c tail, source = c :: tail ∧ isBlank c = false ∧
      lexeme marker c (tail ++ rest) = some ⟨kind, value, source.length, rest⟩ := by
  cases h with
  | opening => exact ⟨'(', [], rfl, by decide, rfl⟩
  | closing => exact ⟨')', [], rfl, by decide, rfl⟩
  | word bare =>
      obtain ⟨c, tail, rfl⟩ := List.exists_cons_of_ne_nil bare.nonempty
      have hc : isWordChar c := bare.unbroken c List.mem_cons_self
      have htail : ∀ d ∈ tail, isWordChar d := fun d hd =>
        bare.unbroken d (List.mem_cons_of_mem c hd)
      have hquote : isQuote c = false := bare.unquoted c (by simp)
      have hsep := hrest bare
      have hplain : isBlank c = false ∧ c ≠ '(' ∧ c ≠ ')' := by
        simpa [isWordChar, and_assoc] using hc
      obtain ⟨hblank, hopening, hclosing⟩ := hplain
      have htake : (tail ++ rest).takeWhile isWordChar = tail := by
        rw [hsep.takeWhile_append, List.takeWhile_eq_self_iff]
        exact htail
      have hdrop : (tail ++ rest).dropWhile isWordChar = rest := by
        rw [hsep.dropWhile_append, List.dropWhile_eq_nil_iff.mpr htail, List.nil_append]
      refine ⟨c, tail, rfl, hblank, ?_⟩
      simp [TagFilter.lexeme, hopening, hclosing, hquote, htake, hdrop]
  | @quoted quote body value hquote closed =>
      have hread := closed.readQuoted (ne_backslash_of_isQuote hquote) rest
      have hplain : isBlank quote = false ∧ quote ≠ '(' ∧ quote ≠ ')' := by
        rcases quote_cases hquote with rfl | rfl <;> decide
      obtain ⟨hblank, hopening, hclosing⟩ := hplain
      have htail : body ++ [quote] ++ rest = body ++ quote :: rest := by simp
      have hlength : body.length + (rest.length + 1) + 1 - rest.length = body.length + 1 + 1 := by
        omega
      refine ⟨quote, body ++ [quote], rfl, hblank, ?_⟩
      rw [htail]
      simp [TagFilter.lexeme, hopening, hclosing, hquote, hread, hlength]

/-- Only an open quote is no lexeme. -/
theorem eq_none_of_lexeme {marker c : Char} {rest : Text} (h : lexeme marker c rest = none) :
    isQuote c ∧ readQuoted c rest = none := by
  unfold lexeme at h
  split at h
  · cases h
  · split at h
    · cases h
    · split at h
      · rename_i hquote
        exact ⟨hquote, Option.map_eq_none_iff.mp h⟩
      · cases h

/-! ## Parts -/

/-- A piece with the blanks in front of it, and what its token will be. -/
structure Part where
  gap : Text
  source : Text
  kind : Kind
  value : Text

/-- The stretch of the input that a part is. -/
def Part.text (part : Part) : Text := part.gap ++ part.source

/-- The token of a part that begins behind `offset` characters. -/
def Part.token (offset : Nat) (part : Part) : Token :=
  ⟨part.kind, part.value, offset + part.gap.length, offset + part.text.length⟩

/-- The part can stand in front of a text: blanks and a piece, and the piece goes
on in the text in no way if it is a word. -/
structure Part.Fits (marker : Char) (part : Part) (rest : Text) : Prop where
  blank : ∀ c ∈ part.gap, isBlank c
  piece : Piece marker part.source part.kind part.value
  maximal : Bare part.source → Separated rest

/-- The parts side by side. -/
def joined (parts : List Part) : Text := parts.flatMap Part.text

/-- The tokens of some parts that begin behind `offset` characters. -/
def partTokens (offset : Nat) : List Part → List Token
  | [] => []
  | part :: parts => part.token offset :: partTokens (offset + part.text.length) parts

/-- Each part can stand in front of the later ones and a text behind them all. -/
def Fit (marker : Char) : List Part → Text → Prop
  | [], _ => True
  | part :: parts, rest => part.Fits marker (joined parts ++ rest) ∧ Fit marker parts rest

/-- The last of the parts is a bare word. -/
def EndsInWord (parts : List Part) : Prop := ∃ part ∈ parts.getLast?, Bare part.source

variable {marker : Char}

/-- The first part stands in front. -/
theorem joined_cons (part : Part) (parts : List Part) :
    joined (part :: parts) = part.text ++ joined parts := List.flatMap_cons

/-- Parts side by side are joined to texts side by side. -/
theorem joined_append (before after : List Part) :
    joined (before ++ after) = joined before ++ joined after := List.flatMap_append

/-- Parts fit in front of the text of those behind them. -/
theorem Fit.append_left {before after : List Part} {rest : Text}
    (h : Fit marker (before ++ after) rest) : Fit marker before (joined after ++ rest) := by
  induction before with
  | nil => trivial
  | cons part before ih =>
      rw [List.cons_append, Fit, joined_append, List.append_assoc] at h
      obtain ⟨hpart, hbefore⟩ := h
      exact ⟨hpart, ih hbefore⟩

/-- What is behind some parts fits without them. -/
theorem Fit.append_right {before after : List Part} {rest : Text}
    (h : Fit marker (before ++ after) rest) : Fit marker after rest := by
  induction before with
  | nil => exact h
  | cons part before ih => exact ih h.2

/-- Only the last word can be prolonged by what follows the parts. -/
theorem Fit.separated {parts : List Part} {rest : Text} (h : Fit marker parts rest)
    (hword : EndsInWord parts) : Separated rest := by
  induction parts with
  | nil => simp [EndsInWord] at hword
  | cons part parts ih =>
      obtain ⟨hpart, hparts⟩ := h
      cases parts with
      | nil => exact hpart.maximal (by simpa [EndsInWord] using hword)
      | cons next parts => exact ih hparts (by simpa [EndsInWord] using hword)

/-- Another text may follow that prolongs the last word no more than the first does. -/
theorem Fit.mono {parts : List Part} {rest other : Text} (h : Fit marker parts rest)
    (hother : EndsInWord parts → Separated other) : Fit marker parts other := by
  induction parts with
  | nil => trivial
  | cons part parts ih =>
      obtain ⟨hpart, hparts⟩ := h
      cases parts with
      | nil =>
          refine ⟨⟨hpart.blank, hpart.piece, fun hbare => ?_⟩, trivial⟩
          exact hother (by simpa [EndsInWord] using hbare)
      | cons next parts =>
          have hnext : Fit marker (next :: parts) other :=
            ih hparts fun hword => hother (by simpa [EndsInWord] using hword)
          refine ⟨⟨hpart.blank, hpart.piece, fun hbare => ?_⟩, hnext⟩
          -- the next part begins with some character, and it is the same in front of either text
          obtain ⟨c, tail, hsource, -⟩ := hparts.1.piece.lexeme hparts.1.maximal
          have hsep := hpart.maximal hbare
          unfold Separated at hsep ⊢
          cases hgap : next.gap <;> simpa [joined_cons, Part.text, hgap, hsource] using hsep

/-- Blanks end a word. -/
theorem separated_blank {gap : Text} (h : ∀ c ∈ gap, isBlank c) : Separated gap := by
  intro c hc
  exact isWordChar_of_isBlank (h c (List.mem_of_mem_head? hc))

/-- Blanks may stand where a word ends. -/
theorem separated_gap {gap rest : Text} (h : ∀ c ∈ gap, isBlank c) (hrest : Separated rest) :
    Separated (gap ++ rest) := by
  cases gap with
  | nil => exact hrest
  | cons c gap => exact separated_cons (isWordChar_of_isBlank (h c List.mem_cons_self))

/-! ## Scanning parts -/

namespace Scan

/-- A part that fits is pulled as its token. -/
theorem pull_of_fits (scan : Scan) {part : Part} {rest : Text} (h : part.Fits scan.marker rest)
    (hrest : scan.rest = part.text ++ rest) :
    scan.pull = (.token (part.token scan.offset),
      { scan with rest := rest, offset := scan.offset + part.text.length }) := by
  obtain ⟨c, tail, hsource, hc, hlexeme⟩ := h.piece.lexeme h.maximal
  have htext : scan.rest = part.gap ++ c :: (tail ++ rest) := by
    rw [hrest, Part.text, hsource, List.append_assoc, List.cons_append]
  have hskip : scan.skipBlanks =
      { scan with
        rest := c :: (tail ++ rest)
        offset := scan.offset + part.gap.length } := by
    rw [skipBlanks, htext, List.takeWhile_append_of_pos h.blank,
      List.dropWhile_append_of_pos h.blank]
    simp [hc]
  have hlength : scan.offset + part.gap.length + part.source.length =
      scan.offset + part.text.length := by
    rw [Part.text, List.length_append, Nat.add_assoc]
  rw [pull, hskip]
  simp only [cut, hlexeme, hlength]
  rfl

/-- **Scanning parts.**  Parts that fit in front of a text are scanned as their
tokens, and the text as it would be behind them. -/
theorem stream_of_fit (scan : Scan) {parts : List Part} {rest : Text}
    (hparts : scan.rest = joined parts) (hfit : Fit scan.marker parts rest) :
    (scan.followedBy rest).stream =
      (scan.beyond rest).stream.prepend (partTokens scan.offset parts) := by
  induction parts generalizing scan with
  | nil =>
      have hsame : scan.followedBy rest = scan.beyond rest := by
        simp [followedBy, beyond, hparts, joined]
      rw [hsame]
      rfl
  | cons part parts ih =>
      obtain ⟨hpart, hlater⟩ := hfit
      have htext : (scan.followedBy rest).rest = part.text ++ (joined parts ++ rest) := by
        rw [followedBy, hparts, joined_cons, List.append_assoc]
      have hpull := (scan.followedBy rest).pull_of_fits hpart htext
      have hbeyond : scan.offset + part.text.length + (joined parts).length =
          scan.offset + scan.rest.length := by
        rw [hparts, joined_cons, List.length_append, Nat.add_assoc]
      have hstream :=
        ih { scan with rest := joined parts, offset := scan.offset + part.text.length } rfl hlater
      rw [beyond, hbeyond] at hstream
      rw [stream_of_pull_token hpull]
      exact congrArg (Stream.prepend [part.token scan.offset]) hstream

end Scan

/-- Parts that fit in front of a text add their tokens to its own, whose places are as far
on as the parts reach. -/
theorem tokens_of_fit {parts : List Part} {rest : Text} (hfit : Fit marker parts rest) :
    tokens marker (joined parts ++ rest) =
      ((Scan.start marker rest).moved (joined parts).length).stream.prepend
        (partTokens 0 parts) :=
  (Scan.start marker (joined parts)).stream_of_fit rfl hfit

/-- How the tokens of a text end that begins with no piece, behind `offset`
characters. -/
inductive Stops : Text → Nat → Ending → Prop
  | done (offset : Nat) : Stops [] offset (.done offset)
  | openQuote {quote : Char} {after : Text} (offset : Nat) (hquote : isQuote quote)
      (unclosed : Unclosed quote after) : Stops (quote :: after) offset (.openQuote offset)

namespace Scan

/-- Where a text stops behind some blanks, a scan finds no more tokens. -/
theorem stream_of_stops (scan : Scan) {gap rest : Text} {ending : Ending}
    (hgap : ∀ c ∈ gap, isBlank c) (hrest : scan.rest = gap ++ rest)
    (h : Stops rest (scan.offset + gap.length) ending) : scan.stream = ⟨[], ending⟩ := by
  suffices hpull : scan.pull.1 = .ending ending from
    stream_of_pull_ending (Prod.ext hpull rfl)
  cases h with
  | done =>
      have hskip : scan.skipBlanks =
          { scan with rest := [], offset := scan.offset + gap.length } := by
        rw [skipBlanks, hrest, List.takeWhile_append_of_pos hgap, List.dropWhile_append_of_pos hgap]
        simp
      rw [pull, hskip]
      rfl
  | @openQuote quote after _ hquote unclosed =>
      have hplain : isBlank quote = false ∧ quote ≠ '(' ∧ quote ≠ ')' := by
        rcases quote_cases hquote with rfl | rfl <;> decide
      obtain ⟨hblank, hopening, hclosing⟩ := hplain
      have hread := (readQuoted_eq_none_iff (ne_backslash_of_isQuote hquote)).mpr unclosed
      have hlexeme : lexeme scan.marker quote after = none := by
        simp [lexeme, hopening, hclosing, hquote, hread]
      have hskip : scan.skipBlanks =
          { scan with rest := quote :: after, offset := scan.offset + gap.length } := by
        rw [skipBlanks, hrest, List.takeWhile_append_of_pos hgap, List.dropWhile_append_of_pos hgap]
        simp [hblank]
      rw [pull, hskip]
      simp only [cut, hlexeme]

/-- Where a pull gives the ending, the text stops behind some blanks. -/
theorem exists_stops_of_pull {scan after : Scan} {ending : Ending}
    (h : scan.pull = (.ending ending, after)) :
    ∃ gap rest, scan.rest = gap ++ rest ∧ (∀ c ∈ gap, isBlank c) ∧
      Stops rest (scan.offset + gap.length) ending := by
  refine ⟨scan.rest.takeWhile isBlank, scan.rest.dropWhile isBlank,
    List.takeWhile_append_dropWhile.symm, fun c => List.mem_takeWhile_imp, ?_⟩
  have hoffset : scan.skipBlanks.offset =
      scan.offset + (scan.rest.takeWhile isBlank).length := rfl
  rw [← hoffset]
  unfold pull cut at h
  split at h
  · rename_i hrest
    obtain ⟨hending, -⟩ := Prod.mk.inj h
    obtain rfl := Pulled.ending.inj hending
    have hempty : scan.rest.dropWhile isBlank = [] := hrest
    rw [hempty]
    exact .done _
  · rename_i c rest hrest
    have hcons : scan.rest.dropWhile isBlank = c :: rest := hrest
    rw [hcons]
    split at h
    · rename_i hlexeme
      obtain ⟨hending, -⟩ := Prod.mk.inj h
      obtain rfl := Pulled.ending.inj hending
      obtain ⟨hquote, hread⟩ := eq_none_of_lexeme hlexeme
      exact .openQuote _ hquote ((readQuoted_eq_none_iff (ne_backslash_of_isQuote hquote)).mp hread)
    · simp at h

/-- A token that is pulled is that of a part. -/
theorem exists_part_of_pull {scan after : Scan} {token : Token}
    (h : scan.pull = (.token token, after)) :
    ∃ (part : Part) (rest : Text), part.Fits scan.marker rest ∧ scan.rest = part.text ++ rest ∧
      token = part.token scan.offset ∧
      after = { scan with rest := rest, offset := scan.offset + part.text.length } := by
  obtain ⟨c, tail, found, hcut, hfound, -, -⟩ := pull_eq_token h
  have hc : isBlank c = false := by
    have hhead := List.head?_dropWhile_not isBlank scan.rest
    rwa [hcut] at hhead
  obtain ⟨source, hsource, -, hpiece, hmaximal⟩ := piece_of_lexeme hc hfound
  let part : Part := ⟨scan.rest.takeWhile isBlank, source, found.kind, found.value⟩
  have hfits : part.Fits scan.marker found.rest :=
    ⟨fun d => List.mem_takeWhile_imp, hpiece, hmaximal⟩
  have htext : scan.rest = part.text ++ found.rest := by
    have hsplit := List.takeWhile_append_dropWhile (p := isBlank) (l := scan.rest)
    rw [hcut, hsource, ← List.append_assoc] at hsplit
    exact hsplit.symm
  obtain ⟨htoken, hafter⟩ := Prod.mk.inj (h.symm.trans (scan.pull_of_fits hfits htext))
  exact ⟨part, found.rest, hfits, htext, Pulled.token.inj htoken, hafter⟩

/-- **Every text is made of parts.**  They go up to its end, or to a quote that
nothing closes. -/
theorem exists_parts (scan : Scan) :
    ∃ parts gap rest, scan.rest = joined parts ++ (gap ++ rest) ∧
      Fit scan.marker parts (gap ++ rest) ∧ (∀ c ∈ gap, isBlank c) ∧
      scan.stream.tokens = partTokens scan.offset parts ∧
      Stops rest (scan.offset + (joined parts ++ gap).length) scan.stream.ending := by
  induction scan using stream_induction with
  | ending scan after ending hpull =>
      obtain ⟨gap, rest, hrest, hgap, hstops⟩ := exists_stops_of_pull hpull
      rw [stream_of_pull_ending hpull]
      exact ⟨[], gap, rest, hrest, trivial, hgap, rfl, hstops⟩
  | token scan after token hpull ih =>
      obtain ⟨parts, gap, rest, hrest, hfit, hgap, htokens, hstops⟩ := ih
      obtain ⟨part, behind, hpart, htext, rfl, rfl⟩ := exists_part_of_pull hpull
      obtain rfl : behind = joined parts ++ (gap ++ rest) := hrest
      have hlength : scan.offset + part.text.length + (joined parts ++ gap).length =
          scan.offset + (joined (part :: parts) ++ gap).length := by
        simp only [joined_cons, List.length_append, Nat.add_assoc]
      rw [stream_of_pull_token hpull]
      refine ⟨part :: parts, gap, rest, ?_, ⟨hpart, hfit⟩, hgap, ?_, ?_⟩
      · rw [joined_cons, List.append_assoc]
        exact htext
      · exact congrArg (part.token scan.offset :: ·) htokens
      · rw [← hlength]
        exact hstops

end Scan

/-! ## Whole inputs -/

/-- The input is the parts, each as far as it goes, and blanks behind them. -/
structure Partition (marker : Char) (input : Text) (parts : List Part) (gap : Text) : Prop where
  text : input = joined parts ++ gap
  fit : Fit marker parts gap
  blank : ∀ c ∈ gap, isBlank c

/-- The parts of an input, up to the place where its tokens end. -/
theorem exists_parts_of_tokens (marker : Char) (input : Text) :
    ∃ parts gap rest, input = joined parts ++ (gap ++ rest) ∧ Fit marker parts (gap ++ rest) ∧
      (∀ c ∈ gap, isBlank c) ∧ (tokens marker input).tokens = partTokens 0 parts ∧
      Stops rest (joined parts ++ gap).length (tokens marker input).ending := by
  have hparts := (Scan.start marker input).exists_parts
  simp only [Scan.start, Nat.zero_add] at hparts
  exact hparts

/-- How many characters stand before the place where the tokens end. -/
def Ending.offset : Ending → Nat
  | .done offset | .openQuote offset => offset

/-- The ending is where the text stops. -/
theorem Stops.offset_eq {rest : Text} {offset : Nat} {ending : Ending}
    (h : Stops rest offset ending) : ending.offset = offset := by
  cases h <;> rfl

/-- Behind these tokens of the stream there is another or its end, and it stands
at this place. -/
inductive Stream.Reaches (stream : Stream) : List Token → Nat → Prop
  | token {before later : List Token} {token : Token}
      (split : stream.tokens = before ++ token :: later) : Reaches stream before token.start
  | ending : Reaches stream stream.tokens stream.ending.offset

/-- A token among those of some parts is the token of one of them. -/
theorem exists_parts_of_partTokens {parts : List Part} {before later : List Token} {token : Token}
    {offset : Nat} (h : partTokens offset parts = before ++ token :: later) :
    ∃ front part back, parts = front ++ part :: back ∧ before = partTokens offset front ∧
      token = part.token (offset + (joined front).length) := by
  induction parts generalizing before offset with
  | nil => simp [partTokens] at h
  | cons part parts ih =>
      rw [partTokens] at h
      cases before with
      | nil =>
          obtain ⟨rfl, -⟩ := List.cons.inj h
          exact ⟨[], part, parts, rfl, rfl, rfl⟩
      | cons first before =>
          obtain ⟨rfl, hlater⟩ := List.cons.inj h
          obtain ⟨front, last, back, rfl, rfl, rfl⟩ := ih hlater
          refine ⟨part :: front, last, back, rfl, rfl, ?_⟩
          rw [joined_cons, List.length_append, Nat.add_assoc]

/-- The tokens before any place in a stream are those of the parts before it. -/
theorem exists_parts_of_reaches {input : Text} {before : List Token} {offset : Nat}
    (h : (tokens marker input).Reaches before offset) :
    ∃ parts gap rest, input = joined parts ++ (gap ++ rest) ∧ Fit marker parts (gap ++ rest) ∧
      (∀ c ∈ gap, isBlank c) ∧ before = partTokens 0 parts ∧
      offset = (joined parts ++ gap).length := by
  obtain ⟨parts, gap, rest, htext, hfit, hgap, htokens, hstops⟩ :=
    exists_parts_of_tokens marker input
  cases h with
  | ending => exact ⟨parts, gap, rest, htext, hfit, hgap, htokens, hstops.offset_eq⟩
  | token split =>
      obtain ⟨front, part, back, rfl, rfl, rfl⟩ :=
        exists_parts_of_partTokens (htokens.symm.trans split)
      have hsplit : joined (part :: back) ++ (gap ++ rest) =
          part.gap ++ (part.source ++ (joined back ++ (gap ++ rest))) := by
        simp only [joined_cons, Part.text, List.append_assoc]
      have hfront := hfit.append_left
      have hpart : part.Fits marker (joined back ++ (gap ++ rest)) := hfit.append_right.1
      rw [hsplit] at hfront
      rw [joined_append, List.append_assoc, hsplit] at htext
      refine ⟨front, part.gap, _, htext, hfront, hpart.blank, rfl, ?_⟩
      rw [List.length_append, Part.token, Nat.zero_add]

/-- The piece of a part begins behind its blanks and before its end. -/
theorem Part.Fits.length_gap_lt {part : Part} {rest : Text} (h : part.Fits marker rest) :
    part.gap.length < part.text.length := by
  obtain ⟨c, tail, hsource, -, -⟩ := h.piece.lexeme h.maximal
  rw [Part.text, List.length_append, hsource, List.length_cons]
  omega

/-- The tokens of some parts begin within the text of the parts. -/
theorem start_of_mem_partTokens {parts : List Part} {rest : Text} {offset : Nat} {token : Token}
    (hfit : Fit marker parts rest) (hmem : token ∈ partTokens offset parts) :
    offset ≤ token.start ∧ token.start < offset + (joined parts).length := by
  induction parts generalizing offset with
  | nil => simp [partTokens] at hmem
  | cons part parts ih =>
      obtain ⟨hpart, hparts⟩ := hfit
      have hgap := hpart.length_gap_lt
      rw [joined_cons, List.length_append]
      rcases List.mem_cons.mp hmem with rfl | hlater
      · simp only [Part.token]
        omega
      · have hplace := ih hparts hlater
        omega

/-- Tokens of later parts begin later. -/
theorem pairwise_start_partTokens {parts : List Part} {rest : Text} (hfit : Fit marker parts rest)
    (offset : Nat) :
    (partTokens offset parts).Pairwise fun first later => first.start < later.start := by
  induction parts generalizing offset with
  | nil => exact .nil
  | cons part parts ih =>
      obtain ⟨hpart, hparts⟩ := hfit
      refine List.pairwise_cons.mpr ⟨fun later hlater => ?_, ih hparts _⟩
      have hgap := hpart.length_gap_lt
      have hplace := start_of_mem_partTokens hparts hlater
      simp only [Part.token]
      omega

/-- **Places ascend.**  Each token begins before the next, and before the place where
the tokens end. -/
theorem ascending_tokens (marker : Char) (input : Text) :
    ((tokens marker input).tokens.Pairwise fun first later => first.start < later.start) ∧
      ∀ token ∈ (tokens marker input).tokens,
        token.start < (tokens marker input).ending.offset := by
  obtain ⟨parts, gap, rest, -, hfit, -, htokens, hstops⟩ := exists_parts_of_tokens marker input
  rw [htokens, hstops.offset_eq]
  refine ⟨pairwise_start_partTokens hfit 0, fun token hmem => ?_⟩
  have hplace := start_of_mem_partTokens hfit hmem
  rw [List.length_append]
  omega

/-- Parts up to the end of an input, or up to a quote that nothing closes. -/
theorem tokens_of_parts {parts : List Part} {gap rest : Text} {ending : Ending}
    (hfit : Fit marker parts (gap ++ rest)) (hgap : ∀ c ∈ gap, isBlank c)
    (h : Stops rest (joined parts ++ gap).length ending) :
    tokens marker (joined parts ++ (gap ++ rest)) = ⟨partTokens 0 parts, ending⟩ := by
  have hending : ((Scan.start marker (gap ++ rest)).moved (joined parts).length).stream =
      ⟨[], ending⟩ := by
    apply Scan.stream_of_stops _ hgap rfl
    simpa [Scan.moved, Scan.start] using h
  rw [tokens_of_fit hfit, hending, Stream.prepend, List.append_nil]

/-- A bare word in front of a quote does not end there. -/
theorem fit_in_front_of_quote {parts : List Part} {gap after : Text} {quote : Char}
    (hgap : ∀ c ∈ gap, isBlank c) (hquote : isQuote quote) :
    Fit marker parts (gap ++ quote :: after) ↔
      Fit marker parts gap ∧ ¬(gap = [] ∧ EndsInWord parts) := by
  constructor
  · intro hfit
    refine ⟨hfit.mono fun _ => separated_blank hgap, ?_⟩
    rintro ⟨rfl, hword⟩
    have hsep := hfit.separated hword quote (by simp)
    rw [isWordChar_of_isQuote hquote] at hsep
    cases hsep
  · rintro ⟨hfit, htouch⟩
    refine hfit.mono fun hword => ?_
    cases gap with
    | nil => exact absurd ⟨rfl, hword⟩ htouch
    | cons c gap => exact separated_cons (isWordChar_of_isBlank (hgap c List.mem_cons_self))

/-- A text is scanned to its end exactly if it can be cut into parts and blanks. -/
theorem tokens_eq_done_iff {input : Text} {found : List Token} {offset : Nat} :
    tokens marker input = ⟨found, .done offset⟩ ↔
      ∃ parts gap, Partition marker input parts gap ∧ found = partTokens 0 parts ∧
        offset = input.length := by
  constructor
  · intro h
    obtain ⟨parts, gap, rest, htext, hfit, hgap, htokens, hstops⟩ :=
      exists_parts_of_tokens marker input
    rw [h] at htokens hstops
    cases hstops
    rw [List.append_nil] at htext hfit
    exact ⟨parts, gap, ⟨htext, hfit, hgap⟩, htokens, congrArg List.length htext.symm⟩
  · rintro ⟨parts, gap, ⟨rfl, hfit, hgap⟩, rfl, rfl⟩
    rw [← List.append_nil gap] at hfit
    have hdone := tokens_of_parts hfit hgap (.done _)
    rwa [List.append_nil] at hdone

/-- A scan stops at a quote exactly if the text before it can be cut so, the quote stands apart
from a word, and nothing closes it. -/
theorem tokens_eq_openQuote_iff {input : Text} {found : List Token} {offset : Nat} :
    tokens marker input = ⟨found, .openQuote offset⟩ ↔
      ∃ parts gap quote after, Partition marker (input.take offset) parts gap ∧
        ¬(gap = [] ∧ EndsInWord parts) ∧ found = partTokens 0 parts ∧
        input.drop offset = quote :: after ∧ isQuote quote ∧ Unclosed quote after := by
  constructor
  · intro h
    obtain ⟨parts, gap, rest, htext, hfit, hgap, htokens, hstops⟩ :=
      exists_parts_of_tokens marker input
    rw [h] at htokens hstops
    cases hstops with
    | @openQuote quote after _ hquote unclosed =>
        rw [← List.append_assoc] at htext
        obtain ⟨hparts, htouch⟩ := (fit_in_front_of_quote hgap hquote).mp hfit
        have htake : input.take (joined parts ++ gap).length = joined parts ++ gap := by
          rw [htext, List.take_left]
        have hdrop : input.drop (joined parts ++ gap).length = quote :: after := by
          rw [htext, List.drop_left]
        exact ⟨parts, gap, quote, after, ⟨htake, hparts, hgap⟩, htouch, htokens, hdrop, hquote,
          unclosed⟩
  · rintro ⟨parts, gap, quote, after, ⟨hbefore, hparts, hgap⟩, htouch, rfl, hafter, hquote,
      unclosed⟩
    have hinput : input = joined parts ++ (gap ++ quote :: after) := by
      rw [← List.append_assoc, ← hbefore, ← hafter, List.take_append_drop]
    -- there is a quote at the offset, so the text before it is as long as the offset says
    have hlength : offset = (joined parts ++ gap).length := by
      have hdrop := congrArg List.length hafter
      have htake := congrArg List.length hbefore
      rw [List.length_drop, List.length_cons] at hdrop
      rw [List.length_take] at htake
      omega
    have hfit : Fit marker parts (gap ++ quote :: after) :=
      (fit_in_front_of_quote hgap hquote).mpr ⟨hparts, htouch⟩
    rw [hinput, hlength]
    exact tokens_of_parts hfit hgap (.openQuote _ hquote unclosed)

/-- **Scanning is an exact partition.**  An input is scanned to its end with some
tokens exactly if it has a partition and they are the tokens of its parts.  A scan
meets an open quote exactly if the text before that quote has a partition that
does not end in a bare word, and nothing closes the quote; the tokens are those of
the parts, which are all the tokens of the text before the quote. -/
theorem tokens_eq_iff_partition (marker : Char) (input : Text) (found : List Token)
    (offset : Nat) :
    (tokens marker input = ⟨found, .done offset⟩ ↔
      ∃ parts gap, Partition marker input parts gap ∧ found = partTokens 0 parts ∧
        offset = input.length) ∧
    (tokens marker input = ⟨found, .openQuote offset⟩ ↔
      ∃ parts gap quote after, Partition marker (input.take offset) parts gap ∧
        ¬(gap = [] ∧ EndsInWord parts) ∧ found = partTokens 0 parts ∧
        input.drop offset = quote :: after ∧ isQuote quote ∧ Unclosed quote after) ∧
    (tokens marker input = ⟨found, .openQuote offset⟩ →
      tokens marker (input.take offset) = ⟨found, .done offset⟩) := by
  refine ⟨tokens_eq_done_iff, tokens_eq_openQuote_iff, fun h => ?_⟩
  obtain ⟨parts, gap, quote, after, hparts, -, hfound, hafter, -, -⟩ :=
    tokens_eq_openQuote_iff.mp h
  have hlength : offset = (input.take offset).length := by
    have hdrop := congrArg List.length hafter
    rw [List.length_drop, List.length_cons] at hdrop
    rw [List.length_take]
    omega
  exact tokens_eq_done_iff.mpr ⟨parts, gap, hparts, hfound, hlength⟩

/-- The last quote has a backslash in front of it. -/
theorem tokens_before_open_quote :
    tokens '*' ['(', 'a', ' ', '"', 'b', '\\', '"'] =
        ⟨[⟨.opening, ['('], 0, 1⟩, ⟨.text, ['a'], 1, 2⟩], .openQuote 3⟩ ∧
      tokens '*' ['(', 'a', ' '] =
        ⟨[⟨.opening, ['('], 0, 1⟩, ⟨.text, ['a'], 1, 2⟩], .done 3⟩ :=
  have hopen : tokens '*' ['(', 'a', ' ', '"', 'b', '\\', '"'] =
      ⟨[⟨.opening, ['('], 0, 1⟩, ⟨.text, ['a'], 1, 2⟩], .openQuote 3⟩ := by cbv
  ⟨hopen, (tokens_eq_iff_partition '*' _ _ 3).2.2 hopen⟩

end TagFilter
