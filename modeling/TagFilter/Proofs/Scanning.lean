import TagFilter.Scan

/-!
# Scanning texts side by side

What a scan finds depends on the text in front of it alone: where it stands
changes the places of its tokens and nothing else (`Scan.stream_moved`).  A text
that is scanned to its end gives the same tokens in front of any other text
that cannot prolong its last word, and the other text then gives its own
(`tokens_append`).  A blank between two texts is enough for that, whatever the
texts are (`tokens_text_by_text`).
-/

namespace TagFilter

/-- A token whose kind is the lone marker has the marker as its text. -/
def Token.Proper (marker : Char) (token : Token) : Prop :=
  token.kind = .wildcard → token.value = [marker]

/-- A word is the lone marker exactly if it is the marker and nothing else: keywords are
longer, also where the marker is a letter. -/
theorem classify_eq_wildcard_iff {marker : Char} {word : Text} :
    classify marker word = .wildcard ↔ word = [marker] := by
  constructor
  · intro h
    unfold classify keyword? at h
    grind
  · rintro rfl
    simp [classify, keyword?]

/-! ## Moving a scan -/

/-- The token, `n` characters further on. -/
def Token.moved (n : Nat) (token : Token) : Token :=
  { token with start := token.start + n, stop := token.stop + n }

/-- The ending, `n` characters further on. -/
def Ending.moved (n : Nat) : Ending → Ending
  | .done offset => .done (offset + n)
  | .openQuote offset => .openQuote (offset + n)

/-- What a pull gives, `n` characters further on. -/
def Pulled.moved (n : Nat) : Pulled → Pulled
  | .token found => .token (found.moved n)
  | .ending found => .ending (found.moved n)

/-- The stream, `n` characters further on. -/
def Stream.moved (n : Nat) (stream : Stream) : Stream :=
  ⟨stream.tokens.map (·.moved n), stream.ending.moved n⟩

/-- The stream behind some tokens that come before it. -/
def Stream.prepend (tokens : List Token) (stream : Stream) : Stream :=
  { stream with tokens := tokens ++ stream.tokens }

/-- Tokens in front of a stream are its first elements. -/
theorem Stream.toList_prepend (found : List Token) (stream : Stream) :
    (stream.prepend found).toList = found.map .token ++ stream.toList := by
  simp [Stream.prepend, Stream.toList]

/-- Tokens can be put in front one after the other. -/
theorem Stream.prepend_prepend (first second : List Token) (stream : Stream) :
    (stream.prepend second).prepend first = stream.prepend (first ++ second) := by
  simp [Stream.prepend]

namespace Scan

/-- The same text, `n` characters further on. -/
def moved (n : Nat) (scan : Scan) : Scan := { scan with offset := scan.offset + n }

/-- The scan with more text at its end. -/
def followedBy (more : Text) (scan : Scan) : Scan := { scan with rest := scan.rest ++ more }

/-- The stream begins with the token that a pull gives. -/
theorem stream_of_pull_token {scan after : Scan} {token : Token}
    (h : scan.pull = (.token token, after)) : scan.stream = after.stream.prepend [token] := by
  rw [stream]
  split
  · rename_i hpull
    obtain ⟨htoken, rfl⟩ := Prod.mk.inj (hpull.symm.trans h)
    obtain rfl := Pulled.token.inj htoken
    rfl
  · rename_i hpull
    simp [hpull] at h

/-- A stream whose first pull is the ending has no tokens. -/
theorem stream_of_pull_ending {scan after : Scan} {ending : Ending}
    (h : scan.pull = (.ending ending, after)) : scan.stream = ⟨[], ending⟩ := by
  rw [stream]
  split
  · rename_i hpull
    simp [hpull] at h
  · rename_i hpull
    obtain ⟨hending, -⟩ := Prod.mk.inj (hpull.symm.trans h)
    rw [Pulled.ending.inj hending]

/-- **Induction along a stream.**  What holds where the stream is over, and of a
scan if it holds behind the next token, holds of every scan. -/
theorem stream_induction {motive : Scan → Prop}
    (ending : ∀ scan after ending, scan.pull = (.ending ending, after) → motive scan)
    (token : ∀ scan after token, scan.pull = (.token token, after) → motive after → motive scan)
    (scan : Scan) : motive scan := by
  generalize hn : scan.rest.length = n
  induction n using Nat.strongRecOn generalizing scan with
  | ind n ih =>
      subst hn
      match hpull : scan.pull with
      | (.ending found, after) => exact ending scan after found hpull
      | (.token found, after) =>
          exact token scan after found hpull (ih _ (length_rest_lt_of_pull hpull) after rfl)

/-- A scan that is further on pulls the same, further on. -/
theorem pull_moved (n : Nat) (scan : Scan) :
    (scan.moved n).pull = (scan.pull.1.moved n, scan.pull.2.moved n) := by
  have hoffset := Nat.add_right_comm scan.offset n (scan.rest.takeWhile isBlank).length
  unfold pull cut skipBlanks moved
  dsimp only
  rw [hoffset]
  split
  · rfl
  · split
    · rfl
    · simp [Pulled.moved, Token.moved, Nat.add_right_comm]

/-- The tokens of a text do not depend on what was read before it, but for
their places. -/
theorem stream_moved (n : Nat) (scan : Scan) :
    (scan.moved n).stream = scan.stream.moved n := by
  induction scan using stream_induction with
  | ending scan after ending hpull =>
      have hmoved := pull_moved n scan
      rw [hpull] at hmoved
      rw [stream_of_pull_ending hpull, stream_of_pull_ending hmoved]
      rfl
  | token scan after token hpull ih =>
      have hmoved := pull_moved n scan
      rw [hpull] at hmoved
      rw [stream_of_pull_token hpull, stream_of_pull_token hmoved, ih]
      rfl

/-! ## Texts side by side -/

/-- The scan behind its whole text, with more text in front of it. -/
def beyond (more : Text) (scan : Scan) : Scan :=
  { scan with rest := more, offset := scan.offset + scan.rest.length }

/-- A pull that gives a token has found a lexeme behind the blanks. -/
theorem pull_eq_token {scan after : Scan} {token : Token} (h : scan.pull = (.token token, after)) :
    ∃ c rest found, scan.rest.dropWhile isBlank = c :: rest ∧
      lexeme scan.marker c rest = some found ∧
      token = ⟨found.kind, found.value, scan.skipBlanks.offset,
        scan.skipBlanks.offset + found.length⟩ ∧
      after = { scan with
        rest := found.rest
        offset := scan.skipBlanks.offset + found.length } := by
  unfold pull cut at h
  split at h
  · simp at h
  · rename_i c rest hrest
    split at h
    · simp at h
    · rename_i found hfound
      obtain ⟨htoken, rfl⟩ := Prod.mk.inj h
      exact ⟨c, rest, found, hrest, hfound, (Pulled.token.inj htoken).symm, rfl⟩

end Scan

/-- A blank is no part of a word. -/
theorem isWordChar_of_isBlank {c : Char} (h : isBlank c) : isWordChar c = false := by
  simp [isWordChar, h]

/-- What is part of a word is no blank. -/
theorem isBlank_of_isWordChar {c : Char} (h : isWordChar c) : isBlank c = false := by
  simp only [isWordChar, Bool.and_eq_true, Bool.not_eq_true'] at h
  exact h.1.1

/-- Whether a word before the text ends where the text begins. -/
def Separated (text : Text) : Prop := ∀ c ∈ text.head?, isWordChar c = false

/-- A word ends where the text does. -/
theorem separated_nil : Separated [] := by simp [Separated]

/-- It ends in front of a character that is no part of a word. -/
theorem separated_cons {c : Char} {text : Text} (h : isWordChar c = false) :
    Separated (c :: text) := by
  simpa [Separated] using h

/-- Nothing of a separated text prolongs a word. -/
theorem Separated.takeWhile_eq_nil {text : Text} (h : Separated text) :
    text.takeWhile isWordChar = [] := by
  cases text with
  | nil => rfl
  | cons c rest => exact List.takeWhile_cons_of_neg (by simpa [Separated] using h)

/-- So all of it is left. -/
theorem Separated.dropWhile_eq_self {text : Text} (h : Separated text) :
    text.dropWhile isWordChar = text := by
  have hsplit := List.takeWhile_append_dropWhile (p := isWordChar) (l := text)
  rwa [h.takeWhile_eq_nil, List.nil_append] at hsplit

/-- A separated text behind another does not prolong the word that begins that one. -/
theorem Separated.takeWhile_append {more : Text} (h : Separated more) (text : Text) :
    (text ++ more).takeWhile isWordChar = text.takeWhile isWordChar := by
  rw [List.takeWhile_append, h.takeWhile_eq_nil, List.append_nil]
  split
  · rename_i hlength
    exact ((List.takeWhile_prefix isWordChar).eq_of_length hlength).symm
  · rfl

/-- What stands behind that word has the separated text at its end. -/
theorem Separated.dropWhile_append {more : Text} (h : Separated more) (text : Text) :
    (text ++ more).dropWhile isWordChar = text.dropWhile isWordChar ++ more := by
  rw [List.dropWhile_append, h.dropWhile_eq_self]
  split
  · rename_i hempty
    rw [List.isEmpty_iff.mp hempty, List.nil_append]
  · rfl

/-- A backslash is no quote. -/
theorem ne_backslash_of_isQuote {c : Char} (h : isQuote c) : c ≠ '\\' := by
  rintro rfl
  simp [isQuote] at h

/-- A quoted text that is closed does not depend on what follows it. -/
theorem readQuoted_append {quote : Char} (hquote : isQuote quote) {text value after : Text}
    (h : readQuoted quote text = some (value, after)) (more : Text) :
    readQuoted quote (text ++ more) = some (value, after ++ more) := by
  have hne := ne_backslash_of_isQuote hquote
  fun_induction readQuoted quote text generalizing value with
  | case1 => simp at h
  | case2 =>
      obtain ⟨rfl, rfl⟩ := Prod.mk.inj (Option.some.inj h)
      cases more <;> simp [readQuoted, hne]
  | case3 => simp at h
  | case4 d rest ih =>
      obtain ⟨⟨value', after'⟩, hread, hpair⟩ := Option.map_eq_some_iff.mp h
      obtain ⟨rfl, rfl⟩ := Prod.mk.inj hpair
      simp [readQuoted, ih hread]
  | case5 d rest =>
      obtain ⟨rfl, rfl⟩ := Prod.mk.inj (Option.some.inj h)
      simp [readQuoted, hne]
  | case6 c d rest hslash hc ih =>
      obtain ⟨⟨value', after'⟩, hread, hpair⟩ := Option.map_eq_some_iff.mp h
      obtain ⟨rfl, rfl⟩ := Prod.mk.inj hpair
      have hmore := ih hread
      rw [List.cons_append] at hmore
      simp [readQuoted, hslash, hc, hmore]

/-- A lexeme is the same in front of a separated text. -/
theorem lexeme_append {marker c : Char} {rest more : Text} {found : Lexeme}
    (h : lexeme marker c rest = some found) (hmore : Separated more) :
    lexeme marker c (rest ++ more) = some { found with rest := found.rest ++ more } := by
  unfold lexeme at h ⊢
  split at h
  · rename_i hopening
    obtain rfl := Option.some.inj h
    rw [if_pos hopening]
  · rename_i hopening
    rw [if_neg hopening]
    split at h
    · rename_i hclosing
      obtain rfl := Option.some.inj h
      rw [if_pos hclosing]
    · rename_i hclosing
      rw [if_neg hclosing]
      split at h
      · rename_i hquote
        obtain ⟨⟨value, after⟩, hread, rfl⟩ := Option.map_eq_some_iff.mp h
        have hshorter := length_lt_of_readQuoted hread
        have hlength : rest.length + more.length + 1 - (after.length + more.length) =
            rest.length + 1 - after.length := by omega
        simp [hquote, readQuoted_append hquote hread, hlength]
      · rename_i hquote
        obtain rfl := Option.some.inj h
        simp [hquote, hmore.takeWhile_append, hmore.dropWhile_append]

namespace Scan

/-- The blanks in front and what follows them make up the text. -/
theorem length_skipBlanks (scan : Scan) :
    (scan.rest.takeWhile isBlank).length + scan.skipBlanks.rest.length = scan.rest.length := by
  rw [← List.length_append]
  exact congrArg List.length List.takeWhile_append_dropWhile

/-- The blanks at the start of a text end within it if it has other characters. -/
theorem skipBlanks_followedBy {scan : Scan} (h : scan.skipBlanks.rest ≠ []) (more : Text) :
    (scan.followedBy more).skipBlanks = scan.skipBlanks.followedBy more := by
  have hlength := length_skipBlanks scan
  have hpos := List.length_pos_iff.mpr h
  have hshort : ¬(scan.rest.takeWhile isBlank).length = scan.rest.length := by omega
  have hdrop : (scan.rest.dropWhile isBlank).isEmpty = false := by simpa [skipBlanks] using h
  simp [skipBlanks, followedBy, List.takeWhile_append, List.dropWhile_append, hshort, hdrop]

/-- The blanks of a text that has nothing else go on in what follows it. -/
theorem skipBlanks_followedBy_of_blank {scan : Scan} (h : scan.skipBlanks.rest = []) (more : Text) :
    (scan.followedBy more).skipBlanks = (scan.beyond more).skipBlanks := by
  have hlength := length_skipBlanks scan
  rw [h, List.length_nil, Nat.add_zero] at hlength
  have hdrop : (scan.rest.dropWhile isBlank).isEmpty := by simpa [skipBlanks] using h
  simp [skipBlanks, followedBy, beyond, List.takeWhile_append, List.dropWhile_append, hlength,
    hdrop, Nat.add_assoc]

/-- A pull gives the same token in front of a separated text. -/
theorem pull_followedBy {scan after : Scan} {token : Token}
    (h : scan.pull = (.token token, after)) {more : Text} (hmore : Separated more) :
    (scan.followedBy more).pull = (.token token, after.followedBy more) := by
  obtain ⟨c, rest, found, hrest, hfound, rfl, rfl⟩ := pull_eq_token h
  have hskip : scan.skipBlanks.rest = c :: rest := hrest
  have hlexeme : lexeme scan.skipBlanks.marker c (rest ++ more) =
      some { found with rest := found.rest ++ more } := lexeme_append hfound hmore
  rw [pull, skipBlanks_followedBy (by simp [hskip])]
  simp only [cut, followedBy, hskip, List.cons_append, hlexeme]
  rfl

/-- To pull a token does not move the end of the text. -/
theorem beyond_of_pull {scan after : Scan} {token : Token}
    (h : scan.pull = (.token token, after)) (more : Text) :
    after.beyond more = scan.beyond more := by
  obtain ⟨c, rest, found, hrest, hfound, rfl, rfl⟩ := pull_eq_token h
  have hskip := length_skipBlanks scan
  have hlength := (lexeme_length hfound).2
  have hrest' : scan.skipBlanks.rest.length = rest.length + 1 := congrArg List.length hrest
  simp only [beyond, skipBlanks, mk.injEq, true_and, and_true]
  omega

/-- Where a text is used up, a pull gives what follows it. -/
theorem pull_followedBy_of_done {scan after : Scan} {stop : Nat}
    (h : scan.pull = (.ending (.done stop), after)) (more : Text) :
    (scan.followedBy more).pull = (scan.beyond more).pull := by
  have hskip : scan.skipBlanks.rest = [] := by
    unfold pull cut at h
    split at h
    · assumption
    · split at h <;> simp at h
  rw [pull, pull, skipBlanks_followedBy_of_blank hskip]

/-- Scans whose first pulls are the same have the same stream. -/
theorem stream_congr {scan other : Scan} (h : scan.pull = other.pull) :
    scan.stream = other.stream := by
  match hpull : other.pull with
  | (.token token, after) =>
      rw [stream_of_pull_token (h.trans hpull), stream_of_pull_token hpull]
  | (.ending ending, after) =>
      rw [stream_of_pull_ending (h.trans hpull), stream_of_pull_ending hpull]

/-- **Texts side by side.**  A text that is scanned to its end gives its tokens
in front of any text that cannot prolong its last word. -/
theorem stream_followedBy {scan : Scan} {found : List Token} {stop : Nat}
    (h : scan.stream = ⟨found, .done stop⟩) {more : Text} (hmore : Separated more) :
    (scan.followedBy more).stream = (scan.beyond more).stream.prepend found := by
  induction scan using stream_induction generalizing found with
  | ending scan after ending hpull =>
      obtain ⟨rfl, rfl⟩ := Stream.mk.inj ((stream_of_pull_ending hpull).symm.trans h)
      exact stream_congr (pull_followedBy_of_done hpull more)
  | token scan after token hpull ih =>
      obtain ⟨rfl, hending⟩ := Stream.mk.inj ((stream_of_pull_token hpull).symm.trans h)
      have hafter : after.stream = ⟨after.stream.tokens, .done stop⟩ := by rw [← hending]
      rw [stream_of_pull_token (pull_followedBy hpull hmore), ih hafter, beyond_of_pull hpull]
      rfl

/-- Every token of a stream has what every token that is pulled has. -/
theorem forall_mem_stream {property : Token → Prop} {marker : Char}
    (hpull : ∀ (scan after : Scan) (token : Token), scan.marker = marker →
      scan.pull = (.token token, after) → property token)
    (scan : Scan) (hmarker : scan.marker = marker) :
    ∀ token ∈ scan.stream.tokens, property token := by
  induction scan using stream_induction with
  | ending scan after ending h => simp [stream_of_pull_ending h]
  | token scan after token h ih =>
      have hafter : after.marker = marker := by
        obtain ⟨c, rest, found, -, -, -, rfl⟩ := pull_eq_token h
        exact hmarker
      rw [stream_of_pull_token h]
      intro other hother
      rcases List.mem_cons.mp hother with rfl | hlater
      · exact hpull scan after other hmarker h
      · exact ih hafter other hlater

end Scan

/-- A lexeme of the kind of the lone marker is the marker. -/
theorem value_of_lexeme_wildcard {marker c : Char} {rest : Text} {found : Lexeme}
    (h : lexeme marker c rest = some found) (hkind : found.kind = .wildcard) :
    found.value = [marker] := by
  unfold lexeme at h
  split at h
  · obtain rfl := Option.some.inj h
    simp at hkind
  · split at h
    · obtain rfl := Option.some.inj h
      simp at hkind
    · split at h
      · obtain ⟨⟨value, after⟩, -, rfl⟩ := Option.map_eq_some_iff.mp h
        simp at hkind
      · obtain rfl := Option.some.inj h
        exact classify_eq_wildcard_iff.mp hkind

/-- A token that is pulled is proper. -/
theorem proper_of_pull {marker : Char} (scan after : Scan) (token : Token)
    (hmarker : scan.marker = marker) (hpull : scan.pull = (.token token, after)) :
    token.Proper marker := by
  obtain ⟨c, rest, found, -, hfound, rfl, -⟩ := Scan.pull_eq_token hpull
  intro hkind
  rw [← hmarker]
  exact value_of_lexeme_wildcard hfound hkind

/-- All tokens of a text are proper. -/
theorem proper_of_mem_tokens {marker : Char} {input : Text} :
    ∀ token ∈ (tokens marker input).tokens, token.Proper marker :=
  Scan.forall_mem_stream proper_of_pull (Scan.start marker input) rfl

/-- **Inputs side by side.**  An input that is scanned to its end, in front of a
text that cannot prolong its last word: its own tokens come first, then those of
the text, as far on as the input is long. -/
theorem tokens_append {marker : Char} {input : Text} {found : List Token} {stop : Nat}
    (h : tokens marker input = ⟨found, .done stop⟩) {more : Text} (hmore : Separated more) :
    tokens marker (input ++ more) = ((tokens marker more).moved input.length).prepend found := by
  have hstream := Scan.stream_followedBy h hmore
  have hmoved := Scan.stream_moved input.length (Scan.start marker more)
  have hbeyond : (Scan.start marker input).beyond more =
      (Scan.start marker more).moved input.length := rfl
  rw [hbeyond, hmoved] at hstream
  exact hstream

/-! ## Blanks between texts -/

/-- Streams can be moved on step by step. -/
theorem Stream.moved_moved (n m : Nat) (stream : Stream) :
    (stream.moved n).moved m = stream.moved (n + m) := by
  obtain ⟨found, ending⟩ := stream
  cases ending <;>
    simp [Stream.moved, Ending.moved, Token.moved, Function.comp_def, Nat.add_assoc]

/-- Blanks in front of a text move its tokens, and do nothing else. -/
theorem tokens_blanks_append (marker : Char) {gap : Text} (hgap : ∀ c ∈ gap, isBlank c)
    (text : Text) : tokens marker (gap ++ text) = (tokens marker text).moved gap.length := by
  have hskip : (Scan.start marker (gap ++ text)).skipBlanks =
      ((Scan.start marker text).moved gap.length).skipBlanks := by
    simp only [Scan.skipBlanks, Scan.start, Scan.moved, List.takeWhile_append_of_pos hgap,
      List.dropWhile_append_of_pos hgap, List.length_append, Nat.zero_add]
  have hpull : (Scan.start marker (gap ++ text)).pull =
      ((Scan.start marker text).moved gap.length).pull := by
    rw [Scan.pull, Scan.pull, hskip]
  rw [tokens, Scan.stream_congr hpull, Scan.stream_moved, tokens]

/-- Blanks behind a text end its last word, so the text behind them keeps its tokens. -/
theorem tokens_append_blanks_append {marker : Char} {first gap : Text} {found : List Token}
    {stop : Nat} (hfirst : tokens marker first = ⟨found, .done stop⟩) (hne : gap ≠ [])
    (hgap : ∀ c ∈ gap, isBlank c) (second : Text) :
    tokens marker (first ++ gap ++ second) =
      ((tokens marker second).moved (first.length + gap.length)).prepend found := by
  have hseparated : Separated (gap ++ second) := by
    obtain ⟨c, rest, rfl⟩ := List.exists_cons_of_ne_nil hne
    exact separated_cons (isWordChar_of_isBlank (hgap c List.mem_cons_self))
  rw [List.append_assoc, tokens_append hfirst hseparated, tokens_blanks_append marker hgap,
    Stream.moved_moved, Nat.add_comm]

/-- **Scanning text by text.**  Let a text that is scanned to its end have some blanks behind
it, one at least.  What stands behind the blanks is then scanned as it is alone, to its end
or to a quote that nothing closes: the tokens are those of both texts, and the places of
the second are further on by the length of the first and the blanks. -/
theorem tokens_text_by_text (marker : Char) (first gap second : Text) (found : List Token)
    (stop : Nat) (hfirst : tokens marker first = ⟨found, .done stop⟩) (hne : gap ≠ [])
    (hgap : ∀ c ∈ gap, isBlank c) :
    (∀ (later : List Token) (offset : Nat), tokens marker second = ⟨later, .done offset⟩ →
      tokens marker (first ++ gap ++ second) =
        ⟨found ++ later.map (Token.moved (first.length + gap.length)),
          .done (offset + (first.length + gap.length))⟩) ∧
    ∀ (later : List Token) (quote : Nat), tokens marker second = ⟨later, .openQuote quote⟩ →
      tokens marker (first ++ gap ++ second) =
        ⟨found ++ later.map (Token.moved (first.length + gap.length)),
          .openQuote (quote + (first.length + gap.length))⟩ := by
  have htokens := tokens_append_blanks_append hfirst hne hgap second
  constructor
  · intro later offset hsecond
    rw [htokens, hsecond]
    rfl
  · intro later quote hsecond
    rw [htokens, hsecond]
    rfl

/-- The first text ends in a word with a quote in it, and in the second the quote that would
close the open one has a backslash before it. -/
theorem tokens_text_by_text_open_quote :
    tokens '*' ['é', '\x27'] = ⟨[⟨.text, ['é', '\x27'], 0, 2⟩], .done 2⟩ ∧
      tokens '*' ['(', '\x27', 'b', '\\', '\x27'] =
        ⟨[⟨.opening, ['('], 0, 1⟩], .openQuote 1⟩ ∧
      tokens '*' (['é', '\x27'] ++ ['\t', ' '] ++ ['(', '\x27', 'b', '\\', '\x27']) =
        ⟨[⟨.text, ['é', '\x27'], 0, 2⟩, ⟨.opening, ['('], 4, 5⟩], .openQuote 5⟩ :=
  have hfirst : tokens '*' ['é', '\x27'] = ⟨[⟨.text, ['é', '\x27'], 0, 2⟩], .done 2⟩ := by
    rw [tokens, Scan.stream_of_pull_token rfl, Scan.stream_of_pull_ending rfl]
    rfl
  have hsecond : tokens '*' ['(', '\x27', 'b', '\\', '\x27'] =
      ⟨[⟨.opening, ['('], 0, 1⟩], .openQuote 1⟩ := by
    rw [tokens, Scan.stream_of_pull_token rfl, Scan.stream_of_pull_ending rfl]
    rfl
  have hgap : ∀ c ∈ ['\t', ' '], isBlank c := List.all_eq_true.mp (by decide)
  ⟨hfirst, hsecond,
    (tokens_text_by_text '*' _ _ _ _ _ hfirst (by simp) hgap).2 _ _ hsecond⟩

end TagFilter
