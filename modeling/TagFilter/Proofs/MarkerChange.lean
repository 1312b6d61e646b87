import Mathlib
import TagFilter.Proofs.BareWords
import TagFilter.Proofs.LoadedSettings
import TagFilter.Reading
import TagFilter.TagList

/-!
# Changing the marker

A marker that is not refused and is no letter can be exchanged for another such
character that the input does not hold: written in its place everywhere, and given
to the scanner as the marker, the other one makes no difference but in the texts of
tokens and failures (`readings_rename_of_checkMarker`).

Neither character means anything to the scanner, so no blank, parenthesis, quote or
backslash comes or goes (`Exchangeable.pull_rename`), and neither is part of a keyword.  A
word is the lone marker after the change exactly if it was before, because the new
marker did not occur.  From there on the tree of a filter does not have the marker
in it, and each step of a reading is the same.
-/

namespace TagFilter

variable {old new : Char}

/-! ## Characters -/

/-- The character, with the new marker for the old one. -/
def renameChar (old new c : Char) : Char := if c = old then new else c

/-- The text, with the new marker for the old one. -/
def rename (old new : Char) (text : Text) : Text := text.map (renameChar old new)

/-- There is nothing to rename in the empty text. -/
@[simp]
theorem rename_nil : rename old new [] = [] := rfl

/-- A text is renamed character by character. -/
@[simp]
theorem rename_cons (c : Char) (text : Text) :
    rename old new (c :: text) = renameChar old new c :: rename old new text := rfl

/-- Texts side by side are renamed each. -/
@[simp]
theorem rename_append (left right : Text) :
    rename old new (left ++ right) = rename old new left ++ rename old new right :=
  List.map_append

/-- Neither character means anything to the scanner, and neither is a letter of a
keyword. -/
structure Exchangeable (old new : Char) : Prop where
  oldFree : isReserved old = false
  newFree : isReserved new = false
  oldNoLetter : old.isAlpha = false
  newNoLetter : new.isAlpha = false

/-- What does not tell the markers apart does not see the change. -/
theorem apply_renameChar {β : Type} {f : Char → β} (h : f new = f old) (c : Char) :
    f (renameChar old new c) = f c := by
  unfold renameChar
  split
  · rename_i hc
    rw [h, hc]
  · rfl

/-- A text without the old marker stays as it is. -/
theorem rename_of_not_mem {text : Text} (h : old ∉ text) : rename old new text = text := by
  have hchar : ∀ c ∈ text, renameChar old new c = c := by
    intro c hc
    have hne : c ≠ old := fun heq => h (heq ▸ hc)
    rw [renameChar, if_neg hne]
  rw [rename, List.map_congr_left hchar, List.map_id']

/-- Where the new marker was not, it stands for the old one. -/
theorem mem_rename_iff {text : Text} (h : new ∉ text) : new ∈ rename old new text ↔ old ∈ text := by
  rw [rename, List.mem_map]
  constructor
  · rintro ⟨c, hc, hnew⟩
    by_cases hold : c = old
    · exact hold ▸ hc
    · rw [renameChar, if_neg hold] at hnew
      exact absurd (hnew ▸ hc) h
  · intro hold
    exact ⟨old, hold, by rw [renameChar, if_pos rfl]⟩

/-- A word becomes the new marker only if it was the old one. -/
theorem rename_eq_marker_iff {word : Text} (h : new ∉ word) :
    rename old new word = [new] ↔ word = [old] := by
  constructor
  · intro hword
    obtain ⟨c, rfl, hc⟩ := List.map_eq_singleton_iff.mp hword
    have hmem : old ∈ [c] := (mem_rename_iff h).mp (by rw [hword]; exact List.mem_singleton_self _)
    rw [List.mem_singleton.mp hmem]
  · rintro rfl
    simp [rename, renameChar]

/-- A character that is not reserved is no blank and no quote. -/
theorem isBlank_and_isQuote_of_not_isReserved {c : Char} (h : isReserved c = false) :
    isBlank c = false ∧ isQuote c = false := by
  simp only [isReserved, Bool.or_eq_false_iff] at h
  exact ⟨h.1.1.1.1, h.1.2⟩

namespace Exchangeable

/-- A character that means something to the scanner stays what it is, and nothing
becomes it. -/
theorem renameChar_eq_iff (h : Exchangeable old new) {c d : Char} (hd : isReserved d) :
    renameChar old new c = d ↔ c = d := by
  have hold : old ≠ d := by
    rintro rfl
    rw [h.oldFree] at hd
    exact absurd hd (by decide)
  have hnew : new ≠ d := by
    rintro rfl
    rw [h.newFree] at hd
    exact absurd hd (by decide)
  by_cases hc : c = old
  · subst hc
    simp [renameChar, hold, hnew]
  · rw [renameChar, if_neg hc]

/-- Reserved characters stay as they are. -/
theorem renameChar_of_isReserved (h : Exchangeable old new) {c : Char} (hc : isReserved c) :
    renameChar old new c = c :=
  (h.renameChar_eq_iff hc).mpr rfl

/-- A character is a blank if it was one before. -/
theorem isBlank_renameChar (h : Exchangeable old new) (c : Char) :
    isBlank (renameChar old new c) = isBlank c := by
  have hold := (isBlank_and_isQuote_of_not_isReserved h.oldFree).1
  have hnew := (isBlank_and_isQuote_of_not_isReserved h.newFree).1
  exact apply_renameChar (hnew.trans hold.symm) c

/-- It is a quote if it was one. -/
theorem isQuote_renameChar (h : Exchangeable old new) (c : Char) :
    isQuote (renameChar old new c) = isQuote c := by
  have hold := (isBlank_and_isQuote_of_not_isReserved h.oldFree).2
  have hnew := (isBlank_and_isQuote_of_not_isReserved h.newFree).2
  exact apply_renameChar (hnew.trans hold.symm) c

/-- It belongs to a word if it did. -/
theorem isWordChar_renameChar (h : Exchangeable old new) (c : Char) :
    isWordChar (renameChar old new c) = isWordChar c := by
  have hopening : renameChar old new c = '(' ↔ c = '(' := h.renameChar_eq_iff (by decide)
  have hclosing : renameChar old new c = ')' ↔ c = ')' := h.renameChar_eq_iff (by decide)
  simp only [isWordChar, h.isBlank_renameChar, ne_eq, hopening, hclosing]

/-! ## Quoted texts and words -/

/-- A backslash is taken away in front of the same characters. -/
theorem unescape_renameChar (h : Exchangeable old new) {quote : Char} (hquote : isReserved quote)
    (c : Char) :
    unescape quote (renameChar old new c) = rename old new (unescape quote c) := by
  have hslash : isReserved '\\' := by decide
  simp only [unescape, h.renameChar_eq_iff hquote, h.renameChar_eq_iff hslash]
  split
  · rfl
  · rw [rename_cons, rename_cons, rename_nil, h.renameChar_of_isReserved hslash]

/-- A quoted text is read to the same place. -/
theorem readQuoted_rename (h : Exchangeable old new) {quote : Char} (hquote : isReserved quote)
    (text : Text) :
    readQuoted quote (rename old new text) =
      (readQuoted quote text).map fun (value, after) =>
        (rename old new value, rename old new after) := by
  have hslash : isReserved '\\' := by decide
  have hkeep := h.renameChar_of_isReserved hslash
  fun_induction readQuoted quote text with
  | case1 => rfl
  | case2 => simp [readQuoted, h.renameChar_of_isReserved hquote]
  | case3 c hc => simp [readQuoted, h.renameChar_eq_iff hquote, hc]
  | case4 d rest ih =>
      -- the character behind the backslash may be the marker, but never becomes a quote
      have hescaped := h.unescape_renameChar hquote d
      rw [rename_cons, rename_cons, readQuoted, if_pos hkeep, ih, hescaped]
      simp [Function.comp_def]
  | case5 d rest hne =>
      rw [rename_cons, rename_cons, readQuoted, h.renameChar_of_isReserved hquote, if_neg hne,
        if_pos rfl]
      rfl
  | case6 c d rest hne hc ih =>
      rw [rename_cons] at ih
      rw [rename_cons, rename_cons, readQuoted, if_neg (mt (h.renameChar_eq_iff hslash).mp hne),
        if_neg (mt (h.renameChar_eq_iff hquote).mp hc), ih]
      simp [Function.comp_def]

end Exchangeable

namespace Exchangeable

/-- No keyword appears, and none goes away. -/
theorem keyword?_rename (h : Exchangeable old new) (word : Text) :
    keyword? (rename old new word) = keyword? word := by
  by_cases hold : old ∈ word
  · have hnew : new ∈ rename old new word :=
      List.mem_map.mpr ⟨old, hold, by rw [renameChar, if_pos rfl]⟩
    rw [keyword?_eq_none_of_mem hnew h.newNoLetter, keyword?_eq_none_of_mem hold h.oldNoLetter]
  · rw [rename_of_not_mem hold]

/-- A word keeps its kind, and a lone marker is one of the new kind. -/
theorem classify_rename (h : Exchangeable old new) {word : Text} (hword : new ∉ word) :
    classify new (rename old new word) = classify old word := by
  simp only [classify, h.keyword?_rename, rename_eq_marker_iff hword]

end Exchangeable

/-! ## Scanning -/

/-- The token, with the new marker in its text for the old one. -/
def Token.rename (old new : Char) (token : Token) : Token :=
  { token with value := TagFilter.rename old new token.value }

/-- What a pull gives, with the new marker for the old one. -/
def Pulled.rename (old new : Char) : Pulled → Pulled
  | .token found => .token (found.rename old new)
  | .ending found => .ending found

/-- The stream, with the new marker in the texts of its tokens for the old one. -/
def Stream.rename (old new : Char) (stream : Stream) : Stream :=
  ⟨stream.tokens.map (·.rename old new), stream.ending⟩

/-- The lexeme, with the new marker for the old one. -/
def Lexeme.rename (old new : Char) (found : Lexeme) : Lexeme :=
  { found with
    value := TagFilter.rename old new found.value
    rest := TagFilter.rename old new found.rest }

/-- The scan of the text with the new marker for the old one. -/
def Scan.rename (old new : Char) (scan : Scan) : Scan :=
  { scan with
    marker := new
    rest := TagFilter.rename old new scan.rest }

/-- A quoted text that is read has no character that was not there. -/
theorem mem_of_readQuoted {quote c : Char} {text value after : Text}
    (h : readQuoted quote text = some (value, after)) (hc : c ∈ value ∨ c ∈ after) : c ∈ text := by
  fun_induction readQuoted quote text generalizing value with
  | case1 => simp at h
  | case2 =>
      obtain ⟨rfl, rfl⟩ := Prod.mk.inj (Option.some.inj h)
      simp at hc
  | case3 => simp at h
  | case4 d rest ih =>
      obtain ⟨⟨value', after'⟩, hread, hpair⟩ := Option.map_eq_some_iff.mp h
      obtain ⟨rfl, rfl⟩ := Prod.mk.inj hpair
      have hunescape : c ∈ unescape quote d → c = '\\' ∨ c = d := by
        unfold unescape
        split
        · intro hmem
          exact .inr (List.mem_singleton.mp hmem)
        · simp
      have hlater := ih hread
      grind
  | case5 d rest =>
      obtain ⟨rfl, rfl⟩ := Prod.mk.inj (Option.some.inj h)
      exact List.mem_cons_of_mem _ (by simpa using hc)
  | case6 e d rest _ _ ih =>
      obtain ⟨⟨value', after'⟩, hread, hpair⟩ := Option.map_eq_some_iff.mp h
      obtain ⟨rfl, rfl⟩ := Prod.mk.inj hpair
      have hlater := ih hread
      grind

/-- A lexeme and what follows it are made of the characters of the text. -/
theorem mem_of_lexeme {marker c d : Char} {rest : Text} {found : Lexeme}
    (h : lexeme marker c rest = some found) (hd : d ∈ found.value ∨ d ∈ found.rest) :
    d ∈ c :: rest := by
  unfold lexeme at h
  split at h
  · obtain rfl := Option.some.inj h
    simpa using hd
  · split at h
    · obtain rfl := Option.some.inj h
      simpa using hd
    · split at h
      · obtain ⟨⟨value, after⟩, hread, rfl⟩ := Option.map_eq_some_iff.mp h
        exact List.mem_cons_of_mem c (mem_of_readQuoted hread hd)
      · obtain rfl := Option.some.inj h
        have htake : (rest.takeWhile isWordChar).Sublist rest := List.takeWhile_sublist isWordChar
        have hdrop : (rest.dropWhile isWordChar).Sublist rest := List.dropWhile_sublist isWordChar
        rcases hd with hword | hrest
        · exact (htake.cons_cons c).mem hword
        · exact List.mem_cons_of_mem c (hdrop.mem hrest)

/-- What a scan pulls has no character that its text has not. -/
theorem Scan.mem_of_pull {scan after : Scan} {token : Token} {c : Char}
    (h : scan.pull = (.token token, after)) (hc : c ∈ token.value ∨ c ∈ after.rest) :
    c ∈ scan.rest := by
  obtain ⟨d, rest, found, hrest, hfound, rfl, rfl⟩ := pull_eq_token h
  have hmem := mem_of_lexeme hfound hc
  rw [← hrest] at hmem
  exact (List.dropWhile_sublist isBlank).mem hmem

namespace Exchangeable

/-- The lexeme at the start of a text that does not have the new marker. -/
theorem lexeme_rename (h : Exchangeable old new) {c : Char} {rest : Text} (hnew : new ∉ c :: rest) :
    lexeme new (renameChar old new c) (rename old new rest) =
      (lexeme old c rest).map (Lexeme.rename old new) := by
  have hword : isWordChar ∘ renameChar old new = isWordChar := funext h.isWordChar_renameChar
  have hopening : renameChar old new c = '(' ↔ c = '(' := h.renameChar_eq_iff (by decide)
  have hclosing : renameChar old new c = ')' ↔ c = ')' := h.renameChar_eq_iff (by decide)
  unfold lexeme
  simp only [hopening, hclosing, h.isQuote_renameChar]
  split
  · rfl
  · split
    · rfl
    · split
      · rename_i hquote
        have hreserved : isReserved c := by simp [isReserved, hquote]
        rw [h.renameChar_of_isReserved hreserved, h.readQuoted_rename hreserved]
        simp [Function.comp_def, Lexeme.rename, rename]
      · have htake : (rename old new rest).takeWhile isWordChar =
            rename old new (rest.takeWhile isWordChar) := by
          rw [rename, List.takeWhile_map, hword, rename]
        have hdrop : (rename old new rest).dropWhile isWordChar =
            rename old new (rest.dropWhile isWordChar) := by
          rw [rename, List.dropWhile_map, hword, rename]
        have hsublist : (rest.takeWhile isWordChar).Sublist rest :=
          List.takeWhile_sublist isWordChar
        have hclassify := h.classify_rename fun hmem => hnew ((hsublist.cons_cons c).mem hmem)
        rw [htake, hdrop, ← rename_cons, hclassify]
        simp [Lexeme.rename, rename]

/-- **One pull.**  It gives the same token but for its text, and leaves the same
place. -/
theorem pull_rename (h : Exchangeable old new) {scan : Scan} (hmarker : scan.marker = old)
    (hnew : new ∉ scan.rest) :
    (scan.rename old new).pull = (scan.pull.1.rename old new, scan.pull.2.rename old new) := by
  have hblank : isBlank ∘ renameChar old new = isBlank := funext h.isBlank_renameChar
  have hskip : (scan.rename old new).skipBlanks = scan.skipBlanks.rename old new := by
    simp only [Scan.skipBlanks, Scan.rename, rename, List.dropWhile_map, List.takeWhile_map, hblank,
      List.length_map]
  have hnew' : new ∉ scan.skipBlanks.rest := fun hmem =>
    hnew ((List.dropWhile_sublist isBlank).mem hmem)
  rw [Scan.pull, Scan.pull, hskip]
  have hmarker' : scan.skipBlanks.marker = old := hmarker
  generalize scan.skipBlanks = place at hnew' hmarker'
  obtain ⟨marker, rest, offset, ended⟩ := place
  subst hmarker'
  cases rest with
  | nil => rfl
  | cons c rest =>
      have hlexeme := h.lexeme_rename hnew'
      simp only [Scan.cut, Scan.rename, rename_cons, hlexeme]
      cases lexeme marker c rest with
      | none => rfl
      | some found => rfl

/-- Every pull takes the same, so all of the stream is the same but for the texts. -/
theorem stream_rename (h : Exchangeable old new) (scan : Scan) (hmarker : scan.marker = old)
    (hnew : new ∉ scan.rest) : (scan.rename old new).stream = scan.stream.rename old new := by
  induction scan using Scan.stream_induction with
  | ending scan after ending hpull =>
      have hrename := h.pull_rename hmarker hnew
      rw [hpull] at hrename
      rw [Scan.stream_of_pull_ending hpull, Scan.stream_of_pull_ending hrename]
      rfl
  | token scan after token hpull ih =>
      have hrename := h.pull_rename hmarker hnew
      rw [hpull] at hrename
      have hafter : after.marker = old := by
        obtain ⟨c, rest, found, -, -, -, rfl⟩ := Scan.pull_eq_token hpull
        exact hmarker
      have hnew' : new ∉ after.rest := fun hmem => hnew (Scan.mem_of_pull hpull (.inr hmem))
      rw [Scan.stream_of_pull_token hpull, Scan.stream_of_pull_token hrename, ih hafter hnew']
      rfl

/-- A text without the new marker has the same tokens, renamed. -/
theorem tokens_rename (h : Exchangeable old new) {input : Text} (hnew : new ∉ input) :
    tokens new (rename old new input) = (tokens old input).rename old new :=
  h.stream_rename (Scan.start old input) rfl hnew

end Exchangeable

/-- No token has a character that its input has not. -/
theorem Scan.mem_of_mem_stream {c : Char} {scan : Scan} {token : Token}
    (htoken : token ∈ scan.stream.tokens) (hc : c ∈ token.value) : c ∈ scan.rest := by
  induction scan using Scan.stream_induction with
  | ending scan after ending hpull => simp [Scan.stream_of_pull_ending hpull] at htoken
  | token scan after first hpull ih =>
      rw [Scan.stream_of_pull_token hpull] at htoken
      rcases List.mem_cons.mp htoken with rfl | hlater
      · exact Scan.mem_of_pull hpull (.inl hc)
      · exact Scan.mem_of_pull hpull (.inr (ih hlater))

/-- What is not in a text is in none of its tokens. -/
theorem not_mem_of_mem_tokens {c marker : Char} {input : Text} (h : c ∉ input) :
    ∀ token ∈ (tokens marker input).tokens, c ∉ token.value := by
  intro token htoken hc
  exact h (Scan.mem_of_mem_stream htoken hc)

/-! ## Reading -/

/-- The failure, with the new marker in the text it shows for the old one. -/
def Failure.rename (old new : Char) : Failure → Failure
  | .openQuote offset => .openQuote offset
  | .grammar complaint offset value => .grammar complaint offset (TagFilter.rename old new value)

/-- The open group, with the new marker for the old one. -/
def Group.rename (old new : Char) (group : Group) : Group :=
  { group with opening := group.opening.rename old new }

/-- The progress, with the new marker for the old one: what was read of the filter
does not have it. -/
def Progress.rename (old new : Char) (progress : Progress) : Progress :=
  { progress with groups := progress.groups.map (·.rename old new) }

/-- The reading, with the new marker for the old one. -/
def Reading.rename (old new : Char) (reading : Reading) : Reading :=
  { reading with result := reading.result.mapError (·.rename old new) }

/-- Gaps are where the marker was. -/
theorem Glob.ofText_rename {text : Text} (hnew : new ∉ text) :
    ofText new (TagFilter.rename old new text) = ofText old text := by
  induction text with
  | nil => rfl
  | cons c rest ih =>
      rw [List.mem_cons, not_or] at hnew
      rw [rename_cons, ofText, ofText, ih hnew.2]
      by_cases hc : c = old
      · simp [renameChar, hc]
      · simp [renameChar, hc, Ne.symm hnew.1]

/-- Texts that are renamed stand for the same leaf. -/
theorem Query.leaf_rename {text : Text} (hnew : new ∉ text) :
    leaf new (TagFilter.rename old new text) = leaf old text := by
  have hmem : new ∈ TagFilter.rename old new text ↔ old ∈ text := mem_rename_iff hnew
  unfold leaf
  by_cases hold : old ∈ text
  · rw [if_pos (hmem.mpr hold), if_pos hold, Glob.ofText_rename hnew]
  · rw [if_neg (mt hmem.mp hold), if_neg hold, rename_of_not_mem hold]

namespace Progress

/-- Behind an operand a renamed token is read as it was. -/
theorem takeOperator_rename (progress : Progress) (token : Token) :
    (progress.rename old new).takeOperator (token.rename old new) =
      ((progress.takeOperator token).map (·.rename old new)).mapError (·.rename old new) := by
  obtain ⟨kind, value, start, stop⟩ := token
  obtain ⟨groups, level, passed⟩ := progress
  cases kind with
  | closing =>
      cases groups with
      | nil => rfl
      | cons group groups => rfl
  | text | and | or | not | opening | wildcard => rfl

/-- So is one that is read where an operand is due. -/
theorem takeOperand_rename (progress : Progress) {token : Token} (hnew : new ∉ token.value) :
    (progress.rename old new).takeOperand new (token.rename old new) =
      ((progress.takeOperand old token).map (·.rename old new)).mapError (·.rename old new) := by
  obtain ⟨kind, value, start, stop⟩ := token
  obtain ⟨groups, level, passed⟩ := progress
  cases kind with
  | text =>
      by_cases hempty : value = []
      · subst hempty
        rfl
      · have hempty' : TagFilter.rename old new value ≠ [] := by
          simpa [TagFilter.rename] using hempty
        have hleaf : Query.leaf new (TagFilter.rename old new value) = Query.leaf old value :=
          Query.leaf_rename hnew
        simp only [takeOperand, Token.rename, if_neg hempty, if_neg hempty', hleaf]
        rfl
  | wildcard =>
      have hglob : Glob.ofText new (TagFilter.rename old new value) = Glob.ofText old value :=
        Glob.ofText_rename hnew
      simp only [takeOperand, Token.rename, hglob]
      rfl
  | closing =>
      cases groups with
      | nil => rfl
      | cons group groups =>
          by_cases hopening : passed = .opening
          · subst hopening
            rfl
          · simp only [takeOperand, Token.rename, Progress.rename, List.map_cons, if_neg hopening]
            rfl
  | and | or | not | opening => rfl

/-- **One step.**  From the same progress the same token, but for the texts, leads to
the same progress or to the same failure. -/
theorem take_rename (progress : Progress) {token : Token} (hnew : new ∉ token.value) :
    (progress.rename old new).take new (token.rename old new) =
      ((progress.take old token).map (·.rename old new)).mapError (·.rename old new) := by
  have hpassed : (progress.rename old new).passed = progress.passed := rfl
  unfold take
  rw [hpassed]
  split
  · exact takeOperator_rename progress token
  · exact takeOperand_rename progress hnew

/-- A reading comes to its end in the same way. -/
theorem finish_rename (progress : Progress) (ending : Ending) :
    (progress.rename old new).finish ending =
      (progress.finish ending).mapError (·.rename old new) := by
  obtain ⟨groups, level, passed⟩ := progress
  cases ending with
  | openQuote offset => rfl
  | done offset =>
      cases passed with
      | operand =>
          cases groups with
          | nil => rfl
          | cons group groups => rfl
      | nothing | opening | operator => rfl

/-- From there on the readings go the same way. -/
theorem read_rename (progress : Progress) {tokens : List Token} (ending : Ending)
    (hnew : ∀ token ∈ tokens, new ∉ token.value) :
    (progress.rename old new).read new (tokens.map (·.rename old new)) ending =
      (progress.read old tokens ending).rename old new := by
  induction tokens generalizing progress with
  | nil =>
      simp only [List.map_nil, read, finish_rename]
      rfl
  | cons token tokens ih =>
      rw [List.map_cons, read, read, take_rename progress (hnew token List.mem_cons_self)]
      cases progress.take old token with
      | error failure => rfl
      | ok further =>
          have hlater := ih further fun other hother =>
            hnew other (List.mem_cons_of_mem _ hother)
          simp only [Except.map, Except.mapError, hlater]
          rfl

end Progress

/-- A text without the new marker is read as it was with the old one. -/
theorem reading_rename (h : Exchangeable old new) {input : Text} (hnew : new ∉ input) :
    reading new (rename old new input) = (reading old input).rename old new := by
  rw [reading, reading, h.tokens_rename hnew]
  exact Progress.read_rename .start _ (not_mem_of_mem_tokens hnew)

/-! ## Tag lists -/

/-- A token is a tag of a list if it was one. -/
theorem Token.plainName_rename {token : Token} (hnew : new ∉ token.value) :
    (token.rename old new).plainName new =
      (token.plainName old).mapError (·.rename old new) := by
  obtain ⟨kind, value, start, stop⟩ := token
  cases kind with
  | text =>
      have hmem : new ∈ TagFilter.rename old new value ↔ old ∈ value := mem_rename_iff hnew
      by_cases hold : old ∈ value
      · have hnew' := hmem.mpr hold
        simp [plainName, Token.rename, hold, hnew', Except.mapError, Complaint.about,
          Failure.rename]
      · have hsame : TagFilter.rename old new value = value := rename_of_not_mem hold
        rw [hsame] at hmem
        simp only [plainName, Token.rename, hsame, if_neg hold, if_neg (mt hmem.mp hold)]
        -- only an empty name is left to be refused, and its text has no marker in it
        by_cases hempty : value = []
        · subst hempty
          rfl
        · simp only [if_neg hempty]
          rfl
  | and | or | not | opening | closing | wildcard => rfl

/-- The tokens of a list have the same names, or the same failure, renamed. -/
theorem plainNames_rename {tokens : List Token} (ending : Ending)
    (hnew : ∀ token ∈ tokens, new ∉ token.value) :
    plainNames new (tokens.map (·.rename old new)) ending =
      (plainNames old tokens ending).mapError (·.rename old new) := by
  induction tokens with
  | nil => cases ending <;> rfl
  | cons token tokens ih =>
      have hlater := ih fun other hother => hnew other (List.mem_cons_of_mem _ hother)
      rw [List.map_cons, plainNames, plainNames,
        Token.plainName_rename (hnew token List.mem_cons_self), hlater]
      cases token.plainName old with
      | error failure => rfl
      | ok name =>
          cases plainNames old tokens ending with
          | error failure => rfl
          | ok names => rfl

/-- So has a tag list without the new marker. -/
theorem parseTagList_rename (h : Exchangeable old new) {input : Text} (hnew : new ∉ input) :
    parseTagList new (rename old new input) =
      (parseTagList old input).mapError (·.rename old new) := by
  rw [parseTagList, parseTagList, h.tokens_rename hnew]
  exact plainNames_rename _ (not_mem_of_mem_tokens hnew)

/-- The query that a tag list stands for is the same. -/
theorem parseTags_rename (h : Exchangeable old new) {input : Text} (hnew : new ∉ input) :
    parseTags new (rename old new input) = (parseTags old input).mapError (·.rename old new) := by
  rw [parseTags, parseTags, parseTagList_rename h hnew]
  cases parseTagList old input with
  | error failure => rfl
  | ok names => rfl

/-! ## Markers that are not refused -/

/-- **Markers are interchangeable.**  Neither is refused, neither is an ASCII letter,
and the new one is not in the input.  Written for the old one, it changes the texts of
the tokens and the text that a failure shows; no kind, no place, no tree, no list of
tags and no other part of a failure. -/
theorem readings_rename_of_checkMarker {old new : Char} {input : Text}
    (hold : checkMarker old = .ok ()) (hnew : checkMarker new = .ok ())
    (holdLetter : old.isAlpha = false) (hnewLetter : new.isAlpha = false)
    (hfresh : new ∉ input) :
    tokens new (rename old new input) = (tokens old input).rename old new ∧
      parse new (rename old new input) = (parse old input).mapError (·.rename old new) ∧
      parseTagList new (rename old new input) =
        (parseTagList old input).mapError (·.rename old new) ∧
      parseTags new (rename old new input) =
        (parseTags old input).mapError (·.rename old new) := by
  have h : Exchangeable old new := {
    oldFree := checkMarker_eq_ok_iff.mp hold
    newFree := checkMarker_eq_ok_iff.mp hnew
    oldNoLetter := holdLetter
    newNoLetter := hnewLetter }
  have hreading : reading new (rename old new input) = (reading old input).rename old new :=
    reading_rename h hfresh
  refine ⟨h.tokens_rename hfresh, ?_, parseTagList_rename h hfresh, parseTags_rename h hfresh⟩
  rw [parse, hreading, parse]
  rfl

/-- A filter with the marker in a word, in quotes behind a backslash, alone, and once
too often: both readings fail at that one, and each shows its own marker. -/
theorem readings_rename_percent :
    checkMarker '*' = .ok () ∧ checkMarker '%' = .ok () ∧
      '%' ∉ "x* and ('\\*\\'' or *) *".toList ∧
      tokens '%' "x% and ('\\%\\'' or %) %".toList =
        (tokens '*' "x* and ('\\*\\'' or *) *".toList).rename '*' '%' ∧
      parse '*' "x* and ('\\*\\'' or *) *".toList =
        .error (.grammar .unexpectedToken 21 ['*']) ∧
      parse '%' "x% and ('\\%\\'' or %) %".toList =
        .error (.grammar .unexpectedToken 21 ['%']) ∧
      parseTagList '%' "x% and ('\\%\\'' or %) %".toList =
        .error (.grammar .unexpectedWildcard 0 ['x', '%']) := by
  have hstar : checkMarker '*' = .ok () := rfl
  have hpercent : checkMarker '%' = .ok () := rfl
  have hfresh : '%' ∉ "x* and ('\\*\\'' or *) *".toList := by decide
  have hparse : parse '*' "x* and ('\\*\\'' or *) *".toList =
      .error (.grammar .unexpectedToken 21 ['*']) := by cbv
  have htags : parseTagList '*' "x* and ('\\*\\'' or *) *".toList =
      .error (.grammar .unexpectedWildcard 0 ['x', '*']) := by cbv
  obtain ⟨htokens, hrenamed, htagsRenamed, -⟩ :=
    readings_rename_of_checkMarker hstar hpercent (by decide) (by decide) hfresh
  rw [hparse] at hrenamed
  rw [htags] at htagsRenamed
  exact ⟨hstar, hpercent, hfresh, htokens, hparse, hrenamed, htagsRenamed⟩

end TagFilter
