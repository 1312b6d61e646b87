import TagFilter.Proofs.Partition
import TagFilter.Proofs.Spelling

/-!
# Quoting names

Two facts tie the writer of names to the scanner.

* What is put in quotes is read back, by either quote, and the reading stops at the quote
  that was put behind it (`pull_enclose`).
* A name is written as it stands exactly if it would be scanned as one token with itself as
  its text, and has neither a quote nor a backslash anywhere (`write_tag_eq_self_iff`).  The
  second condition is no part of the first: inside a word both stand for themselves
  (`not_forall_write_tag_eq_iff`).
-/

namespace TagFilter

/-! ## Between quotes -/

/-- An escaped text is what stands between quotes for it. -/
theorem quoted_escape {quote : Char} (hquote : quote ≠ '\\') (text : Text) :
    Quoted quote (escape quote text) text := by
  obtain ⟨body, hbody, hquoted⟩ := quoted_of_readQuoted (readQuoted_escape hquote text [])
  rwa [List.append_cancel_right hbody]

/-- A text between quotes is a piece with that text. -/
theorem piece_enclose (marker : Char) {quote : Char} (hquote : isQuote quote) (text : Text) :
    Piece marker (enclose quote text) .text text :=
  .quoted hquote (quoted_escape (ne_backslash_of_isQuote hquote) text)

/-- A text in quotes is one token, and what stands behind it is left. -/
theorem Scan.pull_of_enclose (scan : Scan) {quote : Char} (hquote : isQuote quote)
    {text more : Text} (hrest : scan.rest = enclose quote text ++ more) :
    scan.pull = (.token ⟨.text, text, scan.offset, scan.offset + (enclose quote text).length⟩,
      { scan with rest := more, offset := scan.offset + (enclose quote text).length }) := by
  let part : Part := ⟨[], enclose quote text, .text, text⟩
  have hfits : part.Fits scan.marker more :=
    ⟨by simp [part], piece_enclose scan.marker hquote text, fun hbare =>
      absurd hbare (not_bare_quoted hquote _)⟩
  exact scan.pull_of_fits hfits hrest

/-- What begins with a quote is a token only with a closing quote, and is a name then. -/
theorem Scan.exists_quoted_of_pull {scan after : Scan} {token : Token} {quote : Char}
    {rest : Text} (hquote : isQuote quote) (hrest : scan.rest = quote :: rest)
    (h : scan.pull = (.token token, after)) :
    ∃ body, rest = body ++ quote :: after.rest ∧ Quoted quote body token.value ∧
      token.kind = .text := by
  obtain ⟨part, behind, hfits, htext, rfl, rfl⟩ := Scan.exists_part_of_pull h
  obtain ⟨gap, source, kind, value⟩ := part
  have hplain : isBlank quote = false ∧ quote ≠ '(' ∧ quote ≠ ')' := by
    rcases quote_cases hquote with rfl | rfl <;> decide
  obtain ⟨hblank, hopening, hclosing⟩ := hplain
  obtain rfl : gap = [] := by
    cases gap with
    | nil => rfl
    | cons c gap =>
        obtain ⟨rfl, -⟩ := List.cons.inj (hrest.symm.trans htext)
        simp [hfits.blank quote List.mem_cons_self] at hblank
  have hsource : quote :: rest = source ++ behind := hrest.symm.trans htext
  have hpiece : Piece scan.marker source kind value := hfits.piece
  cases hpiece with
  | opening => exact absurd (List.cons.inj hsource).1 hopening
  | closing => exact absurd (List.cons.inj hsource).1 hclosing
  | word bare =>
      obtain ⟨c, tail, rfl⟩ := List.exists_cons_of_ne_nil bare.nonempty
      obtain ⟨rfl, -⟩ := List.cons.inj hsource
      exact absurd bare (not_bare_quoted hquote tail)
  | @quoted other body _ _ closed =>
      obtain ⟨rfl, hbody⟩ := List.cons.inj hsource
      exact ⟨body, by simpa using hbody, closed, rfl⟩

/-- **Quotes enclose.**  A scan in front of a text in quotes, of either kind, gives the text
as one name, leaves what stands behind the closing quote, and is further on by the length
of the text in quotes.  And what a scan reads between two quotes, up to the first that
closes, is read again from the quotes that a name is written in. -/
theorem pull_enclose (marker quote : Char) (offset : Nat) (ended : Bool)
    (hquote : isQuote quote) :
    (∀ text more : Text,
      Scan.pull ⟨marker, enclose quote text ++ more, offset, ended⟩ =
        (.token ⟨.text, text, offset, offset + (enclose quote text).length⟩,
          ⟨marker, more, offset + (enclose quote text).length, ended⟩)) ∧
    ∀ (rest : Text) (token : Token) (after : Scan),
      Scan.pull ⟨marker, quote :: rest, offset, ended⟩ = (.token token, after) →
        (∃ body, rest = body ++ quote :: after.rest ∧ Quoted quote body token.value ∧
          token.kind = .text) ∧
        ∀ (scan : Scan) (more : Text), scan.rest = enclose '"' token.value ++ more →
          scan.pull =
            (.token ⟨.text, token.value, scan.offset,
                scan.offset + (enclose '"' token.value).length⟩,
              { scan with
                rest := more
                offset := scan.offset + (enclose '"' token.value).length }) := by
  refine ⟨fun text more => Scan.pull_of_enclose _ hquote rfl, fun rest token after hpull => ?_⟩
  exact ⟨Scan.exists_quoted_of_pull hquote rfl hpull, fun scan more hrest =>
    scan.pull_of_enclose (by decide) hrest⟩

/-- The text ends in a backslash and holds a pair of them in front of the other quote, and
another quoted text comes right behind it.  The second literal keeps a backslash. -/
theorem pull_enclose_backslashes :
    isQuote '\x27' ∧
      Scan.pull ⟨'*', enclose '\x27' ['\\', '\\', '"', '\x27', '\\'] ++ ['\x27', 'b'], 2, false⟩ =
        (.token ⟨.text, ['\\', '\\', '"', '\x27', '\\'], 2, 13⟩,
          ⟨'*', ['\x27', 'b'], 13, false⟩) ∧
      Scan.pull ⟨'*', ['\x27', '\\', '"', '\x27'], 2, false⟩ =
        (.token ⟨.text, ['\\', '"'], 2, 6⟩, ⟨'*', [], 6, false⟩) ∧
      Scan.pull ⟨'*', ['"', '\\', '\\', '\\', '"', '"'], 0, false⟩ =
        (.token ⟨.text, ['\\', '"'], 0, 6⟩, ⟨'*', [], 6, false⟩) :=
  have hquote : isQuote '\x27' := by decide
  have hpull : Scan.pull ⟨'*', ['\x27', '\\', '"', '\x27'], 2, false⟩ =
      (.token ⟨.text, ['\\', '"'], 2, 6⟩, ⟨'*', [], 6, false⟩) := by cbv
  have hlaws := pull_enclose '*' '\x27' 2 false hquote
  ⟨hquote, hlaws.1 _ _, hpull,
    (hlaws.2 _ _ _ hpull).2 ⟨'*', ['"', '\\', '\\', '\\', '"', '"'], 0, false⟩ [] rfl⟩

/-! ## Names without quotes -/

/-- The text is scanned as one name, or one lone marker, that is the text itself. -/
def ReadsItself (marker : Char) (name : Text) : Prop :=
  ∃ token stop, tokens marker name = ⟨[token], .done stop⟩ ∧
    (token.kind = .text ∨ token.kind = .wildcard) ∧ token.value = name ∧ token.start = 0

/-- To escape a text does not make it shorter. -/
theorem length_le_escape (quote : Char) (text : Text) :
    text.length ≤ (escape quote text).length := by
  induction text with
  | nil => exact Nat.zero_le _
  | cons c text ih =>
      rw [escape]
      split <;> simp only [List.length_cons] <;> omega

/-- No text is its own text between quotes. -/
theorem enclose_ne_self (quote : Char) (text : Text) : enclose quote text ≠ text := by
  intro hsame
  have hlength := congrArg List.length hsame
  have hescape := length_le_escape quote text
  simp only [enclose, List.length_append, List.length_cons] at hlength
  omega

/-- A name is written as itself exactly if it needs no quotes. -/
theorem writeName_eq_self_iff {name : Text} : writeName name = name ↔ needsQuotes name = false := by
  unfold writeName
  cases needsQuotes name with
  | true => simp [enclose_ne_self]
  | false => simp

/-- What stands between quotes is at least as long as the text it stands for. -/
theorem Quoted.length_le {quote : Char} {body value : Text} (h : Quoted quote body value) :
    value.length ≤ body.length := by
  induction h with
  | nil => exact Nat.le_refl _
  | plain | escaped | kept => simp only [List.length_cons]; omega

/-- The texts that read themselves are the bare words that are no keywords. -/
theorem readsItself_iff {marker : Char} {name : Text} :
    ReadsItself marker name ↔ Bare name ∧ keyword? name = none := by
  constructor
  · rintro ⟨token, stop, htokens, hkind, hvalue, hstart⟩
    obtain ⟨parts, gap, ⟨htext, hfit, -⟩, hparts, -⟩ := tokens_eq_done_iff.mp htokens
    match parts, hparts, htext, hfit with
    | [⟨before, source, kind, value⟩], hparts, htext, hfit =>
        obtain rfl : token = _ := List.singleton_inj.mp hparts
        obtain rfl : value = name := hvalue
        obtain rfl : before = [] := by simpa [Part.token] using hstart
        have hpiece : Piece marker source kind value := hfit.1.piece
        cases hpiece with
        | opening => simp [Part.token] at hkind
        | closing => simp [Part.token] at hkind
        | word bare => exact ⟨bare, keyword?_eq_none_iff.mpr hkind⟩
        | quoted hquote closed =>
            -- the quotes make the source longer than the text it stands for
            have hlength := congrArg List.length htext
            have hshorter := closed.length_le
            simp only [joined, Part.text, List.flatMap_cons, List.flatMap_nil, List.nil_append,
              List.append_nil, List.length_append, List.length_cons] at hlength
            omega
  · rintro ⟨bare, hkeyword⟩
    have hfit : Fit marker [⟨[], name, classify marker name, name⟩] [] :=
      ⟨⟨by simp, .word bare, fun _ => separated_nil⟩, trivial⟩
    have hpartition : Partition marker name [⟨[], name, classify marker name, name⟩] [] :=
      ⟨by simp [joined, Part.text], hfit, by simp⟩
    exact ⟨_, _, tokens_eq_done_iff.mpr ⟨_, _, hpartition, rfl, rfl⟩,
      keyword?_eq_none_iff.mp hkeyword, rfl, rfl⟩

/-- A name needs no quotes if it is a bare word, no keyword, and has neither quotes nor
backslashes in it. -/
theorem needsQuotes_eq_false_iff {name : Text} :
    needsQuotes name = false ↔
      (Bare name ∧ keyword? name = none) ∧ ∀ c ∈ name, isQuote c = false ∧ c ≠ '\\' := by
  simp only [needsQuotes, Bool.or_eq_false_iff, List.any_eq_false, Bool.not_eq_true,
    Option.isSome_eq_false_iff, Option.isNone_iff_eq_none, List.isEmpty_eq_false_iff]
  constructor
  · rintro ⟨⟨hne, hkeyword⟩, hplain⟩
    have hchars : ∀ c ∈ name, isQuote c = false ∧ c ≠ '\\' := by
      intro c hc
      have hreserved := hplain c hc
      simp only [isReserved, Bool.or_eq_false_iff, decide_eq_false_iff_not] at hreserved
      exact ⟨hreserved.1.2, hreserved.2⟩
    have hbare : Bare name :=
      ⟨hne, fun c hc => isWordChar_of_not_isReserved (hplain c hc), fun c hc =>
        (hchars c (List.mem_of_mem_head? hc)).1⟩
    exact ⟨⟨hbare, hkeyword⟩, hchars⟩
  · rintro ⟨⟨hbare, hkeyword⟩, hchars⟩
    refine ⟨⟨hbare.nonempty, hkeyword⟩, fun c hc => ?_⟩
    obtain ⟨hquote, hslash⟩ := hchars c hc
    have hword := hbare.unbroken c hc
    simp only [isWordChar, Bool.and_eq_true, Bool.not_eq_true', decide_eq_true_eq] at hword
    simp [isReserved, hword, hquote, hslash]

/-- **Where a name stands without quotes.**  A name is written as it stands exactly if it
reads itself and has neither a quote nor a backslash in it. -/
theorem write_tag_eq_self_iff (marker : Char) (name : Text) :
    (Query.tag name).write marker = name ↔
      ReadsItself marker name ∧ ∀ c ∈ name, isQuote c = false ∧ c ≠ '\\' := by
  have hwrite : (Query.tag name).write marker = writeName name := by
    simp [Query.write, Query.writeOperand]
  rw [hwrite, writeName_eq_self_iff, needsQuotes_eq_false_iff, readsItself_iff]

/-- An apostrophe inside a word would need no quotes, but the word is written in them. -/
theorem not_forall_write_tag_eq_iff :
    ¬∀ (marker : Char) (name : Text), name ≠ [] →
      ((Query.tag name).write marker = name ↔ ReadsItself marker name) := by
  intro h
  have hreads : ReadsItself '*' ['i', 't', '\x27', 's'] :=
    ⟨⟨.text, ['i', 't', '\x27', 's'], 0, 4⟩, 4, by cbv, .inl rfl, rfl, rfl⟩
  have htext := (h '*' ['i', 't', '\x27', 's'] (by simp)).mpr hreads
  revert htext
  decide

end TagFilter
