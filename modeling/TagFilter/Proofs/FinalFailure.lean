import TagFilter.Proofs.Complaints

/-!
# A complaint is final

A reading that fails at a token has looked at the tokens up to that one and no further
(`exists_refused_of_lastToken?`).  A text up to the end of a token is scanned as the same
tokens in front of anything that cannot prolong the last of them (`exists_tokens_take`).
So the reading fails in the same way whatever follows, even if what follows cannot be
scanned.
-/

namespace TagFilter

variable {marker : Char}

/-! ## Texts up to a token -/

/-- The tokens of later parts stand behind the texts of the earlier ones. -/
theorem partTokens_append (offset : Nat) (before after : List Part) :
    partTokens offset (before ++ after) =
      partTokens offset before ++ partTokens (offset + (joined before).length) after := by
  induction before generalizing offset with
  | nil => rfl
  | cons part before ih =>
      rw [List.cons_append, partTokens, partTokens, ih, joined_cons, List.length_append,
        Nat.add_assoc, List.cons_append]

/-- The parts of a text up to a token of it. -/
theorem exists_parts_take {input : Text} {before after : List Token} {token : Token}
    (hsplit : (tokens marker input).tokens = before ++ token :: after) :
    ∃ parts rest, input.take token.stop = joined parts ∧ Fit marker parts rest ∧
      partTokens 0 parts = before ++ [token] := by
  obtain ⟨parts, gap, rest, htext, hfit, -, htokens, -⟩ := exists_parts_of_tokens marker input
  obtain ⟨front, part, back, rfl, rfl, rfl⟩ :=
    exists_parts_of_partTokens (htokens.symm.trans hsplit)
  have hparts : front ++ part :: back = (front ++ [part]) ++ back := by simp
  rw [hparts] at hfit htext
  refine ⟨front ++ [part], _, ?_, hfit.append_left, partTokens_append 0 front [part]⟩
  rw [htext, joined_append, List.append_assoc]
  apply List.take_left'
  rw [joined_append, List.length_append, Part.token, Nat.zero_add]
  exact congrArg _ (congrArg List.length (List.append_nil part.text))

/-- **Texts up to a token.**  What is put behind a token changes neither it nor those
before it, if it cannot prolong it. -/
theorem exists_tokens_take {input more : Text} {before after : List Token} {token : Token}
    (hsplit : (tokens marker input).tokens = before ++ token :: after) (hmore : Separated more) :
    ∃ later ending,
      tokens marker (input.take token.stop ++ more) = ⟨before ++ token :: later, ending⟩ := by
  obtain ⟨parts, rest, htake, hfit, hparts⟩ := exists_parts_take hsplit
  have hfit' : Fit marker parts more := hfit.mono fun _ => hmore
  rw [htake, tokens_of_fit hfit', hparts]
  generalize ((Scan.start marker more).moved (joined parts).length).stream = stream
  refine ⟨stream.tokens, stream.ending, ?_⟩
  rw [Stream.prepend, List.append_assoc, List.singleton_append]

/-! ## The last token of a reading -/

/-- The last token that a reading has looked at, if that is not the end. -/
def lastToken? (marker : Char) (input : Text) : Option Token :=
  (tokens marker input).tokens[(reading marker input).pulls - 1]?

/-- A reading that fails, and has not looked at the end, is refused the last token that it
has looked at. -/
theorem exists_refused_of_lastToken? {input : Text} {failure : Failure} {token : Token}
    (h : parse marker input = .error failure) (hlast : lastToken? marker input = some token) :
    ∃ before after progress, (tokens marker input).tokens = before ++ token :: after ∧
      Advances marker .start before progress ∧ progress.take marker token = .error failure := by
  have hproper := @proper_of_mem_tokens marker input
  have hfails := fails_of_read hproper h
  rw [lastToken?, reading] at hlast
  generalize (tokens marker input).ending = ending at hfails hlast
  generalize (tokens marker input).tokens = found at hproper hfails hlast
  cases hfails with
  | @token before after refused progress _ run htake =>
      rw [run.read_refused (AllProper.of_append hproper) htake, Nat.add_sub_cancel] at hlast
      obtain rfl : refused = token := by simpa using hlast
      exact ⟨before, after, progress, rfl, run, htake⟩
  -- the ending comes behind all tokens
  | ending run htake =>
      simp [run.read_eq hproper] at hlast

/-- The token that is refused is the one that is told of, or the parenthesis right behind
it. -/
theorem Tracks.token_of_refuses {before : List Token} {progress : Progress} {token : Token}
    {complaint : Complaint} {offset : Nat} {value : Text} (h : Tracks before progress)
    (hrefuses : Refuses progress token (.grammar complaint offset value)) :
    complaint ≠ .emptyGroup ∧ token.start = offset ∧ token.value = value ∨
      complaint = .emptyGroup ∧ token.kind = .closing ∧ ∃ front opening,
        before = front ++ [opening] ∧ opening.kind = .opening ∧ opening.start = offset ∧
          opening.value = value := by
  cases hrefuses with
  | unopened | due | misplaced => exact .inl ⟨by simp, rfl, rfl⟩
  | emptyGroup kind inside passed =>
      obtain ⟨front, rfl, hopening⟩ := h.opening_of_passed inside passed
      exact .inr ⟨rfl, kind, front, _, rfl, hopening, rfl, rfl⟩

/-- **What follows does not matter.**  A text up to the last token that a reading has looked
at fails as the whole does, in front of anything that cannot prolong that token. -/
theorem parse_take_of_refused {input more : Text} {failure : Failure}
    {before after : List Token} {token : Token} {progress : Progress}
    (hsplit : (tokens marker input).tokens = before ++ token :: after)
    (hrun : Advances marker .start before progress)
    (htake : progress.take marker token = .error failure) (hmore : Separated more) :
    parse marker (input.take token.stop ++ more) = .error failure := by
  obtain ⟨later, ending, htokens⟩ := exists_tokens_take hsplit hmore
  have hproper : AllProper marker (before ++ token :: after) := by
    rw [← hsplit]
    exact proper_of_mem_tokens
  rw [parse, reading, htokens, hrun.read_refused hproper.of_append htake]

/-- **Complaints are final.**  Where a reading complains before the end, the last token it
has looked at is the one that it tells of, or the parenthesis that makes a group empty.
The input up to there, a blank and any other text give the same complaint. -/
theorem parse_take_blank_append {input : Text} {complaint : Complaint} {offset : Nat}
    {value : Text} {token : Token}
    (h : parse marker input = .error (.grammar complaint offset value))
    (hlast : lastToken? marker input = some token) :
    (complaint ≠ .emptyGroup ∧ token.start = offset ∧ token.value = value ∨
      complaint = .emptyGroup ∧ token.kind = .closing ∧ ∃ front opening back,
        (tokens marker input).tokens = front ++ opening :: token :: back ∧
          opening.kind = .opening ∧ opening.start = offset ∧ opening.value = value) ∧
      ∀ more, parse marker (input.take token.stop ++ ' ' :: more) =
        .error (.grammar complaint offset value) := by
  obtain ⟨before, after, progress, hsplit, hrun, htake⟩ := exists_refused_of_lastToken? h hlast
  refine ⟨?_, fun more => ?_⟩
  · have htoken := (tracks_of_advances hrun).token_of_refuses (refuses_of_take htake)
    rcases htoken with htoken | ⟨hempty, hkind, front, opening, rfl, hopening⟩
    · exact .inl htoken
    · rw [List.append_assoc, List.singleton_append] at hsplit
      exact .inr ⟨hempty, hkind, front, opening, after, hsplit, hopening⟩
  · have hblank : isWordChar ' ' = false := by decide
    exact parse_take_of_refused hsplit hrun htake (separated_cons hblank)

/-- The group stays empty, whatever stands behind it. -/
theorem parse_behind_empty_group :
    parse '*' ['(', ' ', ')', ' ', 'b'] = .error (.grammar .emptyGroup 0 ['(']) ∧
      lastToken? '*' ['(', ' ', ')', ' ', 'b'] = some ⟨.closing, [')'], 2, 3⟩ ∧
      ∀ more, parse '*' (['(', ' ', ')'] ++ ' ' :: more) =
        .error (.grammar .emptyGroup 0 ['(']) :=
  have hfailure : parse '*' ['(', ' ', ')', ' ', 'b'] =
      .error (.grammar .emptyGroup 0 ['(']) := by cbv
  have hlast : lastToken? '*' ['(', ' ', ')', ' ', 'b'] =
      some ⟨.closing, [')'], 2, 3⟩ := by cbv
  ⟨hfailure, hlast, (parse_take_blank_append hfailure hlast).2⟩

end TagFilter
