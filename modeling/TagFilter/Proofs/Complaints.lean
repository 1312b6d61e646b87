import TagFilter.Proofs.Leaves
import TagFilter.Proofs.Partition
import TagFilter.Proofs.Refusal

/-!
# What complaints mean

A complaint about a parenthesis can be checked against the tokens alone, without the
reading that made it.  Every move keeps a record of the tokens it has used
(`Tracks`): between the parentheses of the open groups they are properly nested.  So what
a reading knows when it refuses a token is a fact about the tokens before that one, and
`complaint_of_parse` says which fact each complaint stands for.
-/

namespace TagFilter

variable {marker : Char}

/-! ## Parentheses -/

/-- A parenthesis in front of the symbols is closed by one of them. -/
def Closes (symbols : List Symbol) : Prop :=
  ∃ within rest, symbols = within ++ .closing :: rest ∧ Nested within

/-- How many of the open groups are open behind the symbols; none if one is closed that
is not there. -/
def depthBehind : Nat → List Symbol → Option Nat
  | n, [] => some n
  | n, .opening :: rest => depthBehind (n + 1) rest
  | 0, .closing :: _ => none
  | n + 1, .closing :: rest => depthBehind n rest
  | n, _ :: rest => depthBehind n rest

/-- Symbols that are not parentheses leave the depth as it is. -/
theorem depthBehind_cons {symbol : Symbol} (opening : symbol ≠ .opening)
    (closing : symbol ≠ .closing) (n : Nat) (rest : List Symbol) :
    depthBehind n (symbol :: rest) = depthBehind n rest := by
  cases symbol with
  | opening => exact absurd rfl opening
  | closing => exact absurd rfl closing
  | _ => simp [depthBehind]

/-- Nested symbols leave the depth as it was, and do not go below it. -/
theorem Nested.depthBehind_append {symbols : List Symbol} (h : Nested symbols) (n : Nat)
    (rest : List Symbol) : depthBehind n (symbols ++ rest) = depthBehind n rest := by
  induction h generalizing n rest with
  | nil => rfl
  | other opening closing _ ih => rw [List.cons_append, depthBehind_cons opening closing, ih]
  | group _ _ ihWithin ihLater =>
      rw [List.cons_append, List.append_assoc, depthBehind, ihWithin, List.cons_append,
        depthBehind, ihLater]

/-- Nested symbols close nothing that was open before them. -/
theorem Nested.not_closes {symbols : List Symbol} (h : Nested symbols) : ¬Closes symbols := by
  rintro ⟨within, rest, rfl, hwithin⟩
  have hdepth := h.depthBehind_append 0 []
  rw [List.append_nil, hwithin.depthBehind_append] at hdepth
  simp [depthBehind] at hdepth

/-- Among nested symbols every parenthesis is closed. -/
theorem Nested.closes_of_opening {symbols front back : List Symbol} (h : Nested symbols)
    (hsplit : symbols = front ++ .opening :: back) : Closes back := by
  induction h generalizing front back with
  | nil => simp at hsplit
  | @other symbol rest opening _ _ ih =>
      cases front with
      | nil => exact absurd (List.cons.inj hsplit).1 opening
      | cons first front => exact ih (List.cons.inj hsplit).2
  | @group inside rest within _ ihWithin ihLater =>
      cases front with
      | nil =>
          obtain ⟨-, rfl⟩ := List.cons.inj hsplit
          exact ⟨inside, rest, rfl, within⟩
      | cons first front =>
          obtain ⟨-, hlater⟩ := List.cons.inj hsplit
          rcases List.append_eq_append_iff.mp hlater with
            ⟨more, rfl, hrest⟩ | ⟨more, rfl, hback⟩
          -- the parenthesis stands behind the group, or is the one that closes it
          · cases more with
            | nil => cases (List.cons.inj hrest).1
            | cons first more => exact ihLater (List.cons.inj hrest).2
          · cases more with
            | nil => cases (List.cons.inj hback).1
            | cons first more =>
                obtain ⟨rfl, rfl⟩ := List.cons.inj hback
                obtain ⟨between, after, rfl, hbetween⟩ := ihWithin rfl
                exact ⟨between, after ++ .closing :: rest, by simp, hbetween⟩

/-- Only opening parentheses have the symbol of one. -/
theorem Token.symbol_eq_opening_iff {token : Token} :
    token.symbol = .opening ↔ token.kind = .opening := by
  rw [Token.symbol]
  cases token.kind <;> simp [Kind.symbol]

/-- Only closing parentheses have the symbol of one. -/
theorem Token.symbol_eq_closing_iff {token : Token} :
    token.symbol = .closing ↔ token.kind = .closing := by
  rw [Token.symbol]
  cases token.kind <;> simp [Kind.symbol]

/-- The symbols of some tokens. -/
def symbolsOf (tokens : List Token) : List Symbol := tokens.map Token.symbol

/-- Symbols are taken token by token. -/
theorem symbolsOf_append (before after : List Token) :
    symbolsOf (before ++ after) = symbolsOf before ++ symbolsOf after := List.map_append

/-! ## The record of a reading -/

/-- The tokens, with the parentheses of the open groups among them: what stands before
the first of these, and behind each, is nested. -/
inductive Encloses : List Token → List Group → Prop
  | outside {tokens : List Token} (nested : Nested (symbolsOf tokens)) : Encloses tokens []
  | inside {before within : List Token} {group : Group} {groups : List Group}
      (around : Encloses before groups) (opening : group.opening.kind = .opening)
      (nested : Nested (symbolsOf within)) :
      Encloses (before ++ group.opening :: within) (group :: groups)

/-- Nested tokens may follow in the innermost group. -/
theorem Encloses.append {tokens more : List Token} {groups : List Group}
    (h : Encloses tokens groups) (hmore : Nested (symbolsOf more)) :
    Encloses (tokens ++ more) groups := by
  cases h with
  | outside nested =>
      refine .outside ?_
      rw [symbolsOf_append]
      exact nested.append hmore
  | inside around opening nested =>
      rw [List.append_assoc, List.cons_append]
      refine .inside around opening ?_
      rw [symbolsOf_append]
      exact nested.append hmore

/-- A token that is not a parenthesis is nested by itself. -/
theorem nested_singleton {token : Token} (opening : token.symbol ≠ .opening)
    (closing : token.symbol ≠ .closing) : Nested (symbolsOf [token]) :=
  .other opening closing .nil

/-- The tokens that have led a reading to where it is. -/
structure Tracks (tokens : List Token) (progress : Progress) : Prop where
  encloses : Encloses tokens progress.groups
  /-- Right behind a parenthesis, it is the last token. -/
  last : progress.passed = .opening → ∃ before group groups,
    tokens = before ++ [group.opening] ∧ progress.groups = group :: groups

/-- At the start there are no tokens and no groups. -/
theorem tracks_start : Tracks [] .start :=
  ⟨.outside .nil, fun hpassed => by cases hpassed⟩

/-- **One move** is recorded by its token. -/
theorem Tracks.move {tokens : List Token} {progress further : Progress} {token : Token}
    (h : Tracks tokens progress) (hmove : Move marker progress token further) :
    Tracks (tokens ++ [token]) further := by
  cases hmove with
  | leaf due leaf =>
      have hnested : Nested (symbolsOf [token]) := by
        generalize hsymbols : [token.symbol] = symbols at leaf
        have hsymbol : symbolsOf [token] = symbols := hsymbols
        cases leaf with
        | group inside => simp at hsymbols
        | _ => exact hsymbol ▸ .other (by simp) (by simp) .nil
      exact ⟨h.encloses.append hnested, fun hpassed => by cases hpassed⟩
  | not due symbol | and complete symbol | or complete symbol =>
      have hnested : Nested (symbolsOf [token]) :=
        nested_singleton (by simp [symbol]) (by simp [symbol])
      exact ⟨h.encloses.append hnested, fun hpassed => by cases hpassed⟩
  | opening due symbol =>
      have hkind : token.kind = .opening := Token.symbol_eq_opening_iff.mp symbol
      have hgroup : Encloses (tokens ++ [token]) (progress.opened token).groups :=
        @Encloses.inside tokens [] ⟨token, progress.level⟩ progress.groups h.encloses hkind .nil
      exact ⟨hgroup, fun _ => ⟨tokens, _, _, rfl, rfl⟩⟩
  | @closing groups group level token symbol =>
      -- with both its parentheses the group is nested where it stands
      refine ⟨?_, fun hpassed => by cases hpassed⟩
      cases h.encloses with
      | @inside before within _ _ around opening nested =>
          have hgroup : Nested (symbolsOf (group.opening :: (within ++ [token]))) := by
            have hopening : group.opening.symbol = .opening :=
              Token.symbol_eq_opening_iff.mpr opening
            have hsymbols : symbolsOf (group.opening :: (within ++ [token])) =
                .opening :: (symbolsOf within ++ .closing :: []) := by
              simp [symbolsOf, hopening, symbol]
            rw [hsymbols]
            exact .group nested .nil
          rw [List.append_assoc, List.cons_append]
          exact around.append hgroup

/-- **A run** is recorded by its tokens. -/
theorem Tracks.advances {tokens more : List Token} {progress further : Progress}
    (h : Tracks tokens progress) (hrun : Advances marker progress more further) :
    Tracks (tokens ++ more) further := by
  induction hrun generalizing tokens with
  | refl => rwa [List.append_nil]
  | step move later ih =>
      have hlater := ih (h.move move)
      rwa [List.append_assoc, List.singleton_append] at hlater

/-- The record is right wherever a reading gets to, by induction over its moves. -/
theorem tracks_of_advances {tokens : List Token} {progress : Progress}
    (h : Advances marker .start tokens progress) : Tracks tokens progress :=
  tracks_start.advances h

/-! ## The complaint of a reading -/

/-- Tokens that begin at different places are cut at a place in one way. -/
theorem eq_of_start_eq {before front after back : List Token} {token other : Token}
    (hplaces : (before ++ token :: after).Pairwise fun first later => first.start < later.start)
    (hsplit : before ++ token :: after = front ++ other :: back)
    (hstart : token.start = other.start) : before = front ∧ token = other ∧ after = back := by
  induction before generalizing front with
  | nil =>
      cases front with
      | nil => exact ⟨rfl, List.cons.inj hsplit⟩
      | cons first front =>
          obtain ⟨-, rfl⟩ := List.cons.inj hsplit
          have hlt := List.rel_of_pairwise_cons hplaces (List.mem_append_right _ List.mem_cons_self)
          omega
  | cons first before ih =>
      cases front with
      | nil =>
          obtain ⟨rfl, rfl⟩ := List.cons.inj hsplit
          have hlt := List.rel_of_pairwise_cons hplaces (List.mem_append_right _ List.mem_cons_self)
          omega
      | cons second front =>
          obtain ⟨rfl, hrest⟩ := List.cons.inj hsplit
          obtain ⟨rfl, htoken⟩ := ih hplaces.of_cons hrest
          exact ⟨rfl, htoken⟩

/-- What a complaint about a token says of the tokens before it and behind it, and of
how they end. -/
structure Complaint.Justified (complaint : Complaint) (before : List Token) (token : Token)
    (after : List Token) (ending : Ending) : Prop where
  /-- Only parentheses are unbalanced. -/
  parenthesis : complaint = .unbalancedParenthesis →
    token.kind = .opening ∨ token.kind = .closing
  /-- An unbalanced closing parenthesis closes nothing: all before it are matched. -/
  unopened : complaint = .unbalancedParenthesis → token.kind = .closing →
    Nested (symbolsOf before) ∧
      ∀ front opening back, before = front ++ opening :: back → opening.kind = .opening →
        ¬Nested (symbolsOf back)
  /-- An unbalanced opening parenthesis is the last one that nothing closes, in an input
  that is scanned to its end. -/
  unclosed : complaint = .unbalancedParenthesis → token.kind = .opening →
    (∃ offset, ending = .done offset) ∧ ¬Closes (symbolsOf after) ∧
      ∀ between later back, after = between ++ later :: back → later.kind = .opening →
        Closes (symbolsOf back)
  empty : complaint = .emptyGroup →
    token.kind = .opening ∧ ∃ next rest, after = next :: rest ∧ next.kind = .closing
  /-- An unexpected closing parenthesis stands in an open group. -/
  inside : complaint = .unexpectedToken → token.kind = .closing →
    ∃ front opening back, before = front ++ opening :: back ∧ opening.kind = .opening ∧
      ¬Closes (symbolsOf back)

/-- Among nested tokens every opening parenthesis is closed. -/
theorem closes_of_nested {tokens front back : List Token} {opening : Token}
    (h : Nested (symbolsOf tokens)) (hsplit : tokens = front ++ opening :: back)
    (hkind : opening.kind = .opening) : Closes (symbolsOf back) := by
  apply h.closes_of_opening
  rw [hsplit, symbolsOf_append, ← Token.symbol_eq_opening_iff.mpr hkind]
  rfl

/-- The open groups of a record, innermost first: its last parenthesis that nothing
closes, and what stands behind it. -/
theorem Encloses.innermost {tokens : List Token} {group : Group} {groups : List Group}
    (h : Encloses tokens (group :: groups)) :
    ∃ before within, tokens = before ++ group.opening :: within ∧ group.opening.kind = .opening ∧
      Nested (symbolsOf within) := by
  cases h with
  | inside around opening nested => exact ⟨_, _, rfl, opening, nested⟩

/-- Right behind the parenthesis of the innermost group, that is the last token. -/
theorem Tracks.opening_of_passed {tokens : List Token} {progress : Progress} {group : Group}
    {groups : List Group} (h : Tracks tokens progress) (inside : progress.groups = group :: groups)
    (passed : progress.passed = .opening) :
    ∃ front, tokens = front ++ [group.opening] ∧ group.opening.kind = .opening := by
  obtain ⟨front, innermost, around, hsplit, hgroups⟩ := h.last passed
  obtain ⟨rfl, -⟩ := List.cons.inj (hgroups.symm.trans inside)
  obtain ⟨-, -, -, hopening, -⟩ := (inside ▸ h.encloses).innermost
  exact ⟨front, hsplit, hopening⟩

/-- Outside all groups a closing parenthesis has no partner. -/
theorem justified_unopened {before after : List Token} {token : Token} {ending : Ending}
    (hkind : token.kind = .closing) (hbefore : Nested (symbolsOf before)) :
    Complaint.unbalancedParenthesis.Justified before token after ending where
  parenthesis _ := .inr hkind
  unopened _ _ := by
    refine ⟨hbefore, fun front opening back hsplit hopening hback => ?_⟩
    exact hback.not_closes (closes_of_nested hbefore hsplit hopening)
  unclosed _ hopening := by rw [hkind] at hopening; cases hopening
  empty hempty := by cases hempty
  inside hinside := by cases hinside

/-- A parenthesis that only complete tokens follow is not closed. -/
theorem justified_unclosed {before within : List Token} {token : Token} {offset : Nat}
    (hkind : token.kind = .opening) (hwithin : Nested (symbolsOf within)) :
    Complaint.unbalancedParenthesis.Justified before token within (.done offset) where
  parenthesis _ := .inl hkind
  unopened _ hclosing := by rw [hkind] at hclosing; cases hclosing
  unclosed _ _ :=
    ⟨⟨offset, rfl⟩, hwithin.not_closes, fun _ _ _ hsplit hlater =>
      closes_of_nested hwithin hsplit hlater⟩
  empty hempty := by cases hempty
  inside hinside := by cases hinside

/-- Two parentheses side by side are an empty group. -/
theorem justified_emptyGroup {before after : List Token} {opening closing : Token}
    {ending : Ending} (hopening : opening.kind = .opening) (hclosing : closing.kind = .closing) :
    Complaint.emptyGroup.Justified before opening (closing :: after) ending where
  parenthesis hunbalanced := by cases hunbalanced
  unopened hunbalanced := by cases hunbalanced
  unclosed hunbalanced := by cases hunbalanced
  empty _ := ⟨hopening, closing, after, rfl, hclosing⟩
  inside hinside := by cases hinside

/-- Any token may be unexpected, but a closing parenthesis only in a group that is open. -/
theorem justified_unexpected {before after : List Token} {token : Token} {ending : Ending}
    (hinside : token.kind = .closing → ∃ front opening back,
      before = front ++ opening :: back ∧ opening.kind = .opening ∧ ¬Closes (symbolsOf back)) :
    Complaint.unexpectedToken.Justified before token after ending where
  parenthesis hunbalanced := by cases hunbalanced
  unopened hunbalanced := by cases hunbalanced
  unclosed hunbalanced := by cases hunbalanced
  empty hempty := by cases hempty
  inside _ := hinside

/-- A complaint about one of the tokens, with what it says. -/
def Reported (tokens : List Token) (ending : Ending) (complaint : Complaint) (offset : Nat)
    (value : Text) : Prop :=
  ∃ before token after, tokens = before ++ token :: after ∧ token.start = offset ∧
    token.value = value ∧ complaint.Justified before token after ending

/-- A complaint at a token that is refused says what it should. -/
theorem Tracks.reported_of_refuses {before : List Token} {progress : Progress} {token : Token}
    {complaint : Complaint} {offset : Nat} {value : Text} (h : Tracks before progress)
    (hrefuses : Refuses progress token (.grammar complaint offset value)) (after : List Token)
    (ending : Ending) :
    complaint ≠ .unexpectedWildcard ∧
      Reported (before ++ token :: after) ending complaint offset value := by
  have hencloses := h.encloses
  cases hrefuses with
  | unopened kind outside =>
      rw [outside] at hencloses
      cases hencloses with
      | outside nested => exact ⟨by simp, _, _, _, rfl, rfl, rfl, justified_unopened kind nested⟩
  | emptyGroup kind inside passed =>
      obtain ⟨front, rfl, hopening⟩ := h.opening_of_passed inside passed
      rw [List.append_assoc]
      exact ⟨by simp, _, _, _, rfl, rfl, rfl, justified_emptyGroup hopening kind⟩
  | due kind inside passed =>
      obtain ⟨front, within, hsplit, hopening, hwithin⟩ := (inside ▸ hencloses).innermost
      refine ⟨by simp, _, _, _, rfl, rfl, rfl, justified_unexpected fun _ => ?_⟩
      exact ⟨front, _, within, hsplit, hopening, hwithin.not_closes⟩
  | misplaced kind =>
      refine ⟨by simp, _, _, _, rfl, rfl, rfl, justified_unexpected fun hclosing => ?_⟩
      exact absurd hclosing kind

/-- A complaint where the tokens end says what it should, or is about the end. -/
theorem Tracks.reported_of_refusesEnd {found : List Token} {progress : Progress}
    {ending : Ending} {complaint : Complaint} {offset : Nat} {value : Text}
    (h : Tracks found progress)
    (hrefuses : RefusesEnd progress ending (.grammar complaint offset value)) :
    complaint ≠ .unexpectedWildcard ∧ (Reported found ending complaint offset value ∨
      complaint = .unexpectedToken ∧ value = [] ∧ ending = .done offset) := by
  have hencloses := h.encloses
  cases hrefuses with
  | unclosed inside passed stop =>
      obtain ⟨front, within, rfl, hopening, hwithin⟩ := (inside ▸ hencloses).innermost
      exact ⟨by simp, .inl ⟨_, _, _, rfl, rfl, rfl, justified_unclosed hopening hwithin⟩⟩
  | due passed stop => exact ⟨by simp, .inr ⟨rfl, rfl, rfl⟩⟩

/-- A reading from the start complains about one of the tokens, and says what it should, or
about the end. -/
theorem reported_of_fails {found : List Token} {ending : Ending} {complaint : Complaint}
    {offset : Nat} {value : Text}
    (h : Fails marker .start ending found (.grammar complaint offset value)) :
    complaint ≠ .unexpectedWildcard ∧ (Reported found ending complaint offset value ∨
      complaint = .unexpectedToken ∧ value = [] ∧ ending = .done offset) := by
  cases h with
  | token run refused =>
      obtain ⟨hknown, hreported⟩ :=
        (tracks_of_advances run).reported_of_refuses (refuses_of_take refused) _ ending
      exact ⟨hknown, .inl hreported⟩
  | ending run refused =>
      exact (tracks_of_advances run).reported_of_refusesEnd (refusesEnd_of_finish refused)

/-- A parenthesis without its partner keeps the tokens from being nested. -/
theorem Complaint.Justified.not_nested {before after : List Token} {token : Token}
    {ending : Ending}
    (h : Complaint.unbalancedParenthesis.Justified before token after ending) :
    ¬Nested (symbolsOf (before ++ token :: after)) := by
  intro hnested
  rcases h.parenthesis rfl with hopening | hclosing
  · obtain ⟨-, hunclosed, -⟩ := h.unclosed rfl hopening
    exact hunclosed (closes_of_nested hnested rfl hopening)
  · obtain ⟨hbefore, -⟩ := h.unopened rfl hclosing
    have hsymbol := Token.symbol_eq_closing_iff.mpr hclosing
    have hcloses : Closes (symbolsOf (before ++ token :: after)) := by
      refine ⟨symbolsOf before, symbolsOf after, ?_, hbefore⟩
      rw [symbolsOf_append, ← hsymbol]
      rfl
    exact hnested.not_closes hcloses

/-- **What complaints mean.**  A complaint is about a token, or about the end, where no
token was expected.  It tells the truth about the parentheses around the token, and
where all parentheses are matched none is called unbalanced. -/
theorem complaint_of_parse {input : Text} {complaint : Complaint} {offset : Nat} {value : Text}
    (h : parse marker input = .error (.grammar complaint offset value)) :
    complaint ≠ .unexpectedWildcard ∧
      ((∃ token ∈ (tokens marker input).tokens, token.start = offset ∧ token.value = value) ∨
        complaint = .unexpectedToken ∧ value = [] ∧
          (tokens marker input).ending = .done offset) ∧
      (∀ before token after, (tokens marker input).tokens = before ++ token :: after →
        token.start = offset →
          complaint.Justified before token after (tokens marker input).ending) ∧
      (Nested (symbolsOf (tokens marker input).tokens) → complaint ≠ .unbalancedParenthesis) := by
  obtain ⟨hascending, hbelow⟩ := ascending_tokens marker input
  obtain ⟨hknown, hreported⟩ := reported_of_fails (fails_of_read proper_of_mem_tokens h)
  refine ⟨hknown, ?_⟩
  rcases hreported with ⟨before, token, after, hsplit, rfl, rfl, hjustified⟩ | ⟨rfl, rfl, hend⟩
  · refine ⟨.inl ⟨token, ?_, rfl, rfl⟩, ?_, ?_⟩
    · rw [hsplit]
      exact List.mem_append_right _ List.mem_cons_self
    · intro front other back hother hstart
      obtain ⟨rfl, rfl, rfl⟩ :=
        eq_of_start_eq (hsplit ▸ hascending) (hsplit.symm.trans hother) hstart.symm
      exact hjustified
    · rintro hnested rfl
      exact hjustified.not_nested (hsplit ▸ hnested)
  -- the end stands behind all tokens
  · refine ⟨.inr ⟨rfl, rfl, hend⟩, ?_, fun _ => by simp⟩
    intro before token after hsplit hstart
    have hmem : token ∈ (tokens marker input).tokens := by
      rw [hsplit]
      exact List.mem_append_right _ List.mem_cons_self
    have hlt := hbelow token hmem
    rw [hend, hstart] at hlt
    exact absurd hlt (Nat.lt_irrefl offset)

/-- Two groups are open at the end, and the inner one is told of. -/
theorem complaint_of_open_groups :
    parse '*' ['(', 'a', ' ', 'O', 'R', ' ', '(', 'b'] =
        .error (.grammar .unbalancedParenthesis 6 ['(']) ∧
      ∀ before token after,
        (tokens '*' ['(', 'a', ' ', 'O', 'R', ' ', '(', 'b']).tokens = before ++ token :: after →
        token.start = 6 →
          Complaint.unbalancedParenthesis.Justified before token after
            (tokens '*' ['(', 'a', ' ', 'O', 'R', ' ', '(', 'b']).ending :=
  have hfailure : parse '*' ['(', 'a', ' ', 'O', 'R', ' ', '(', 'b'] =
      .error (.grammar .unbalancedParenthesis 6 ['(']) := by cbv
  ⟨hfailure, (complaint_of_parse hfailure).2.2.1⟩

end TagFilter
