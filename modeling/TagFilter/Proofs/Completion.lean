import TagFilter.Proofs.Partition
import TagFilter.Proofs.Refusal
import TagFilter.Proofs.RoundTrip

/-!
# Failures are not reported late

A failure points at a place behind which nothing has been accepted.  The tokens
before that place have been read without complaint (`exists_reaches_of_failure`),
also where the failure points back at the parenthesis of a group.  Whatever has
been read without complaint can be completed: an operand if one is due, and a
closing parenthesis for each open group (`exists_leads_to_end`).

The text in front of the place is scanned as those tokens, and text that begins
with a blank or a parenthesis can be put behind it.
-/

namespace TagFilter

open Grammar

variable {marker : Char}

/-! ## Where a reading fails -/

/-- A move opens no group but that of its own token. -/
theorem Move.opening_mem {progress further : Progress} {token : Token}
    (h : Move marker progress token further) :
    ∀ group ∈ further.groups, group ∈ progress.groups ∨ group.opening = token := by
  intro group hgroup
  cases h with
  | leaf | not | and | or => exact .inl hgroup
  | opening =>
      rcases List.mem_cons.mp hgroup with rfl | hgroup
      · exact .inr rfl
      · exact .inl hgroup
  | closing => exact .inl (List.mem_cons_of_mem _ hgroup)

/-- Every open group was opened by a token of the run. -/
theorem Advances.opening_mem {progress further : Progress} {tokens : List Token}
    (h : Advances marker progress tokens further) :
    ∀ group ∈ further.groups, group ∈ progress.groups ∨ group.opening ∈ tokens := by
  induction h with
  | refl => exact fun group hgroup => .inl hgroup
  | step move later ih =>
      intro group hgroup
      rcases ih group hgroup with hmiddle | hlater
      · rcases move.opening_mem group hmiddle with hbefore | rfl
        · exact .inl hbefore
        · exact .inr List.mem_cons_self
      · exact .inr (List.mem_cons_of_mem _ hlater)

/-- The failure points at a place, or at the parenthesis of an open group. -/
def Failure.PointsAt (failure : Failure) (progress : Progress) (offset : Nat) : Prop :=
  failure.offset = offset ∨ ∃ group ∈ progress.groups, failure.offset = group.opening.start

/-- A refused token is reported where it stands, or at the parenthesis of an open group. -/
theorem Refuses.pointsAt {progress : Progress} {token : Token} {failure : Failure}
    (h : Refuses progress token failure) : failure.PointsAt progress token.start := by
  cases h with
  | unopened | due | misplaced => exact .inl rfl
  | emptyGroup kind inside passed => exact .inr ⟨_, inside ▸ List.mem_cons_self, rfl⟩

/-- So is a refused end. -/
theorem RefusesEnd.pointsAt {progress : Progress} {ending : Ending} {failure : Failure}
    (h : RefusesEnd progress ending failure) : failure.PointsAt progress ending.offset := by
  cases h with
  | openQuote | due => exact .inl rfl
  | unclosed inside passed stop => exact .inr ⟨_, inside ▸ List.mem_cons_self, rfl⟩

/-- What the tokens before a place reach, each of them reaches. -/
theorem Stream.Reaches.opening {stream : Stream} {before after : List Token} {token : Token}
    {offset : Nat} (h : stream.Reaches (before ++ token :: after) offset) :
    stream.Reaches before token.start := by
  generalize hall : before ++ token :: after = all at h
  cases h with
  | @token _ later next split =>
      have hsplit : stream.tokens = before ++ token :: (after ++ next :: later) := by
        rw [split, ← hall, List.append_assoc, List.cons_append]
      exact .token hsplit
  | ending => exact .token hall.symm

/-- A reading that fails has made a run of moves up to some place, and the failure
points there or at a group that is open there. -/
theorem Fails.exists_advances {tokens : List Token} {ending : Ending} {progress : Progress}
    {failure : Failure} (h : Fails marker progress ending tokens failure) :
    ∃ before further offset, Advances marker progress before further ∧
      Stream.Reaches ⟨tokens, ending⟩ before offset ∧ failure.PointsAt further offset := by
  cases h with
  | token run refused => exact ⟨_, _, _, run, .token rfl, (refuses_of_take refused).pointsAt⟩
  | ending run refused => exact ⟨_, _, _, run, .ending, (refusesEnd_of_finish refused).pointsAt⟩

/-- **What comes before a failure has been accepted.**  The tokens before the place
that a failure points at lead a reading from its start to some progress. -/
theorem exists_reaches_of_failure {input : Text} {failure : Failure}
    (h : parse marker input = .error failure) :
    ∃ before progress, (tokens marker input).Reaches before failure.offset ∧
      Advances marker .start before progress := by
  obtain ⟨before, progress, offset, hrun, hreaches, hpoints⟩ :=
    (fails_of_read proper_of_mem_tokens h).exists_advances
  rcases hpoints with rfl | ⟨group, hgroup, hoffset⟩
  · exact ⟨before, progress, hreaches, hrun⟩
  -- the failure points back into the run, at a parenthesis that began an open group
  · have hopening : group.opening ∈ before :=
      (hrun.opening_mem group hgroup).resolve_left (by simp [Progress.start])
    obtain ⟨front, back, rfl⟩ := List.append_of_mem hopening
    obtain ⟨middle, hfront, -⟩ := hrun.split
    rw [hoffset]
    exact ⟨front, middle, hreaches.opening, hfront⟩

/-! ## Completing what was read -/

/-- Closing parentheses, one for each open group, end a filter. -/
theorem exists_leads_closing (marker : Char) (groups : List Group) (level : Level) :
    ∃ last : Level, Leads marker (List.replicate groups.length .closing)
      ⟨groups, level, .operand⟩ ⟨[], last, .operand⟩ := by
  induction groups generalizing level with
  | nil =>
      refine ⟨level, fun tokens htokens => ?_⟩
      obtain rfl := List.map_eq_nil_iff.mp htokens
      exact .refl _
  | cons group groups ih =>
      obtain ⟨last, hlast⟩ := ih (group.outer.withOperand level.query)
      have hclose : Leads marker [.closing] ⟨group :: groups, level, .operand⟩
          ⟨groups, group.outer.withOperand level.query, .operand⟩ :=
        .of_move fun _ symbol => .closing symbol
      exact ⟨last, hclose.append hlast⟩

/-- Closing parentheses may stand side by side. -/
theorem spells_closing (marker : Char) (n : Nat) :
    Spells marker (List.replicate n ')') (List.replicate n .closing) := by
  induction n with
  | zero => exact spells_nil marker
  | succ n ih => exact .lexeme ⟨.closing, [')'], 1, List.replicate n ')'⟩ ih (by decide) rfl

/-- They need no blank before them. -/
theorem separated_closing (n : Nat) : Separated (List.replicate n ')') := by
  cases n with
  | zero => exact separated_nil
  | succ n => exact separated_cons (by decide)

/-- There is a tag, whatever the marker is. -/
theorem exists_operand (marker : Char) :
    ∃ text symbols query, Spells marker text symbols ∧ Primary marker symbols query := by
  by_cases hmarker : marker = 'x'
  · have hplain : marker ∉ ['y'] := by simp [hmarker]
    obtain ⟨symbols, hspells, hprimary⟩ := exists_primary_tag (by simp) hplain
    exact ⟨_, symbols, _, hspells, hprimary⟩
  · have hplain : marker ∉ ['x'] := by simpa using hmarker
    obtain ⟨symbols, hspells, hprimary⟩ := exists_primary_tag (by simp) hplain
    exact ⟨_, symbols, _, hspells, hprimary⟩

/-- **Every reading can be completed.**  Some text, which can stand behind any other,
leads it to where a filter may end. -/
theorem exists_leads_to_end (marker : Char) (progress : Progress) :
    ∃ text symbols level, Separated text ∧ Spells marker text symbols ∧
      Leads marker symbols progress ⟨[], level, .operand⟩ := by
  have hclosing := spells_closing marker progress.groups.length
  by_cases hpassed : progress.passed = .operand
  · obtain ⟨groups, level, passed⟩ := progress
    obtain rfl : passed = .operand := hpassed
    obtain ⟨last, hlast⟩ := exists_leads_closing marker groups level
    exact ⟨_, _, last, separated_closing _, hclosing, hlast⟩
  -- an operand is due before any parenthesis may close
  · obtain ⟨text, symbols, query, hspells, hprimary⟩ := exists_operand marker
    obtain ⟨last, hlast⟩ :=
      exists_leads_closing marker progress.groups (progress.level.withOperand query)
    have hblank : isBlank ' ' := by decide
    have htext := (hspells.append hclosing (separated_closing _)).blank hblank
    have hleads := (leads_of_primary hprimary progress hpassed).append hlast
    exact ⟨_, _, last, separated_cons (isWordChar_of_isBlank hblank), htext, hleads⟩

/-! ## Texts before a failure -/

/-- Parts in front of a text that spells symbols add their tokens to its own. -/
theorem exists_tokens_of_fit {parts : List Part} {text : Text} {symbols : List Symbol}
    (hfit : Fit marker parts text) (h : Spells marker text symbols) :
    ∃ found stop, tokens marker (joined parts ++ text) =
      ⟨partTokens 0 parts ++ found, .done stop⟩ ∧ found.map Token.symbol = symbols := by
  obtain ⟨found, stop, hfound, hsymbols⟩ := h.stream_moved (joined parts).length
  refine ⟨found, stop, ?_, hsymbols⟩
  rw [tokens_of_fit hfit, hfound]
  rfl

/-- **Failures are not reported late.**  A failure points at a place in the input or at
its end, and the text before that place can be completed to a filter. -/
theorem exists_completion_of_failure {marker : Char} {input : Text} {failure : Failure}
    (h : parse marker input = .error failure) :
    failure.offset ≤ input.length ∧
      ∃ more query, parse marker (input.take failure.offset ++ more) = .ok query := by
  obtain ⟨before, progress, hreaches, hrun⟩ := exists_reaches_of_failure h
  obtain ⟨parts, gap, rest, rfl, hfit, hgap, rfl, hoffset⟩ := exists_parts_of_reaches hreaches
  obtain ⟨more, symbols, level, hmore, hspells, hleads⟩ := exists_leads_to_end marker progress
  -- what stood behind the place may have ended a word; the new text has to end it too
  have hfit' : Fit marker parts (gap ++ more) := hfit.mono fun _ => separated_gap hgap hmore
  obtain ⟨found, stop, hfound, hsymbols⟩ := exists_tokens_of_fit hfit' (hspells.blanks hgap)
  rw [hoffset, ← List.append_assoc]
  refine ⟨by simp, more, level.query, ?_⟩
  rw [List.take_left, List.append_assoc]
  have hproper : AllProper marker (partTokens 0 parts ++ found) := by
    have hmem := @proper_of_mem_tokens marker (joined parts ++ (gap ++ more))
    rwa [hfound] at hmem
  rw [parse, reading, hfound]
  rw [(hrun.append (hleads found hsymbols)).read_eq hproper]
  rfl

/-- The failure points back at a parenthesis that nothing closes. -/
theorem exists_completion_of_open_group :
    parse '*' ['a', ' ', 'A', 'N', 'D', ' ', '(', 'b'] =
        .error (.grammar .unbalancedParenthesis 6 ['(']) ∧
      6 ≤ 8 ∧ ∃ more query, parse '*' (['a', ' ', 'A', 'N', 'D', ' '] ++ more) = .ok query :=
  have hfailure : parse '*' ['a', ' ', 'A', 'N', 'D', ' ', '(', 'b'] =
      .error (.grammar .unbalancedParenthesis 6 ['(']) := by cbv
  ⟨hfailure, exists_completion_of_failure hfailure⟩

end TagFilter
