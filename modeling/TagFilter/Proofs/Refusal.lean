import TagFilter.Proofs.Acceptance

/-!
# What a reading refuses

`Refuses` lists all the reasons why a token cannot be read where a reading stands, and
`RefusesEnd` those why an input cannot end there.  A reading that fails has made a move
for each token up to some place and is refused what comes next (`fails_of_read`); that is
the last thing it looks at.
-/

namespace TagFilter

variable {marker : Char}

/-! ## One step -/

/-- Why a token cannot be read, and the failure that tells it. -/
inductive Refuses (progress : Progress) (token : Token) : Failure → Prop
  /-- No group is open that the parenthesis could close. -/
  | unopened (kind : token.kind = .closing) (outside : progress.groups = []) :
      Refuses progress token (Complaint.unbalancedParenthesis.about token)
  /-- The parenthesis comes right behind the one that it would close. -/
  | emptyGroup {group : Group} {groups : List Group} (kind : token.kind = .closing)
      (inside : progress.groups = group :: groups) (passed : progress.passed = .opening) :
      Refuses progress token (Complaint.emptyGroup.about group.opening)
  /-- An operand of the open group is due. -/
  | due {group : Group} {groups : List Group} (kind : token.kind = .closing)
      (inside : progress.groups = group :: groups) (passed : progress.passed ≠ .operand) :
      Refuses progress token (Complaint.unexpectedToken.about token)
  /-- Another token that the grammar does not have here. -/
  | misplaced (kind : token.kind ≠ .closing) :
      Refuses progress token (Complaint.unexpectedToken.about token)

/-- What cannot be read where an operand is due is refused for one of the reasons. -/
theorem refuses_of_takeOperand {progress : Progress} {token : Token} {failure : Failure}
    (passed : progress.passed ≠ .operand)
    (h : progress.takeOperand marker token = .error failure) : Refuses progress token failure := by
  unfold Progress.takeOperand at h
  split at h
  · rename_i hkind
    split at h
    · obtain rfl := Except.error.inj h
      exact .misplaced (by simp [hkind])
    · cases h
  · cases h
  · cases h
  · cases h
  · rename_i hkind
    split at h
    · rename_i houtside
      obtain rfl := Except.error.inj h
      exact .unopened hkind houtside
    · rename_i group groups hinside
      split at h
      · rename_i hopening
        obtain rfl := Except.error.inj h
        exact .emptyGroup hkind hinside hopening
      · obtain rfl := Except.error.inj h
        exact .due hkind hinside passed
  all_goals
    rename_i hkind
    obtain rfl := Except.error.inj h
    exact .misplaced (by simp [hkind])

/-- So is what cannot be read behind an operand. -/
theorem refuses_of_takeOperator {progress : Progress} {token : Token} {failure : Failure}
    (h : progress.takeOperator token = .error failure) : Refuses progress token failure := by
  unfold Progress.takeOperator at h
  split at h
  · cases h
  · cases h
  · rename_i hkind
    split at h
    · rename_i houtside
      obtain rfl := Except.error.inj h
      exact .unopened hkind houtside
    · cases h
  all_goals
    rename_i hkind
    obtain rfl := Except.error.inj h
    exact .misplaced (by simp [hkind])

/-- **One step that fails.**  A token is refused for one of these reasons. -/
theorem refuses_of_take {progress : Progress} {token : Token} {failure : Failure}
    (h : progress.take marker token = .error failure) : Refuses progress token failure := by
  unfold Progress.take at h
  split at h
  · exact refuses_of_takeOperator h
  · exact refuses_of_takeOperand ‹_› h

/-- Why an input cannot end, and the failure that tells it. -/
inductive RefusesEnd (progress : Progress) : Ending → Failure → Prop
  | openQuote (offset : Nat) : RefusesEnd progress (.openQuote offset) (.openQuote offset)
  /-- A group is open, and complete but for its closing parenthesis. -/
  | unclosed {group : Group} {groups : List Group} (inside : progress.groups = group :: groups)
      (passed : progress.passed = .operand) (offset : Nat) :
      RefusesEnd progress (.done offset) (Complaint.unbalancedParenthesis.about group.opening)
  /-- An operand is due. -/
  | due (passed : progress.passed ≠ .operand) (offset : Nat) :
      RefusesEnd progress (.done offset) (.grammar .unexpectedToken offset [])

/-- An input that cannot end is refused its end for one of the reasons. -/
theorem refusesEnd_of_finish {progress : Progress} {ending : Ending} {failure : Failure}
    (h : progress.finish ending = .error failure) : RefusesEnd progress ending failure := by
  unfold Progress.finish at h
  split at h
  · obtain rfl := Except.error.inj h
    exact .openQuote _
  · split at h
    · cases h
    · cases h
    · rename_i group groups hpassed hinside
      obtain rfl := Except.error.inj h
      exact .unclosed hinside hpassed _
    all_goals
      rename_i hpassed
      obtain rfl := Except.error.inj h
      exact .due (by simp [hpassed]) _

/-! ## Whole readings -/

/-- How a reading of some tokens fails: it has made a move for each token up to a place,
and is refused the token there, or the end. -/
inductive Fails (marker : Char) (progress : Progress) (ending : Ending) :
    List Token → Failure → Prop
  | token {before after : List Token} {token : Token} {further : Progress} {failure : Failure}
      (run : Advances marker progress before further)
      (refused : further.take marker token = .error failure) :
      Fails marker progress ending (before ++ token :: after) failure
  | ending {tokens : List Token} {further : Progress} {failure : Failure}
      (run : Advances marker progress tokens further)
      (refused : further.finish ending = .error failure) :
      Fails marker progress ending tokens failure

/-- A reading that fails makes moves up to the token that it is refused, by induction over the
tokens. -/
theorem fails_of_read {tokens : List Token} {ending : Ending} {progress : Progress}
    {failure : Failure} (hproper : AllProper marker tokens)
    (h : (progress.read marker tokens ending).result = .error failure) :
    Fails marker progress ending tokens failure := by
  induction tokens generalizing progress with
  | nil => exact .ending (.refl progress) h
  | cons token tokens ih =>
      rw [Progress.read] at h
      cases htake : progress.take marker token with
      | error other =>
          rw [htake] at h
          obtain rfl := Except.error.inj h
          exact .token (.refl progress) htake
      | ok middle =>
          rw [htake] at h
          have hmove := (take_eq_ok_iff (hproper token List.mem_cons_self)).mp htake
          cases ih hproper.of_cons h with
          | token run refused => exact .token (.step hmove run) refused
          | ending run refused => exact .ending (.step hmove run) refused

/-- A token that is refused is the last that the reading looks at. -/
theorem Advances.read_refused {progress further : Progress} {before : List Token} {token : Token}
    {failure : Failure} (h : Advances marker progress before further)
    (hproper : AllProper marker before) (refused : further.take marker token = .error failure)
    (after : List Token) (ending : Ending) :
    progress.read marker (before ++ token :: after) ending =
      ⟨.error failure, before.length + 1⟩ := by
  rw [h.read_append hproper, Progress.read, refused, Nat.add_comm]

end TagFilter
