import TagFilter.CommandLine
import TagFilter.Proofs.LoadedSettings

/-!
# Calls

What holds of every call, whatever its arguments, its environment and the files.

* `Given.Sound.readArguments`: what is given on a side of the name of the command stays
  sound, argument by argument: its path is not empty, and tags are there only where they may be.
* `Invocation.ofCall?_of_path`: a path in the environment counts where no option gives one,
  and changes nothing else; with an empty one a call asks for what it asks for without it, if
  for anything (`Invocation.ofArguments?_of_ofCall?_nil`).
* `Invocation.isReserved_of_settings`: a command is never carried out with a reserved marker.
* `Invocation.run_eq_error_iff`: the settings fail before the command can.
* `Exit.of_failure`: a call that fails prints nothing, reports why, and ends with another code
  than a success.
-/

namespace TagFilter

/-! ## What is given on one side -/

/-- What can be given on a side of the name of the command where tags can be given if `takes`:
a path that is not empty, and no tags otherwise. -/
structure Given.Sound (given : Given) (takes : Bool) : Prop where
  takesTags : given.takesTags = takes
  path : given.config ≠ some []
  tags : takes = false → given.tagLists = []

namespace Given

variable {given further : Given} {takes : Bool} {option : ValueOption}
  {waiting : Option ValueOption}

/-- To say more is no path and no tag. -/
theorem Sound.giveVerbose (h : given.Sound takes) (hgive : given.giveVerbose = some further) :
    further.Sound takes := by
  rw [Given.giveVerbose] at hgive
  split at hgive
  · cases hgive
  · obtain rfl := Option.some.inj hgive
    exact ⟨h.takesTags, h.path, h.tags⟩

/-- Whether an option with a value may be given here. -/
def Allows (given : Given) (option : ValueOption) : Prop :=
  option = .tags → given.takesTags = true

/-- An option is known by its name, and that for tags only where they may be given. -/
theorem allows_of_known {isConfig : Prop} [Decidable isConfig] {isTags : Bool}
    (h : (if isConfig then some ValueOption.config
      else if isTags && given.takesTags then some .tags else none) = some option) :
    given.Allows option := by
  rintro rfl
  split at h
  · cases h
  · split at h
    · rename_i hknown
      exact (Bool.and_eq_true_iff.mp hknown).2
    · cases h

/-- So it is for a long name. -/
theorem allows_of_longOption? {name : Text} (h : given.longOption? name = some option) :
    given.Allows option :=
  allows_of_known h

/-- And so it is for a short one. -/
theorem allows_of_shortOption? {name : Char} (h : given.shortOption? name = some option) :
    given.Allows option :=
  allows_of_known h

/-- A value keeps what is given sound, if its option may be given. -/
theorem Sound.give {value : Text} (h : given.Sound takes) (hallows : given.Allows option)
    (hgive : given.give option value = some further) : further.Sound takes := by
  cases option with
  | config =>
      rw [Given.give] at hgive
      split at hgive
      · cases hgive
      · rename_i hfree
        obtain rfl := Option.some.inj hgive
        refine ⟨h.takesTags, ?_, h.tags⟩
        rintro ⟨⟩
        simp at hfree
  | tags =>
      obtain rfl := Option.some.inj hgive
      refine ⟨h.takesTags, h.path, ?_⟩
      intro hnone
      cases (hallows rfl).symm.trans (h.takesTags.trans hnone)

/-- What options leave: what is given is sound, and an option that still waits for its value
may be given. -/
structure Ready (given : Given) (takes : Bool) (waiting : Option ValueOption) : Prop where
  sound : given.Sound takes
  allows : ∀ option, waiting = some option → given.Allows option

/-- Nothing waits behind an option that has its value. -/
theorem Sound.ready_of_map {taken : Option Given}
    (h : ∀ further, taken = some further → further.Sound takes)
    (hmap : (taken.map fun given => (given, none)) = some (further, waiting)) :
    further.Ready takes waiting := by
  obtain ⟨found, hfound, heq⟩ := Option.map_eq_some_iff.mp hmap
  cases heq
  exact ⟨h _ hfound, fun _ hwaiting => nomatch hwaiting⟩

/-- An option that waits has changed nothing. -/
theorem Sound.ready_of_waiting (h : given.Sound takes) (hallows : given.Allows option) :
    given.Ready takes (some option) := by
  refine ⟨h, ?_⟩
  rintro _ ⟨⟩
  exact hallows

/-- Options by a long name. -/
theorem Sound.giveLong {text : Text} (h : given.Sound takes)
    (hgive : given.giveLong text = some (further, waiting)) : further.Ready takes waiting := by
  simp only [Given.giveLong] at hgive
  split at hgive
  · rename_i hknown _
    cases hgive
    exact h.ready_of_waiting (allows_of_longOption? hknown)
  · rename_i hknown _
    exact Sound.ready_of_map (fun _ => h.give (allows_of_longOption? hknown)) hgive
  · split at hgive
    · exact Sound.ready_of_map (fun _ => h.giveVerbose) hgive
    · cases hgive
  · cases hgive

/-- Options by their short names, by induction over the names that take no value. -/
theorem Sound.giveShort {text : Text} (h : given.Sound takes)
    (hgive : given.giveShort text = some (further, waiting)) : further.Ready takes waiting := by
  induction text generalizing given with
  | nil =>
      cases hgive
      exact ⟨h, fun _ hwaiting => nomatch hwaiting⟩
  | cons name rest ih =>
      unfold Given.giveShort at hgive
      split at hgive
      · split at hgive
        · rename_i hverbose
          exact ih (h.giveVerbose hverbose) hgive
        · cases hgive
      · split at hgive
        · cases hgive
        · rename_i hknown
          cases hgive
          exact h.ready_of_waiting (allows_of_shortOption? hknown)
        · rename_i hknown
          exact Sound.ready_of_map (fun _ => h.give (allows_of_shortOption? hknown)) hgive
        · rename_i hknown _ _
          exact Sound.ready_of_map (fun _ => h.give (allows_of_shortOption? hknown)) hgive

/-- **One argument.**  An argument with options keeps what is given sound. -/
theorem Sound.take {argument : Text} (h : given.Sound takes)
    (htake : given.take argument = .options further waiting) : further.Ready takes waiting := by
  simp only [Given.take] at htake
  split at htake
  · cases htake
  · cases htake
  · split at htake
    · cases htake
    · rename_i hgive
      cases htake
      exact h.giveLong hgive
  · split at htake
    · cases htake
    · rename_i hgive
      cases htake
      exact h.giveShort hgive
  · cases htake

/-- **All arguments of a side.**  What is given on a side is sound, by induction over its
arguments. -/
theorem Sound.readArguments {stops : Bool} {arguments rest : List Text} (h : given.Sound takes)
    (hread : readArguments stops given arguments = some (further, rest)) : further.Sound takes := by
  fun_induction TagFilter.readArguments stops given arguments with
  -- Operands are kept as they come; only options can change a path or the tags.
  | case1 | case2 =>
      cases hread
      exact h
  | case3 given argument _ _ _ ih => exact ih ⟨h.takesTags, h.path, h.tags⟩ hread
  | case5 =>
      cases hread
      exact ⟨h.takesTags, h.path, h.tags⟩
  | case7 given argument _ taken htake ih => exact ih (h.take htake).sound hread
  | case9 given argument taken option htake value _ taken' hgive _ ih =>
      have hready := h.take htake
      exact ih (hready.sound.give (hready.allows option rfl) hgive) hread
  | case4 | case6 | case8 | case10 | case11 => cases hread

/-- From the start of a side on, its path is not empty, and no tags are given in vain. -/
theorem sound_of_readArguments {stops : Bool} {arguments rest : List Text}
    (hread : TagFilter.readArguments stops { takesTags := takes } arguments = some (given, rest)) :
    given.Sound takes :=
  Sound.readArguments ⟨rfl, by simp, fun _ => rfl⟩ hread

end Given

/-! ## What a call asks for -/

namespace Given

variable {given : Given} {fallback : Option Text}

/-- A path that is not empty can always be there in the environment. -/
theorem admits_of_ne (h : fallback ≠ some []) : given.admits fallback = true := by
  simp [admits, h]

/-- Behind an empty path in the environment an option has to give another. -/
theorem admits_nil_iff : given.admits (some []) = true ↔ given.config.isSome = true := by
  simp [admits]

end Given

namespace Invocation

variable {invocation : Invocation} {fallback : Option Text} {arguments : List Text}

/-- A call asks for something if it has the name of a command with its one operand, and what
is given on both sides of the name can go with the environment. -/
theorem ofCall?_eq_some_iff :
    ofCall? fallback arguments = some invocation ↔
      ∃ outer name rest inner left operand command,
        readArguments true { takesTags := false } arguments = some (outer, name :: rest) ∧
          readArguments false { takesTags := name = "match".toList } rest = some (inner, left) ∧
          outer.admits fallback = true ∧ inner.admits fallback = true ∧
          inner.operands = [operand] ∧
          commandNamed? name operand inner.tagLists = some command ∧
          ⟨inner.config <|> outer.config <|> fallback, outer.verbose || inner.verbose, command⟩ =
            invocation := by
  constructor
  · intro h
    rw [ofCall?] at h
    split at h
    · rename_i outer name rest houter
      split at h
      · rename_i inner left hinner
        split at h
        · rename_i hadmits
          obtain ⟨hadmits, hadmits'⟩ := Bool.and_eq_true_iff.mp hadmits
          split at h
          · rename_i operand hoperand
            obtain ⟨command, hcommand, hinvocation⟩ := Option.map_eq_some_iff.mp h
            exact ⟨outer, name, rest, inner, left, operand, command, houter, hinner, hadmits,
              hadmits', hoperand, hcommand, hinvocation⟩
          · cases h
        · cases h
      · cases h
    · cases h
  · rintro ⟨outer, name, rest, inner, left, operand, command, houter, hinner, hadmits, hadmits',
      hoperand, hcommand, hinvocation⟩
    simp only [ofCall?, houter, hinner, hadmits, hadmits', hoperand, hcommand, Bool.and_self,
      if_true, Option.map_some, hinvocation]

/-- **The path.**  The path that a call has for its settings is not empty, wherever it comes
from. -/
theorem config_ne_nil (h : ofCall? fallback arguments = some invocation) :
    invocation.config ≠ some [] := by
  obtain ⟨outer, name, rest, inner, left, operand, command, houter, hinner, hadmits, -, -, -,
    rfl⟩ := ofCall?_eq_some_iff.mp h
  have houter' := (Given.sound_of_readArguments houter).path
  have hinner' := (Given.sound_of_readArguments hinner).path
  cases hpath : inner.config with
  | some path => simpa [hpath] using hinner'
  | none =>
      cases hpath' : outer.config with
      | some path => simpa [hpath, hpath'] using houter'
      | none => simpa [hpath', Given.admits] using hadmits

/-- **The environment.**  A path that the environment has counts where no option gives one;
it changes nothing else. -/
theorem ofCall?_of_path {path : Text} (hpath : path ≠ []) :
    ofCall? (some path) arguments =
      (ofArguments? arguments).map fun invocation =>
        { invocation with config := invocation.config <|> some path } := by
  have hadmits : ∀ given : Given, given.admits (some path) = true :=
    fun _ => Given.admits_of_ne (by simpa using hpath)
  have hadmits' : ∀ given : Given, given.admits none = true :=
    fun _ => Given.admits_of_ne (by simp)
  have hconfig : ∀ inner outer : Option Text,
      ((inner <|> outer <|> none) <|> some path) = (inner <|> outer <|> some path) := by
    intro inner outer
    cases inner <;> cases outer <;> rfl
  ext invocation
  rw [ofArguments?, Option.map_eq_some_iff]
  constructor
  · intro h
    obtain ⟨outer, name, rest, inner, left, operand, command, houter, hinner, -, -, hoperand,
      hcommand, rfl⟩ := ofCall?_eq_some_iff.mp h
    refine ⟨_, ofCall?_eq_some_iff.mpr ⟨outer, name, rest, inner, left, operand, command, houter,
      hinner, hadmits' outer, hadmits' inner, hoperand, hcommand, rfl⟩, ?_⟩
    rw [hconfig]
  · rintro ⟨asked, hasked, rfl⟩
    obtain ⟨outer, name, rest, inner, left, operand, command, houter, hinner, -, -, hoperand,
      hcommand, rfl⟩ := ofCall?_eq_some_iff.mp hasked
    refine ofCall?_eq_some_iff.mpr ⟨outer, name, rest, inner, left, operand, command, houter,
      hinner, hadmits outer, hadmits inner, hoperand, hcommand, ?_⟩
    rw [hconfig]

/-- With an empty path in the environment a call asks for what it asks for by itself, and has
an option with a path. -/
theorem ofArguments?_of_ofCall?_nil (h : ofCall? (some []) arguments = some invocation) :
    ofArguments? arguments = some invocation ∧ invocation.config.isSome = true := by
  obtain ⟨outer, name, rest, inner, left, operand, command, houter, hinner, -, hadmits, hoperand,
    hcommand, rfl⟩ := ofCall?_eq_some_iff.mp h
  obtain ⟨path, hpath⟩ := Option.isSome_iff_exists.mp (Given.admits_nil_iff.mp hadmits)
  refine ⟨ofCall?_eq_some_iff.mpr ⟨outer, name, rest, inner, left, operand, command, houter,
    hinner, Given.admits_of_ne (by simp), Given.admits_of_ne (by simp), hoperand, hcommand, ?_⟩, ?_⟩
  · simp [hpath]
  · simp [hpath]

end Invocation

/-! ## What comes of a call -/

section MapError

variable {ε ε' α : Type} {result : Except ε α} {wrap : ε → ε'}

/-- A result whose failure is renamed is the same result. -/
theorem mapError_eq_ok_iff {value : α} :
    result.mapError wrap = .ok value ↔ result = .ok value := by
  cases result with
  | error refused => constructor <;> intro h <;> cases h
  | ok found => exact ⟨fun h => congrArg _ (Except.ok.inj h), fun h => congrArg _ (Except.ok.inj h)⟩

/-- What is renamed is a failure. -/
theorem mapError_eq_error_iff {failure : ε'} :
    result.mapError wrap = .error failure ↔
      ∃ refused, result = .error refused ∧ wrap refused = failure := by
  cases result with
  | error refused =>
      constructor
      · intro h
        exact ⟨refused, rfl, Except.error.inj h⟩
      · intro h
        obtain ⟨_, hrefused, hwrap⟩ := h
        cases hrefused
        exact congrArg Except.error hwrap
  | ok found =>
      constructor
      · intro h
        cases h
      · intro h
        obtain ⟨_, hrefused, -⟩ := h
        cases hrefused

end MapError

namespace Invocation

variable {content : Text → Option Text} {invocation : Invocation} {settings : Settings}
  {outcome : Outcome} {failure : CallFailure}

/-- The settings of a call are the default, or those at its path. -/
theorem settings_eq_ok_iff :
    invocation.settings content = .ok settings ↔
      invocation.config = none ∧ settings = {} ∨
        ∃ path, invocation.config = some path ∧
          loadSettings (extensionOf path) (content path) = .ok settings := by
  rw [Invocation.settings]
  cases invocation.config with
  | none => simp [eq_comm]
  | some path => simp [mapError_eq_ok_iff]

/-- The settings of a call fail at its path, for what is wrong there. -/
theorem settings_eq_error_iff :
    invocation.settings content = .error failure ↔
      ∃ path refused, invocation.config = some path ∧
        loadSettings (extensionOf path) (content path) = .error refused ∧
        .settings path refused = failure := by
  rw [Invocation.settings]
  cases invocation.config with
  | none => simp
  | some path => simp [mapError_eq_error_iff]

/-- **The marker of a call.**  Wherever the settings of a call come from, their marker means
nothing else to the scanner. -/
theorem isReserved_of_settings (h : invocation.settings content = .ok settings) :
    isReserved settings.marker = false := by
  rcases settings_eq_ok_iff.mp h with ⟨-, rfl⟩ | ⟨path, -, hloaded⟩
  · decide
  · exact isReserved_of_loadSettings hloaded

/-- A call has an outcome if it has settings, and its command has that outcome with them. -/
theorem run_eq_ok_iff :
    invocation.run content = .ok outcome ↔
      ∃ settings, invocation.settings content = .ok settings ∧
        invocation.command.run settings = .ok outcome := by
  rw [Invocation.run]
  cases invocation.settings content with
  | error failure => simp
  | ok settings => simp [mapError_eq_ok_iff]

/-- **Failures.**  A call fails for its settings, whatever its command is, and for its command
only where it has settings. -/
theorem run_eq_error_iff :
    invocation.run content = .error failure ↔
      invocation.settings content = .error failure ∨
        ∃ settings refused, invocation.settings content = .ok settings ∧
          invocation.command.run settings = .error refused ∧ .command refused = failure := by
  rw [Invocation.run]
  cases invocation.settings content with
  | error failure => simp
  | ok settings => simp [mapError_eq_error_iff]

/-- A call that asks for something never fails for its arguments. -/
theorem run_ne_usage : invocation.run content ≠ .error .usage := by
  intro h
  rcases run_eq_error_iff.mp h with hsettings | ⟨_, _, -, -, hfailure⟩
  · obtain ⟨path, refused, -, -, hfailure⟩ := settings_eq_error_iff.mp hsettings
    cases hfailure
  · cases hfailure

end Invocation

/-- A call fails for its arguments exactly if they ask for nothing. -/
theorem call_eq_usage_iff {content : Text → Option Text} {arguments : List Text} :
    call content arguments = .error .usage ↔ Invocation.ofArguments? arguments = none := by
  rw [call]
  cases Invocation.ofArguments? arguments with
  | none => simp
  | some invocation => simp [Invocation.run_ne_usage]

/-! ## Endings -/

namespace Exit

variable {result : Except CallFailure Outcome}

/-- Every report of a failure begins with the same word. -/
theorem prefix_reportOf (heading : Text) : "Error: ".toList <+: reportOf heading :=
  ⟨heading ++ ['\n'], (List.append_assoc _ _ _).symm⟩

/-- So does one with a cause. -/
theorem prefix_reportWithCause (heading cause : Text) :
    "Error: ".toList <+: reportWithCause heading cause := by
  refine (prefix_reportOf heading).trans ?_
  rw [reportWithCause, List.append_assoc]
  exact List.prefix_append _ _

/-- What a failure other than for the arguments reports says that it is one. -/
theorem prefix_report {failure : CallFailure} (h : failure ≠ .usage) :
    "Error: ".toList <+: (Exit.of (.error failure)).report := by
  cases failure with
  | usage => exact absurd rfl h
  | command refused =>
      simp only [Exit.of]
      exact prefix_reportWithCause _ _
  | settings path refused =>
      simp only [Exit.of]
      cases refused with
      | missing | unreadable =>
          simp only [settingsReport]
          exact prefix_reportWithCause _ _
      | wrongValue | reservedMarker =>
          simp only [settingsReport]
          exact prefix_reportOf _

/-- There is something to say on how to call the program. -/
theorem usage_ne_nil : usage ≠ [] := by
  unfold usage
  exact List.append_ne_nil_of_left_ne_nil (List.append_ne_nil_of_left_ne_nil (by simp) _) _

/-- Every failure is reported. -/
theorem report_ne_nil (failure : CallFailure) : (Exit.of (.error failure)).report ≠ [] := by
  have hword : ∀ report : Text, "Error: ".toList <+: report → report ≠ [] := by
    rintro report hprefix rfl
    rw [List.prefix_nil] at hprefix
    simp at hprefix
  cases failure with
  | usage => exact usage_ne_nil
  | settings path refused => exact hword _ (prefix_report (by simp))
  | command refused => exact hword _ (prefix_report (by simp))

/-- **Failed calls.**  A call that fails prints nothing, reports why, and ends with a code that
says whether it was for its arguments. -/
theorem of_failure (failure : CallFailure) :
    (Exit.of (.error failure)).output = [] ∧ (Exit.of (.error failure)).report ≠ [] ∧
      (Exit.of (.error failure)).code = if failure = .usage then 2 else 1 := by
  refine ⟨?_, report_ne_nil failure, ?_⟩
  · cases failure <;> rfl
  · cases failure <;> rfl

/-- A call ends with zero exactly if it has an outcome that counts as a success. -/
theorem code_eq_zero_iff :
    (Exit.of result).code = 0 ↔ ∃ outcome, result = .ok outcome ∧ outcome.success = true := by
  cases result with
  | ok outcome => cases hsuccess : outcome.success <;> simp [Exit.of, hsuccess]
  | error failure => cases failure <;> simp [Exit.of]

/-- Something is reported exactly if there is no outcome. -/
theorem report_eq_nil_iff : (Exit.of result).report = [] ↔ ∃ outcome, result = .ok outcome := by
  cases result with
  | ok outcome => simp [Exit.of]
  | error failure => simp [report_ne_nil]

end Exit

end TagFilter
