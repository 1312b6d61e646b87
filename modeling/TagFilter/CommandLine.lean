import TagFilter.Command
import TagFilter.SettingsDocument

/-!
# The command line

The arguments of a call, what they ask for, and how the call ends.  Options
stand before or after the name of the command; those for all commands may be
given on both sides, and then the second counts.  Where no option gives the
path of the settings document, the environment may.
-/

namespace TagFilter

/-- What a call asks for. -/
structure Invocation where
  /-- The path of the settings document. -/
  config : Option Text
  verbose : Bool
  command : Command
  deriving DecidableEq, Repr

/-! ## Options -/

/-- An option that takes a value. -/
inductive ValueOption where
  /-- The path of the settings document. -/
  | config
  /-- Tags with commas between them. -/
  | tags
  deriving DecidableEq, Repr

/-- What has been given on one side of the name of the command. -/
structure Given where
  /-- Whether tags can be given here. -/
  takesTags : Bool
  /-- The path of the settings document. -/
  config : Option Text := none
  verbose : Bool := false
  tagLists : List Text := []
  /-- The arguments that are not options. -/
  operands : List Text := []

namespace Given

/-- Takes the option to say more, once. -/
def giveVerbose (given : Given) : Option Given :=
  if given.verbose then none else some { given with verbose := true }

/-- Takes a value.  There is one path, and it is not empty. -/
def give (given : Given) : ValueOption → Text → Option Given
  | .config, value =>
    if given.config.isSome || value = [] then none else some { given with config := some value }
  | .tags, value => some { given with tagLists := given.tagLists ++ [value] }

/-- The option with a long name. -/
def longOption? (given : Given) (name : Text) : Option ValueOption :=
  if name = "config".toList then some .config
  else if name = "tags".toList && given.takesTags then some .tags
  else none

/-- The option with a short name. -/
def shortOption? (given : Given) (name : Char) : Option ValueOption :=
  if name = 'c' then some .config
  else if name = 't' && given.takesTags then some .tags
  else none

/-- Takes an option by its long name, with the value behind an equals sign.  The
result has the option that still waits for its value, if one does. -/
def giveLong (given : Given) (text : Text) : Option (Given × Option ValueOption) :=
  let name := text.takeWhile (· ≠ '=')
  match given.longOption? name, text.dropWhile (· ≠ '=') with
  | some option, [] => some (given, some option)
  | some option, _ :: value => (given.give option value).map fun given => (given, none)
  | none, [] =>
    if name = "verbose".toList then given.giveVerbose.map fun given => (given, none) else none
  | none, _ :: _ => none

/-- Takes options by their short names.  The first that takes a value takes
what follows its name, without an equals sign before it. -/
def giveShort (given : Given) : Text → Option (Given × Option ValueOption)
  | [] => some (given, none)
  | name :: rest =>
    if name = 'v' then
      match given.giveVerbose with
      | some given => given.giveShort rest
      | none => none
    else
      match given.shortOption? name, rest with
      | none, _ => none
      | some option, [] => some (given, some option)
      | some option, '=' :: value => (given.give option value).map fun given => (given, none)
      | some option, value => (given.give option value).map fun given => (given, none)

end Given

/-- What an argument turns out to be. -/
inductive Argument where
  | operand
  /-- The mark behind which no options stand. -/
  | divider
  /-- An option that is not known, or not allowed here. -/
  | refused
  /-- Options, what is given with them, and the one that waits for its value. -/
  | options (given : Given) (waiting : Option ValueOption)

/-- Takes an argument.  A hyphen alone is no option. -/
def Given.take (given : Given) (argument : Text) : Argument :=
  let ofOptions : Option (Given × Option ValueOption) → Argument
    | none => .refused
    | some (given, waiting) => .options given waiting
  match argument with
  | ['-'] => .operand
  | ['-', '-'] => .divider
  | '-' :: '-' :: text => ofOptions (given.giveLong text)
  | '-' :: text => ofOptions (given.giveShort text)
  | _ => .operand

/-- Whether an argument can be the value of the option before it. -/
def isOptionValue (argument : Text) : Bool :=
  argument.head? ≠ some '-' || argument = ['-']

/-- Reads arguments, up to the first operand if `stops`, and keeps the rest. -/
def readArguments (stops : Bool) (given : Given) : List Text → Option (Given × List Text)
  | [] => some (given, [])
  | argument :: rest =>
    match given.take argument with
    | .operand =>
      if stops then some (given, argument :: rest)
      else readArguments stops { given with operands := given.operands ++ [argument] } rest
    | .divider =>
      if stops then none else some ({ given with operands := given.operands ++ rest }, [])
    | .refused => none
    | .options given none => readArguments stops given rest
    | .options given (some option) =>
      match rest with
      | [] => none
      | value :: rest =>
        match given.give option value with
        | some given => if isOptionValue value then readArguments stops given rest else none
        | none => none

/-! ## Commands -/

/-- The command with a name, its one operand and its lists of tags. -/
def commandNamed? (name operand : Text) (tagLists : List Text) : Option Command :=
  if name = "match".toList then some (.holds operand (tagLists.flatMap (·.splitOn ',')))
  else if name = "render".toList then some (.write operand)
  else if name = "tags".toList then some (.mentions operand)
  else if name = "list".toList then some (.list operand)
  else none

/-- Whether this side can go with the path that the environment has: where no option gives
another, that one may not be empty either. -/
def Given.admits (given : Given) (fallback : Option Text) : Bool :=
  given.config.isSome || fallback ≠ some []

/-- What a call asks for, with the path that the environment has for the settings
document, which counts where no option gives one. -/
def Invocation.ofCall? (fallback : Option Text) (arguments : List Text) : Option Invocation :=
  match readArguments true { takesTags := false } arguments with
  | some (outer, name :: rest) =>
    match readArguments false { takesTags := name = "match".toList } rest with
    | some (inner, _) =>
      if outer.admits fallback && inner.admits fallback then
        match inner.operands with
        | [operand] =>
          (commandNamed? name operand inner.tagLists).map fun command =>
            ⟨inner.config <|> outer.config <|> fallback, outer.verbose || inner.verbose, command⟩
        | _ => none
      else none
    | none => none
  | _ => none

/-- What the arguments of a call ask for by themselves. -/
def Invocation.ofArguments? (arguments : List Text) : Option Invocation :=
  Invocation.ofCall? none arguments

/-! ## Calls -/

/-- Why a call ends without an outcome. -/
inductive CallFailure where
  /-- The arguments ask for nothing. -/
  | usage
  /-- There are no settings at the path. -/
  | settings (path : Text) (failure : SettingsFailure)
  /-- The command cannot be carried out. -/
  | command (failure : CommandFailure)
  deriving DecidableEq, Repr

/-- The extension of a path: what follows the last point of its last part,
unless nothing stands before that point. -/
def extensionOf (path : Text) : Text :=
  let backwards := (path.reverse.takeWhile (· ≠ '/'))
  match backwards.dropWhile (· ≠ '.') with
  | '.' :: _ :: _ => (backwards.takeWhile (· ≠ '.')).reverse
  | _ => []

/-- The settings of a call, with `content` for the documents at a path. -/
def Invocation.settings (content : Text → Option Text) (invocation : Invocation) :
    Except CallFailure Settings :=
  match invocation.config with
  | none => .ok {}
  | some path => (loadSettings (extensionOf path) (content path)).mapError (.settings path)

/-- What comes of a call: its settings are loaded before its command is looked at. -/
def Invocation.run (content : Text → Option Text) (invocation : Invocation) :
    Except CallFailure Outcome :=
  match invocation.settings content with
  | .error failure => .error failure
  | .ok settings => (invocation.command.run settings).mapError .command

/-- What comes of a call with these arguments. -/
def call (content : Text → Option Text) (arguments : List Text) : Except CallFailure Outcome :=
  match Invocation.ofArguments? arguments with
  | none => .error .usage
  | some invocation => invocation.run content

/-! ## Endings -/

/-- How a call ends for the one who made it. -/
structure Exit where
  /-- Zero for a success. -/
  code : Nat
  /-- What is printed. -/
  output : Text
  /-- What is reported beside that. -/
  report : Text
  deriving DecidableEq, Repr

/-- A report of what failed, without a cause. -/
def reportOf (heading : Text) : Text := "Error: ".toList ++ heading ++ ['\n']

/-- A report of what failed and why.  The cause is indented, line by line. -/
def reportWithCause (heading cause : Text) : Text :=
  let indent : Text := [' ', ' ', ' ', ' ']
  let lines := (cause.splitOn '\n').map fun line => indent ++ line ++ ['\n']
  reportOf heading ++ "\nCaused by:\n".toList ++ lines.flatten

/-- The report of why there are no settings. -/
def settingsReport (path : Text) : SettingsFailure → Text
  | .missing =>
    reportWithCause ("Config: Failed to read ".toList ++ path)
      ("configuration file \"".toList ++ path ++ "\" not found".toList)
  | .unreadable =>
    reportWithCause ("Config: Failed to read ".toList ++ path) "malformed document".toList
  | .wrongValue => reportOf "invalid value".toList
  | .reservedMarker marker => reportOf (reservedMarkerMessage marker).toList

/-- How to call the program. -/
def usage : Text :=
  "usage: tagfilter [-c FILE] [-v] COMMAND\n".toList ++
    "commands: match EXPRESSION [-t TAGS]..., render EXPRESSION, tags EXPRESSION, ".toList ++
    "list INPUT\n".toList

/-- The ending for what came of a call. -/
def Exit.of : Except CallFailure Outcome → Exit
  | .ok outcome =>
    ⟨if outcome.success then 0 else 1, outcome.lines.flatMap (· ++ ['\n']), []⟩
  | .error .usage => ⟨2, [], usage⟩
  | .error (.settings path failure) => ⟨1, [], settingsReport path failure⟩
  | .error (.command failure) =>
    ⟨1, [], reportWithCause failure.heading.toList failure.cause.message.toList⟩

end TagFilter
