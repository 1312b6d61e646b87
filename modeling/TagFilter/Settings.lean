import TagFilter.Matching
import TagFilter.MessageQuote
import TagFilter.Token

/-!
# Settings

What a user can choose: the marker that stands for a gap, and how to match.  A
marker that already means something to the scanner is refused.
-/

namespace TagFilter

/-- What a user can choose. -/
structure Settings where
  /-- The character that stands for a gap. -/
  marker : Char := '*'
  matching : Matching := {}
  deriving DecidableEq, Repr

/-- Why there are no settings. -/
inductive SettingsFailure where
  | missing
  /-- The document is broken, or in a format that is not known. -/
  | unreadable
  /-- The document holds a value of the wrong kind. -/
  | wrongValue
  | reservedMarker (marker : Char)
  deriving DecidableEq, Repr

/-- The message for a reserved marker. -/
def reservedMarkerMessage (marker : Char) : String :=
  "invalid wildcard marker: " ++ String.ofList (quoteChar marker)

/-- Refuses a reserved marker. -/
def checkMarker (marker : Char) : Except SettingsFailure Unit :=
  if isReserved marker then .error (.reservedMarker marker) else .ok ()

/-- Refuses settings with a reserved marker. -/
def Settings.checked (settings : Settings) : Except SettingsFailure Settings :=
  (checkMarker settings.marker).map fun _ => settings

end TagFilter
