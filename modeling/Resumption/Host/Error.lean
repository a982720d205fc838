import Resumption.Error
import Resumption.Settings.Text
import Resumption.Storage.Volume

/-!
Why a host cannot do its work. The cause is what went wrong in the end; the steps around it say what
the host was about to do, from the outside in.
-/

namespace Resumption

/-- What a host was about to do when something went wrong. -/
inductive Step
  | readSettings (path : Path)
  | parseSettings (path : Path)
  | makeSettingsDirectory (path : Path)
  | writeSettings (path : Path)
  | checkSettings
  | makeDataDirectory (path : Path)
  | readKey (path : Path)
  | makeKeyDirectory (path : Path)
  | removeStaleKey (temporary : Path)
  | createKey (temporary : Path)
  | writeKey (temporary : Path)
  | moveKey (temporary path : Path)
  | readWatermark (path : Path)
  | makeWatermarkDirectory (path : Path)
  | writeWatermark (temporary : Path)
  | moveWatermark (temporary path : Path)
  | startOffice
  | extendReservation
  | issueTicket
deriving DecidableEq, Repr

/-- The step in words. -/
def Step.message : Step → String
  | readSettings path => s!"Failed to read config file: {path.text}"
  | parseSettings path => s!"Failed to parse config file: {path.text}"
  | makeSettingsDirectory path => s!"Failed to create config directory: {path.text}"
  | writeSettings path => s!"Failed to write config file: {path.text}"
  | checkSettings => "Invalid configuration"
  | makeDataDirectory path => s!"Failed to create data directory: {path.text}"
  | readKey path => s!"Failed to read ticket key file: {path.text}"
  | makeKeyDirectory path => s!"Failed to create directory: {path.text}"
  | removeStaleKey temporary => s!"Failed to remove stale temp key: {temporary.text}"
  | createKey temporary => s!"Failed to create temp key: {temporary.text}"
  | writeKey temporary => s!"Failed to write temp key: {temporary.text}"
  | moveKey temporary path => s!"Failed to rename temp key {temporary.text} to {path.text}"
  | readWatermark path => s!"Failed to read watermark: {path.text}"
  | makeWatermarkDirectory path => s!"Failed to create watermark directory: {path.text}"
  | writeWatermark temporary => s!"Failed to write temp watermark: {temporary.text}"
  | moveWatermark temporary path =>
    s!"Failed to rename temp watermark {temporary.text} to {path.text}"
  | startOffice => "Failed to create resume handler"
  | extendReservation => "Failed to extend ticket index reservation"
  | issueTicket => "Failed to issue resume ticket"

/-- Why a host cannot do its work. -/
inductive HostError
  | protocol (cause : Error)
  | settings (cause : SettingsError)
  | storage (cause : StorageError)
  | settingsText (cause : Settings.TextError)
  /-- Settings with a number that no document can hold. -/
  | unwritableSettings
  /-- A key file that does not hold as many bytes as a key has. -/
  | keyLength (found : Nat)
  /-- A watermark file that is no watermark. -/
  | unreadableWatermark (path : Path)
  | watermarkVersion (found : Nat) (path : Path)
  /-- The failure of a step. -/
  | during (step : Step) (cause : HostError)
deriving DecidableEq

namespace HostError

/-- The error in words: the steps from the outside in, then the cause. -/
def message : HostError → String
  | protocol cause => cause.message
  | settings cause => cause.message
  | storage cause => cause.message
  | settingsText cause => cause.message
  | unwritableSettings => "Failed to serialize configuration to TOML"
  | keyLength found => s!"Invalid ticket key file: expected {keySize} bytes, got {found}"
  | unreadableWatermark path => s!"Failed to parse watermark: {path.text}"
  | watermarkVersion found path => s!"Unsupported watermark version {found} in {path.text}"
  | during step cause => s!"{step.message}: {cause.message}"

/-- The cause behind all steps. -/
def cause : HostError → HostError
  | during _ inner => inner.cause
  | e => e

end HostError
end Resumption
