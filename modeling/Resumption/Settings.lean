import Resumption.Settings.Environment
import Resumption.Settings.LogFilter
import Resumption.Settings.Tickets

/-!
The settings of a host: where it keeps its data, what it logs, how its ticket office works and how
many indices it reserves at a time. They are checked in that order, and the first fault is reported.
-/

namespace Resumption

/-- Why settings are refused. -/
inductive SettingsError
  | logLevel (found : String)
  | tickets (reason : String)
  | reserveBlock (found : Nat)
deriving DecidableEq, Repr

namespace SettingsError

/-- The error in words. -/
def message : SettingsError → String
  | logLevel found =>
    "log_level must be a level (trace, debug, info, warn, error, off) or target=level " ++
      s!"directives; got {found}"
  | tickets reason => s!"invalid [resume] settings: {reason}"
  | reserveBlock found => s!"reserve_block must be greater than 0, got {found}"

/-- The error as developers see it. -/
def describe : SettingsError → String
  | logLevel found => s!"InvalidLogLevel({Text.quote found})"
  | tickets reason => s!"InvalidResume({Text.quote reason})"
  | reserveBlock found => s!"InvalidReserveBlock({found})"

end SettingsError

/-- The settings of a host. -/
structure Settings where
  dataDir : String
  logLevel : String := "info"
  tickets : TicketSettings := {}
  /-- How many indices are reserved on disk at a time. -/
  reserveBlock : UInt64 := 1024
deriving DecidableEq, Repr

namespace Settings

/-- The settings of a host for which nothing is set. -/
def default (e : Environment) : Settings where
  dataDir := e.defaultDataDir.text

/-- The settings with what the environment overrides: the log level and the data directory. -/
def override (settings : Settings) (e : Environment) : Settings :=
  { settings with
    logLevel := (Environment.filled e.logLevel).getD settings.logLevel
    dataDir := (Environment.filled e.dataDir).getD settings.dataDir }

/-- Refuses settings that no host can work with. -/
def validate (settings : Settings) : Except SettingsError Unit :=
  if LogFilter.isValid settings.logLevel then
    match settings.tickets.validate with
    | .error e => .error (.tickets e.message)
    | .ok () =>
      if settings.reserveBlock = 0 then .error (.reserveBlock settings.reserveBlock.toNat)
      else .ok ()
  else .error (.logLevel settings.logLevel)

end Settings
end Resumption
