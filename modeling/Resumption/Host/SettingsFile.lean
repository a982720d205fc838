import Resumption.Host.Work
import Resumption.Text.Utf8

/-!
The file with a host's settings. A host without the file works with the settings that hold when
nothing is set.
-/

namespace Resumption.SettingsFile

/-- The settings under a path; those that are not given there are taken from the environment. -/
def load (environment : Environment) (path : Path) : Work Settings := do
  let initial := Settings.default environment
  if ← Script.request (.isPresent path) then
    let content ← Work.step (.readSettings path) (Script.request (.read path))
    let some text := content.text? | throw (.during (.readSettings path) (.storage .noText))
    match Settings.ofText initial text with
    | .ok settings => return settings
    | .error e => throw (.during (.parseSettings path) (.settingsText e))
  else return initial

/-- The settings under the path that the environment names. -/
def loadDefault (environment : Environment) : Work Settings :=
  load environment environment.settingsPath

/-- Keeps settings under a path. The directory is made before it is known whether the settings can
be written. -/
def save (path : Path) (settings : Settings) : Work Unit := do
  if let some directory := path.parent? then
    Work.step (.makeSettingsDirectory directory) (Script.makeDirectories directory)
  let some text := settings.text? | throw .unwritableSettings
  Work.step (.writeSettings path) (Script.request (.write path (Bytes.ofText text)))

end Resumption.SettingsFile
