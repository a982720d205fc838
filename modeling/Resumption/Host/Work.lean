import Resumption.Host.Error
import Resumption.Storage.Directories

/-!
The work of a host: a script over its files that may fail on the way. A failure ends the work; what
was done to the files before it stays done.
-/

namespace Resumption

/-- A script that gives a result or the reason why there is none. -/
abbrev Work (α : Type) := ExceptT HostError Script α

namespace Work

variable {α : Type}

/-- A step of the work: what a script over the files gives. -/
def step (step : Step) (script : Script (Except StorageError α)) : Work α :=
  ExceptT.mk do return (← script).mapError fun e => .during step (.storage e)

/-- Work whose failures are those of a step. -/
def within (step : Step) (work : Work α) : Work α :=
  ExceptT.adapt (.during step) work

end Work
end Resumption
