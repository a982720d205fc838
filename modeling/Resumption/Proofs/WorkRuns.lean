import Resumption.Host.Work

/-! Work on a machine that serves every request, one step after another. -/
namespace Resumption.Work

variable {α β : Type} {m m' : Machine}

theorem run_bind_ok {work : Work α} {a : α} (ran : work.run.run m = (.ok a, m')) (f : α → Work β) :
    (work >>= f).run.run m = (f a).run.run m' := by
  rw [ExceptT.run_bind, Script.run_bind, ran]

theorem run_bind_error {work : Work α} {e : HostError} (ran : work.run.run m = (.error e, m'))
    (f : α → Work β) : (work >>= f).run.run m = (.error e, m') := by
  rw [ExceptT.run_bind, Script.run_bind, ran]
  rfl

theorem run_step_ok {script : Script (Except StorageError α)} {a : α}
    (ran : script.run m = (.ok a, m')) (s : Step) :
    (Work.step s script).run.run m = (.ok a, m') := by
  show (script >>= fun answer => Script.done (answer.mapError _)).run m = _
  rw [Script.run_bind, ran]
  rfl

theorem run_step_error {script : Script (Except StorageError α)} {e : StorageError}
    (ran : script.run m = (.error e, m')) (s : Step) :
    (Work.step s script).run.run m = (.error (.during s (.storage e)), m') := by
  show (script >>= fun answer => Script.done (answer.mapError _)).run m = _
  rw [Script.run_bind, ran]
  rfl

theorem run_present_bind (path : Path) (f : Bool → Work α) (m : Machine) :
    (liftM (Script.request (.isPresent path)) >>= f : Work α).run.run m =
      (f (m.volume.isPresent path)).run.run m := rfl

theorem run_read_bind (s : Step) (path : Path) (f : Bytes → Work α) (m : Machine) :
    (Work.step s (Script.request (.read path)) >>= f).run.run m =
      match m.volume.read path with
      | .ok content => (f content).run.run m
      | .error e => (.error (.during s (.storage e)), m) := by
  cases reads : m.volume.read path with
  | ok content => exact run_bind_ok (run_step_ok (congrArg (·, m) reads) s) f
  | error e => exact run_bind_error (run_step_error (congrArg (·, m) reads) s) f

end Resumption.Work
