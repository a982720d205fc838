import Resumption.Key
import Resumption.Storage.Volume

/-!
What a host does to its files, as data: a script asks for one operation after another, and what it
does next depends on the answers. Running a script on a machine answers each request in turn. Since
a script can be cut off after any request, it also says in which states a stopped host may leave its
files.
-/

namespace Resumption

/-- An operation that a script asks for. -/
inductive Request
  | isPresent (path : Path)
  | isDirectory (path : Path)
  | makeDirectory (path : Path)
  | read (path : Path)
  | write (path : Path) (content : Bytes)
  | create (path : Path)
  | move (source target : Path)
  | remove (path : Path)
  /-- A new random ticket key. -/
  | drawKey
deriving DecidableEq

/-- What the answer to a request can be. -/
@[reducible] def Request.Answer : Request → Type
  | isPresent _ | isDirectory _ => Bool
  | read _ => Except StorageError Bytes
  | drawKey => TicketKey
  | makeDirectory _ | write _ _ | create _ | move _ _ | remove _ => Except StorageError Unit

/-- Requests, each depending on the answers before it, up to a result. -/
inductive Script (α : Type) : Type
  | done (a : α)
  | ask (request : Request) (next : request.Answer → Script α)

namespace Script

variable {α β γ : Type}

/-- A script that goes on with what another one gives. -/
protected def bind : Script α → (α → Script β) → Script β
  | done a, f => f a
  | ask request next, f => ask request fun answer => (next answer).bind f

instance : Monad Script where
  pure := done
  bind := Script.bind

@[simp] theorem pure_eq_done (a : α) : (pure a : Script α) = done a := rfl

@[simp] theorem done_bind (a : α) (f : α → Script β) : done a >>= f = f a := rfl

@[simp] theorem ask_bind (request : Request) (next : request.Answer → Script α)
    (f : α → Script β) : ask request next >>= f = ask request fun answer => next answer >>= f := rfl

theorem bind_done (s : Script α) : s >>= done = s := by
  induction s with
  | done a => rfl
  | ask request next ih => simp [ih]

theorem bind_assoc (s : Script α) (f : α → Script β) (g : β → Script γ) :
    s >>= f >>= g = s >>= fun a => f a >>= g := by
  induction s with
  | done a => rfl
  | ask request next ih => simp [ih]

instance : LawfulMonad Script :=
  LawfulMonad.mk' Script bind_done (fun _ _ => rfl) bind_assoc

/-- Asks for one operation. -/
def request (r : Request) : Script r.Answer :=
  ask r done

end Script

/-- What scripts run on: a volume, and a source of random keys of which some have been drawn. -/
structure Machine where
  volume : Volume
  keys : Nat → TicketKey
  drawn : Nat

namespace Machine

/-- The machine after an operation on its volume, and how the operation went. -/
def after (m : Machine) (changed : Except StorageError Volume) :
    Except StorageError Unit × Machine :=
  match changed with
  | .ok volume => (.ok (), { m with volume })
  | .error e => (.error e, m)

/-- The answer to a request, and the machine afterwards. -/
def answer (m : Machine) : (r : Request) → r.Answer × Machine
  | .isPresent path => (m.volume.isPresent path, m)
  | .isDirectory path => (m.volume.isDirectory path, m)
  | .makeDirectory path => m.after (m.volume.makeDirectory path)
  | .read path => (m.volume.read path, m)
  | .write path content => m.after (m.volume.write path content)
  | .create path => m.after (m.volume.create path)
  | .move source target => m.after (m.volume.move source target)
  | .remove path => m.after (m.volume.remove path)
  | .drawKey => (m.keys m.drawn, { m with drawn := m.drawn + 1 })

end Machine

namespace Script

variable {α β : Type}

/-- The result of a script, and the machine afterwards. -/
def run : Script α → Machine → α × Machine
  | done a, m => (a, m)
  | ask r next, m => (next (m.answer r).1).run (m.answer r).2

@[simp] theorem run_done (a : α) (m : Machine) : (done a).run m = (a, m) := rfl

@[simp] theorem run_request (r : Request) (m : Machine) : (request r).run m = m.answer r := rfl

theorem run_bind (s : Script α) (f : α → Script β) (m : Machine) :
    (s >>= f).run m = (f (s.run m).1).run (s.run m).2 := by
  induction s generalizing m with
  | done a => rfl
  | ask r next ih => exact ih (m.answer r).1 (m.answer r).2

end Script
end Resumption
