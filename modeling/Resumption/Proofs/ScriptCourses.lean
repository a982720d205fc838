import Resumption.Host.Work
import Resumption.Proofs.VolumeFrame

/-! Scripts on a machine that does not always do what it is asked. `reply` is
the answer of such a machine, and `Ensures` says what holds however the answers
turn out: every step of the machine is within a guarantee, and the result fits
the machine that is left. Since each single step is within the guarantee, a host
that is stopped between two requests leaves nothing else behind. -/
namespace Resumption

/-- How a machine takes a request. -/
inductive Outcome
  | served
  /-- The request fails. A write that fails may leave anything in its file. -/
  | failed (left : Option Bytes) (e : StorageError)

/-- The answer of a request that fails. Questions what stands at a path and
draws of keys do not fail. -/
def Request.failure? : (r : Request) → StorageError → Option r.Answer
  | .isPresent _, _ | .isDirectory _, _ | .drawKey, _ => none
  | .read _, e => some (.error e)
  | .makeDirectory _, e | .write _ _, e | .create _, e | .move _ _, e | .remove _, e =>
    some (.error e)

/-- The paths where a request may put a file or take one away. -/
def Request.changes : Request → List Path
  | .write path _ | .create path | .remove path => [path]
  | .move source target => [source, target]
  | .isPresent _ | .isDirectory _ | .makeDirectory _ | .read _ | .drawKey => []

/-- Whether a request changes nothing but one file, and moves nothing there. -/
def Request.isBeside (file : Path) : Request → Bool
  | .write path _ | .create path | .remove path => path = file
  | .makeDirectory _ | .move _ _ => false
  | .isPresent _ | .isDirectory _ | .read _ | .drawKey => true

theorem Request.eq_of_isBeside {r : Request} {file path : Path}
    (beside : r.isBeside file = true) (changed : path ∈ r.changes) : path = file := by
  cases r with
  | write other _ | create other | remove other =>
    rw [List.mem_singleton.mp changed]
    exact of_decide_eq_true beside
  | makeDirectory _ | move _ _ => cases beside
  | isPresent _ | isDirectory _ | read _ | drawKey => cases changed

namespace Machine

variable {m m' : Machine} {place : Place} {r : Request}

/-- The machine after a request that failed. -/
def spoil (m : Machine) : Request → Option Bytes → Machine
  | .write path _, some left => (m.answer (.write path left)).2
  | _, _ => m

/-- The answer to a request that may fail, and the machine afterwards. -/
def reply (m : Machine) (r : Request) : Outcome → r.Answer × Machine
  | .served => m.answer r
  | .failed left e =>
    match r.failure? e with
    | some answer => (answer, m.spoil r left)
    | none => m.answer r

/-- The frame of a file, for machines. -/
def Keeps (place : Place) (m m' : Machine) : Prop :=
  Volume.Keeps place m.volume m'.volume

theorem Keeps.refl (place : Place) (m : Machine) : Keeps place m m :=
  Volume.Keeps.refl place m.volume

theorem Keeps.trans {m'' : Machine} (first : Keeps place m m') (second : Keeps place m' m'') :
    Keeps place m m'' :=
  Volume.Keeps.trans first second

/-- An operation that fails leaves the volume as it is. -/
theorem after_cases (m : Machine) (changed : Except StorageError Volume) :
    (∃ e, m.after changed = (.error e, m)) ∨
      ∃ volume, changed = .ok volume ∧ m.after changed = (.ok (), { m with volume }) := by
  cases changed with
  | error e => exact .inl ⟨e, rfl⟩
  | ok volume => exact .inr ⟨volume, rfl, rfl⟩

theorem after_keeps {changed : Except StorageError Volume}
    (keeps : ∀ volume, changed = .ok volume → Volume.Keeps place m.volume volume) :
    Keeps place m (m.after changed).2 := by
  rcases m.after_cases changed with ⟨e, same⟩ | ⟨volume, done, same⟩ <;> rw [same]
  · exact .refl place m
  · exact keeps volume done

theorem answer_keeps (apart : ∀ path ∈ r.changes, path.place ≠ place) :
    Keeps place m (m.answer r).2 := by
  cases r with
  | isPresent _ | isDirectory _ | read _ | drawKey => exact .refl place m
  | makeDirectory path => exact after_keeps fun _ done => Volume.makeDirectory_keeps done
  | write path content =>
    exact after_keeps fun _ done =>
      Volume.write_keeps done (apart path (by simp [Request.changes]))
  | create path =>
    exact after_keeps fun _ done =>
      Volume.create_keeps done (apart path (by simp [Request.changes]))
  | remove path =>
    exact after_keeps fun _ done =>
      Volume.remove_keeps done (apart path (by simp [Request.changes]))
  | move source target =>
    exact after_keeps fun _ done => Volume.move_keeps done
      (apart source (by simp [Request.changes])) (apart target (by simp [Request.changes]))

theorem spoil_keeps (apart : ∀ path ∈ r.changes, path.place ≠ place) (left : Option Bytes) :
    Keeps place m (m.spoil r left) := by
  unfold spoil
  split
  · exact answer_keeps (r := .write _ _) apart
  · exact .refl place m

/-- However a request turns out, it leaves the files at other places alone. -/
theorem reply_keeps (apart : ∀ path ∈ r.changes, path.place ≠ place) (outcome : Outcome) :
    Keeps place m (m.reply r outcome).2 := by
  unfold reply
  split
  · exact answer_keeps apart
  · split
    · exact spoil_keeps apart _
    · exact answer_keeps apart

/-- Making a directory is done, or it fails and changes nothing. -/
theorem reply_makeDirectory (m : Machine) (path : Path) (outcome : Outcome) :
    (∃ e, m.reply (.makeDirectory path) outcome = (.error e, m)) ∨
      ∃ volume, m.volume.makeDirectory path = .ok volume ∧
        m.reply (.makeDirectory path) outcome = (.ok (), { m with volume }) := by
  cases outcome with
  | served => exact m.after_cases (m.volume.makeDirectory path)
  | failed left e => exact .inl ⟨e, rfl⟩

/-- A move is done, or it fails and changes nothing. -/
theorem reply_move (m : Machine) (source target : Path) (outcome : Outcome) :
    (∃ e, m.reply (.move source target) outcome = (.error e, m)) ∨
      ∃ volume, m.volume.move source target = .ok volume ∧
        m.reply (.move source target) outcome = (.ok (), { m with volume }) := by
  cases outcome with
  | served => exact m.after_cases (m.volume.move source target)
  | failed left e => exact .inl ⟨e, rfl⟩

/-- Where a write is reported as done, all of it is done. -/
theorem reply_write (m : Machine) (path : Path) (content : Bytes) (outcome : Outcome) :
    (∃ e, (m.reply (.write path content) outcome).1 = .error e) ∨
      ∃ volume, m.volume.write path content = .ok volume ∧
        m.reply (.write path content) outcome = (.ok (), { m with volume }) := by
  cases outcome with
  | served =>
    rcases m.after_cases (m.volume.write path content) with ⟨e, same⟩ | done
    · exact .inl ⟨e, congrArg Prod.fst same⟩
    · exact .inr done
  | failed left e => exact .inl ⟨e, rfl⟩

/-- What is read is what the file holds. -/
theorem reply_read (m : Machine) (path : Path) (outcome : Outcome) :
    (∃ e, m.reply (.read path) outcome = (.error e, m)) ∨
      ∃ content, m.volume.read path = .ok content ∧
        m.reply (.read path) outcome = (.ok content, m) := by
  cases outcome with
  | served =>
    cases reads : m.volume.read path with
    | error e => exact .inl ⟨e, congrArg (·, m) reads⟩
    | ok content => exact .inr ⟨content, rfl, congrArg (·, m) reads⟩
  | failed left e => exact .inl ⟨e, rfl⟩

theorem reply_isDirectory (m : Machine) (path : Path) (outcome : Outcome) :
    m.reply (.isDirectory path) outcome = (m.volume.isDirectory path, m) := by
  cases outcome <;> rfl

theorem reply_isPresent (m : Machine) (path : Path) (outcome : Outcome) :
    m.reply (.isPresent path) outcome = (m.volume.isPresent path, m) := by
  cases outcome <;> rfl

end Machine

namespace Script

variable {α β : Type} {G H : Machine → Machine → Prop} {P Q : α → Machine → Prop} {m : Machine}
  {place : Place}

/-- However the answers to a script turn out, each changes the machine within a
guarantee, and the result fits the machine in the end. -/
def Ensures (guarantee : Machine → Machine → Prop) (post : α → Machine → Prop) :
    Script α → Machine → Prop
  | done a, m => post a m
  | ask r next, m => ∀ outcome, guarantee m (m.reply r outcome).2 ∧
      (next (m.reply r outcome).1).Ensures guarantee post (m.reply r outcome).2

theorem ensures_request {r : Request} (apart : ∀ path ∈ r.changes, path.place ≠ place) :
    (request r).Ensures (Machine.Keeps place) (fun _ _ => True) m :=
  fun outcome => ⟨Machine.reply_keeps apart outcome, trivial⟩

/-- Where nothing is asked of the steps and the result, nothing can go wrong. -/
theorem ensures_trivial (s : Script α) (m : Machine) :
    s.Ensures (fun _ _ => True) (fun _ _ => True) m := by
  induction s generalizing m with
  | done a => trivial
  | ask r next ih => exact fun outcome => ⟨trivial, ih _ _⟩

theorem Ensures.bind {s : Script α} {f : α → Script β} {R : β → Machine → Prop}
    (first : s.Ensures G P m) (second : ∀ a m', P a m' → (f a).Ensures G R m') :
    (s >>= f).Ensures G R m := by
  induction s generalizing m with
  | done a => exact second a m first
  | ask r next ih => exact fun outcome => ⟨(first outcome).1, ih _ (first outcome).2⟩

theorem Ensures.mono {s : Script α} (ensures : s.Ensures G P m)
    (guarantee : ∀ m m', G m m' → H m m') (post : ∀ a m', P a m' → Q a m') :
    s.Ensures H Q m := by
  induction s generalizing m with
  | done a => exact post a m ensures
  | ask r next ih =>
    exact fun outcome => ⟨guarantee _ _ (ensures outcome).1, ih _ (ensures outcome).2⟩

/-- Where a script only takes steps within a guarantee, so is the way from a machine
before it to each of its steps. -/
theorem Ensures.since {s : Script α} {m' : Machine}
    (trans : ∀ m m' m'', G m m' → G m' m'' → G m m'')
    (begun : G m m') (ensures : s.Ensures G P m') :
    s.Ensures (fun m₁ m₂ => G m m₁ ∧ G m₁ m₂) (fun a m'' => G m m'' ∧ P a m'') m' := by
  induction s generalizing m' with
  | done a => exact ⟨begun, ensures⟩
  | ask r next ih =>
    intro outcome
    obtain ⟨step, rest⟩ := ensures outcome
    exact ⟨⟨begun, step⟩, ih _ (trans _ _ _ begun step) rest⟩

/-- The same for the way from its beginning to its end. -/
theorem Ensures.track {s : Script α} (refl : ∀ m, G m m)
    (trans : ∀ m m' m'', G m m' → G m' m'' → G m m'') (ensures : s.Ensures G P m) :
    s.Ensures G (fun a m' => G m m' ∧ P a m') m :=
  (ensures.since trans (refl m)).mono (fun _ _ => And.right) fun _ _ => id

/-- The result of a script whose requests turn out as listed, and the machine
afterwards. Requests beyond the list are served. -/
def play : Script α → List Outcome → Machine → α × Machine
  | done a, _, m => (a, m)
  | ask r next, outcomes, m =>
    let (answer, m') := m.reply r (outcomes.headD .served)
    (next answer).play outcomes.tail m'

theorem play_nil (s : Script α) (m : Machine) : s.play [] m = s.run m := by
  induction s generalizing m with
  | done a => rfl
  | ask r next ih => exact ih _ _

/-- What is ensured holds wherever the script ends. -/
theorem Ensures.play {s : Script α} (refl : ∀ m, G m m)
    (trans : ∀ m m' m'', G m m' → G m' m'' → G m m'') (ensures : s.Ensures G P m)
    (outcomes : List Outcome) :
    G m (s.play outcomes m).2 ∧ P (s.play outcomes m).1 (s.play outcomes m).2 := by
  induction s generalizing m outcomes with
  | done a => exact ⟨refl m, ensures⟩
  | ask r next ih =>
    obtain ⟨step, rest⟩ := ensures (outcomes.headD .served)
    obtain ⟨steps, ending⟩ := ih _ rest outcomes.tail
    exact ⟨trans _ _ _ step steps, ending⟩

/-- What is ensured of the result alone holds wherever the script ends. -/
theorem Ensures.of_play {s : Script α}
    (ensures : s.Ensures (fun _ _ => True) P m) (outcomes : List Outcome) :
    P (s.play outcomes m).1 (s.play outcomes m).2 :=
  (ensures.play (fun _ => trivial) (fun _ _ _ _ _ => trivial) outcomes).2

/-- The machine that a script leaves when it is stopped after as many requests as are
listed. -/
def stopped : Script α → List Outcome → Machine → Machine
  | done _, _, m => m
  | ask _ _, [], m => m
  | ask r next, outcome :: outcomes, m =>
    (next (m.reply r outcome).1).stopped outcomes (m.reply r outcome).2

/-- What every step keeps holds wherever a script is stopped. -/
theorem Ensures.stopped {I : Machine → Prop} {s : Script α} (ensures : s.Ensures G P m)
    (begun : I m) (step : ∀ m m', I m → G m m' → I m') (outcomes : List Outcome) :
    I (s.stopped outcomes m) := by
  induction s generalizing m outcomes with
  | done a => exact begun
  | ask r next ih =>
    cases outcomes with
    | nil => exact begun
    | cons outcome outcomes =>
      obtain ⟨first, rest⟩ := ensures outcome
      exact ih _ rest (step _ _ begun first) outcomes

/-- What has to hold of a result, whether it is a success or a failure. -/
def ending {ε : Type} (success : α → Machine → Prop) (failure : ε → Machine → Prop) :
    Except ε α → Machine → Prop
  | .ok a => success a
  | .error e => failure e

end Script

namespace Work

variable {α β : Type} {G : Machine → Machine → Prop} {m : Machine}
  {success : α → Machine → Prop} {failure : HostError → Machine → Prop}

/-- `Script.Ensures` for work that may fail on the way. -/
def Ensures (guarantee : Machine → Machine → Prop) (success : α → Machine → Prop)
    (failure : HostError → Machine → Prop) (work : Work α) (m : Machine) : Prop :=
  work.run.Ensures guarantee (Script.ending success failure) m

theorem Ensures.bind {work : Work α} {f : α → Work β} {success' : β → Machine → Prop}
    (first : Ensures G success failure work m)
    (second : ∀ a m', success a m' → Ensures G success' failure (f a) m') :
    Ensures G success' failure (work >>= f) m := by
  unfold Ensures
  rw [ExceptT.run_bind]
  refine Script.Ensures.bind first fun answer m' holds => ?_
  cases answer with
  | ok a => exact second a m' holds
  | error e => exact holds

/-- Where nothing is asked of the work, nothing can go wrong. -/
theorem ensures_trivial (work : Work α) (m : Machine) :
    Ensures (fun _ _ => True) (fun _ _ => True) (fun _ _ => True) work m := by
  refine (Script.ensures_trivial work.run m).mono (fun _ _ => id) fun answer _ _ => ?_
  cases answer <;> trivial

theorem ensures_lift {script : Script α} (ensures : script.Ensures G success m) :
    Ensures G success failure (liftM script : Work α) m :=
  Script.Ensures.bind ensures fun _ _ holds => holds

/-- A step succeeds and fails as its script does. -/
theorem ensures_step {s : Step} {script : Script (Except StorageError α)}
    (ensures : script.Ensures G
      (Script.ending success fun e => failure (.during s (.storage e))) m) :
    Ensures G success failure (Work.step s script) m := by
  refine Script.Ensures.bind ensures fun answer m' holds => ?_
  cases answer with
  | ok a => exact holds
  | error e => exact holds

/-- The same where it does not matter how the step turns out. -/
theorem ensures_step_of {s : Step} {script : Script (Except StorageError α)}
    {P : Machine → Prop} (ensures : script.Ensures G (fun _ => P) m) :
    Ensures G (fun _ => P) (fun _ => P) (Work.step s script) m := by
  refine ensures_step (ensures.mono (fun _ _ => id) fun answer m' holds => ?_)
  cases answer <;> exact holds

theorem ensures_isPresent (stays : G m m) (path : Path) :
    Ensures G (fun present m' => m' = m ∧ present = m.volume.isPresent path) failure
      (liftM (Script.request (.isPresent path)) : Work Bool) m := by
  refine ensures_lift fun outcome => ?_
  rw [Machine.reply_isPresent]
  exact ⟨stays, rfl, rfl⟩

theorem ensures_read (stays : G m m) (s : Step) (path : Path) :
    Ensures G (fun content m' => m' = m ∧ m.volume.read path = .ok content)
      (fun e m' => m' = m ∧ ∃ cause, e = .during s (.storage cause))
      (Work.step s (Script.request (.read path))) m := by
  refine ensures_step fun outcome => ?_
  rcases m.reply_read path outcome with ⟨e, same⟩ | ⟨content, reads, same⟩ <;> rw [same]
  · exact ⟨stays, rfl, e, rfl⟩
  · exact ⟨stays, rfl, reads⟩

theorem ensures_within {s : Step} {work : Work α}
    (ensures : Ensures G success (fun e => failure (.during s e)) work m) :
    Ensures G success failure (Work.within s work) m := by
  refine Script.Ensures.bind ensures fun answer m' holds => ?_
  cases answer with
  | ok a => exact holds
  | error e => exact holds

theorem Ensures.mono {work : Work α} {H : Machine → Machine → Prop}
    {success' : α → Machine → Prop} {failure' : HostError → Machine → Prop}
    (ensures : Ensures G success failure work m) (guarantee : ∀ m m', G m m' → H m m')
    (succeeds : ∀ a m', success a m' → success' a m')
    (fails : ∀ e m', failure e m' → failure' e m') : Ensures H success' failure' work m := by
  refine Script.Ensures.mono ensures guarantee fun answer m' holds => ?_
  cases answer with
  | ok a => exact succeeds a m' holds
  | error e => exact fails e m' holds

/-- The same under a weaker guarantee and with nothing said of failures. -/
theorem Ensures.onSuccess {work : Work α} {H : Machine → Machine → Prop}
    (ensures : Ensures G success failure work m) (guarantee : ∀ m m', G m m' → H m m') :
    Ensures H success (fun _ _ => True) work m :=
  ensures.mono guarantee (fun _ _ => id) fun _ _ _ => trivial

/-- Work that leaves the file at a place alone, however it turns out. -/
def Spares (place : Place) (work : Work α) : Prop :=
  ∀ m, Ensures (Machine.Keeps place) (fun _ _ => True) (fun _ _ => True) work m

variable {place : Place}

theorem spares_pure (a : α) : Spares place (pure a : Work α) := fun _ => trivial

theorem spares_throw (e : HostError) : Spares place (throw e : Work α) := fun _ => trivial

theorem Spares.bind {work : Work α} {f : α → Work β} (first : Spares place work)
    (second : ∀ a, Spares place (f a)) : Spares place (work >>= f) :=
  fun m => (first m).bind fun a m' _ => second a m'

theorem spares_lift {r : Request} (apart : ∀ path ∈ r.changes, path.place ≠ place) :
    Spares place (liftM (Script.request r) : Work r.Answer) :=
  fun _ => ensures_lift (Script.ensures_request apart)

theorem spares_step {s : Step} {script : Script (Except StorageError α)}
    (spares : ∀ m, script.Ensures (Machine.Keeps place) (fun _ _ => True) m) :
    Spares place (Work.step s script) := by
  refine fun m => ensures_step ((spares m).mono (fun _ _ => id) fun answer m' _ => ?_)
  cases answer <;> trivial

/-- Work that spares a file has kept it when it ends, and at every step before. -/
theorem Spares.ensures {work : Work α} (spares : Spares place work) (m : Machine) :
    Ensures (Machine.Keeps place) (fun _ m' => Machine.Keeps place m m')
      (fun _ m' => Machine.Keeps place m m') work m := by
  refine Script.Ensures.mono ((spares m).track (.refl place) fun _ _ _ => .trans)
    (fun _ _ => id) fun answer m' holds => ?_
  cases answer <;> exact holds.1

end Work
end Resumption
