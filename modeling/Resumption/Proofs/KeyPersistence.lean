import Resumption.Proofs.PathViews
import Resumption.Proofs.WorkRuns

/-! A key file over many calls, any of which may fail or be stopped on the way. What
stands under the path stays for good. Where nothing stood, nothing stands until a
whole new key is moved there, and then that key stays for good. Every call that
gives a key therefore gives the one that is in the file from then on. Files arrive
there by that move alone, so what was left in the file beside is never part of a key. -/
namespace Resumption.KeyFile

variable {path : Path} {m m' : Machine} {content : Bytes} {key : TicketKey}

/-- What stands under the path is what stood there, or where nothing stood it is a
key that was drawn in between. -/
def Persists (path : Path) (m m' : Machine) : Prop :=
  m'.volume.view path = m.volume.view path ∨
    m.volume.view path = none ∧ ∃ k, m.drawn ≤ k ∧ k < m'.drawn ∧
      m'.volume.view path = some (.file (m.keys k).octets.toList)

/-- The content of a file that stood where the path leads, or that of a key that was
drawn in between. -/
def Sourced (path : Path) (m m' : Machine) (content : Bytes) : Prop :=
  m.volume.get? path.place = some (.file content) ∨
    ∃ k, m.drawn ≤ k ∧ k < m'.drawn ∧ content = (m.keys k).octets.toList

/-- What calls make of a machine, as far as the path goes. -/
structure Evolves (path : Path) (m m' : Machine) : Prop where
  keys : m'.keys = m.keys
  drawn : m.drawn ≤ m'.drawn
  /-- No other file arrives there, also where the path turns back. -/
  sources : ∀ content, m'.volume.get? path.place = some (.file content) →
    Sourced path m m' content
  path : m.volume.Rooted → m.volume.isDirect path = true →
    m'.volume.Rooted ∧ m'.volume.isDirect path = true ∧ Persists path m m'

theorem evolves_of_steady (steady : Machine.Steady path m m') : Evolves path m m' where
  keys := steady.keys
  drawn := steady.drawn
  sources content stands := .inl (steady.arrivals content stands)
  path rooted direct :=
    have ⟨rooted', direct', same⟩ := steady.volume rooted direct
    ⟨rooted', direct', .inl same⟩

theorem Evolves.refl (path : Path) (m : Machine) : Evolves path m m :=
  evolves_of_steady (.refl path m)

/-- What has a source later has one in the longer time: it stood where the path leads in
between, or it was drawn later. -/
theorem Evolves.sourced {m'' : Machine} (first : Evolves path m m') (later : m'.drawn ≤ m''.drawn)
    (source : Sourced path m' m'' content) : Sourced path m m'' content := by
  rcases source with stood | ⟨k, from', upto, same⟩
  · rcases first.sources content stood with stood | ⟨k, from', upto, same⟩
    · exact .inl stood
    · exact .inr ⟨k, from', Nat.lt_of_lt_of_le upto later, same⟩
  · exact .inr ⟨k, Nat.le_trans first.drawn from', upto, first.keys ▸ same⟩

/-- A key that was drawn earlier was drawn in the longer time as well. -/
theorem Evolves.trans {m'' : Machine} (first : Evolves path m m') (second : Evolves path m' m'') :
    Evolves path m m'' := by
  refine ⟨second.keys.trans first.keys, Nat.le_trans first.drawn second.drawn,
    fun content stands => first.sourced second.drawn (second.sources content stands),
    fun rooted direct => ?_⟩
  obtain ⟨rooted', direct', same⟩ := first.path rooted direct
  obtain ⟨rooted'', direct'', same'⟩ := second.path rooted' direct'
  refine ⟨rooted'', direct'', ?_⟩
  rcases same with same | ⟨none, k, from', upto, stands⟩
  · rcases same' with same' | ⟨none, k, from', upto, stands⟩
    · exact .inl (same'.trans same)
    · exact .inr ⟨same ▸ none, k, Nat.le_trans first.drawn from', upto, first.keys ▸ stands⟩
  · rcases same' with same' | ⟨none', -⟩
    · exact .inr ⟨none, k, from', Nat.lt_of_lt_of_le upto second.drawn, same'.trans stands⟩
    · rw [none'] at stands
      cases stands

/-- Whatever is there stays, since a path that leads to something does not turn back. -/
theorem Evolves.stays (evolves : Evolves path m m') (rooted : m.volume.Rooted) {entry : Entry}
    (stands : m.volume.view path = some entry) : m'.volume.view path = some entry := by
  have direct := Volume.isDirect_of_view (by rw [stands]; simp)
  obtain ⟨-, -, same | ⟨none, -⟩⟩ := evolves.path rooted direct
  · exact same.trans stands
  · rw [none] at stands
    cases stands

/-! One call -/

/-- What the content of a key file gives. -/
def interpret (content : Bytes) : Except HostError TicketKey :=
  match Octets.ofList? keySize content with
  | some octets => .ok ⟨octets⟩
  | none => .error (.keyLength content.length)

theorem interpret_toList (key : TicketKey) : interpret key.octets.toList = .ok key := by
  have found : Octets.ofList? keySize key.octets.toList = some key.octets :=
    Octets.ofList?_toList key.octets
  unfold interpret
  rw [found]

theorem eq_of_octets {key key' : TicketKey}
    (same : key.octets.toList = key'.octets.toList) : key = key' := by
  cases key
  cases key'
  exact congrArg TicketKey.mk (Octets.ext same)

theorem interpret_of_length (wrong : content.length ≠ keySize) :
    interpret content = .error (.keyLength content.length) := by
  unfold interpret Octets.ofList?
  rw [dif_neg wrong]

theorem eq_of_interpret (gives : interpret content = .ok key) : key.octets.toList = content := by
  by_cases fits : content.length = keySize
  · unfold interpret Octets.ofList? at gives
    rw [dif_pos fits] at gives
    cases gives
    rfl
  · rw [interpret_of_length fits] at gives
    cases gives

/-- The machine after a key was drawn. -/
private def drawn (m : Machine) : Machine := { m with drawn := m.drawn + 1 }

private theorem steady_drawn (path : Path) (m : Machine) : Machine.Steady path m (drawn m) :=
  Machine.steady_drawKey path m

/-- Work after a key was drawn that leaves the path alone until the key stands there. -/
private def Stores (path : Path) (m : Machine) (work : Work Unit) : Prop :=
  ∀ m', Machine.Steady path (drawn m) m' →
    Work.Ensures (fun _ m₂ => Evolves path m m₂)
      (fun _ m₂ => Evolves path m m₂ ∧
        m₂.volume.view path = some (.file (m.keys m.drawn).octets.toList))
      (fun _ m₂ => Evolves path m m₂) work m'

private theorem evolves_of_drawn (steady : Machine.Steady path (drawn m) m') :
    Evolves path m m' :=
  evolves_of_steady ((steady_drawn path m).trans steady)

private theorem framing (path : Path) : Framing path (temporary path) (Machine.Steady path) :=
  Machine.framing_steady (by decide) (by decide) path

private theorem request_aside (r : Request) (beside : r.isBeside (temporary path) = true)
    (begun : Machine.Steady path (drawn m) m') :
    (Script.request r).Ensures (fun _ m₂ => Evolves path m m₂)
      (fun _ m₂ => Machine.Steady path (drawn m) m₂) m' :=
  ((framing path).request beside begun).mono
    (fun _ _ steps => evolves_of_drawn (steps.1.trans steps.2)) fun _ _ => id

private theorem Stores.after {work : Work Unit} (stores : Stores path m work) (s : Step)
    {script : Script (Except StorageError Unit)}
    (aside : ∀ m', Machine.Steady path (drawn m) m' →
      script.Ensures (fun _ m₂ => Evolves path m m₂)
        (fun _ m₂ => Machine.Steady path (drawn m) m₂) m') :
    Stores path m (do Work.step s script; work) := by
  intro m' begun
  have ensures := Work.ensures_step_of (aside m' begun) (s := s)
  exact (ensures.mono (fun _ _ => id) (fun _ _ => id) fun _ _ => evolves_of_drawn).bind
    fun _ m₂ before => stores m₂ before

/-- The move brings the key to where nothing stood. -/
private theorem stores_replace (absent : m.volume.view path = none) :
    Stores path m (do
      Work.step (.writeKey (temporary path))
        (Script.request (.write (temporary path) (m.keys m.drawn).octets.toList))
      Work.step (.moveKey (temporary path) path)
        (Script.request (.move (temporary path) path))) := by
  intro m' begun
  refine ((framing path).replace _ _ begun
    (fun _ _ before step => evolves_of_drawn (before.trans step)) ?_).mono (fun _ _ => id)
      (fun _ _ => id) fun _ _ => evolves_of_drawn
  intro m₁ volume before done reads
  have stands := Volume.read_eq_ok_iff_view.mp reads
  have evolves : Evolves path m { m₁ with volume } := by
    refine ⟨before.keys, Nat.le_trans (Nat.le_succ _) before.drawn, fun content found => ?_,
      fun rooted direct => ?_⟩
    · have arrived := found.symm.trans (Volume.get?_of_view stands)
      have same := Entry.file.inj (Option.some.inj arrived)
      exact .inr ⟨m.drawn, Nat.le_refl _, before.drawn, same⟩
    obtain ⟨rooted₁, -, -⟩ := before.volume rooted direct
    exact ⟨rooted₁.move done, Volume.isDirect_of_view (by simp [stands]),
      .inr ⟨absent, m.drawn, Nat.le_refl _, before.drawn, stands⟩⟩
  exact ⟨evolves, evolves, stands⟩

private theorem stores_save (absent : m.volume.view path = none) :
    Stores path m (save path (m.keys m.drawn)) := by
  have create : Stores path m (do
      Work.step (.createKey (temporary path)) (Script.request (.create (temporary path)))
      Work.step (.writeKey (temporary path))
        (Script.request (.write (temporary path) (m.keys m.drawn).octets.toList))
      Work.step (.moveKey (temporary path) path)
        (Script.request (.move (temporary path) path))) :=
    (stores_replace absent).after _ fun _ =>
      request_aside (.create (temporary path)) (decide_eq_true rfl)
  have remove := create.after (.removeStaleKey (temporary path)) fun _ =>
    request_aside (.remove (temporary path)) (decide_eq_true rfl)
  intro m' begun
  have asked := request_aside (.isPresent (temporary path)) rfl begun
  refine (Work.ensures_lift asked).bind fun stale m₂ before => ?_
  cases stale with
  | false => exact create m₂ before
  | true => exact remove m₂ before

/-- A call where something stands changes nothing. It gives what the file says, or the
file does not read. -/
theorem load_ensures_of_present (present : m.volume.isPresent path = true) :
    Work.Ensures (fun _ m' => m' = m)
      (fun key m' => m' = m ∧
        ∃ content, m.volume.read path = .ok content ∧ interpret content = .ok key)
      (fun e m' => m' = m ∧ ((∃ cause, e = .during (.readKey path) (.storage cause)) ∨
        ∃ content, m.volume.read path = .ok content ∧ interpret content = .error e))
      (load path) m := by
  unfold load
  refine (Work.ensures_isPresent (G := fun _ m' => m' = m) rfl path).bind ?_
  rintro present' m' ⟨rfl, rfl⟩
  rw [if_pos present]
  have reading := Work.ensures_read (G := fun _ m₂ => m₂ = m') rfl (.readKey path) path
  refine (reading.mono (fun _ _ => id) (fun _ _ => id)
    fun e m₂ failed => ⟨failed.1, .inl failed.2⟩).bind ?_
  rintro content m₂ ⟨rfl, reads⟩
  have told : interpret content = (match Octets.ofList? keySize content with
    | some octets => .ok ⟨octets⟩
    | none => .error (.keyLength content.length)) := rfl
  split
  · next octets found =>
    rw [found] at told
    exact ⟨rfl, content, reads, told⟩
  · next none =>
    rw [none] at told
    exact ⟨rfl, .inr ⟨content, reads, told⟩⟩

/-- A call for the key, however it turns out. -/
theorem load_ensures (path : Path) (m : Machine) :
    Work.Ensures (fun _ m' => Evolves path m m')
      (fun key m' => Evolves path m m' ∧
        m'.volume.view path = some (.file key.octets.toList))
      (fun _ m' => Evolves path m m') (load path) m := by
  by_cases present : m.volume.isPresent path = true
  · refine (load_ensures_of_present present).mono ?_ ?_ ?_
    · rintro - m' rfl
      exact .refl path m'
    · rintro key m' ⟨rfl, content, reads, gives⟩
      refine ⟨.refl path m', ?_⟩
      rw [eq_of_interpret gives]
      exact Volume.read_eq_ok_iff_view.mp reads
    · rintro e m' ⟨rfl, -⟩
      exact .refl path m'
  · have absent : m.volume.view path = none := by
      simpa [Volume.isPresent_eq_view] using present
    have stores := stores_save absent
    have drawing : Work.Ensures (fun _ m' => Evolves path m m')
        (fun key m' => key = m.keys m.drawn ∧ m' = drawn m) (fun _ m' => Evolves path m m')
        (liftM (Script.request .drawKey) : Work TicketKey) m := by
      refine Work.ensures_lift fun outcome => ?_
      cases outcome <;> exact ⟨evolves_of_steady (steady_drawn path m), rfl, rfl⟩
    have storing : ∀ m', Machine.Steady path (drawn m) m' →
        Work.Ensures (fun _ m' => Evolves path m m')
          (fun key m' => Evolves path m m' ∧
            m'.volume.view path = some (.file key.octets.toList))
          (fun _ m' => Evolves path m m')
          (do save path (m.keys m.drawn); pure (m.keys m.drawn)) m' :=
      fun m' before => (stores m' before).bind fun _ m₂ after => after
    unfold load
    refine (Work.ensures_isPresent (.refl path m) path).bind ?_
    rintro present' m' ⟨rfl, rfl⟩
    rw [if_neg present]
    refine drawing.bind ?_
    rintro key m₂ ⟨rfl, rfl⟩
    cases parent : path.parent? with
    | none => exact storing _ (.refl path _)
    | some directory =>
      exact (((framing path).makeDirectories parent _ (.refl path _)).mono
        (fun _ _ steps => evolves_of_drawn (steps.1.trans steps.2)) (fun _ _ => id)
        fun _ _ => evolves_of_drawn).bind fun _ m₂ before => storing m₂ before

/-- A served call where there is a file gives what the file says. -/
theorem run_load_of_file (stands : m.volume.view path = some (.file content)) :
    (load path).run.run m = (interpret content, m) := by
  have present : m.volume.isPresent path = true := by
    rw [Volume.isPresent_eq_view, stands]
    rfl
  unfold load
  rw [Work.run_present_bind, if_pos present, Work.run_read_bind,
    Volume.read_eq_ok_iff_view.mpr stands]
  unfold interpret
  dsimp only
  cases Octets.ofList? keySize content <;> rfl

/-! Many calls -/

/-- A call for the key that comes to its end, or is stopped after as many requests as
are listed. -/
inductive Attempt
  | ended (outcomes : List Outcome)
  | stopped (outcomes : List Outcome)

/-- The answer of a call that comes to its end, and the machine that a call leaves. -/
def Attempt.run (path : Path) (m : Machine) :
    Attempt → Option (Except HostError TicketKey) × Machine
  | .ended outcomes => ((load path).run.play outcomes m).map some id
  | .stopped outcomes => (none, (load path).run.stopped outcomes m)

/-- The answers to calls one after another, and the machine that they leave. -/
def calls (path : Path) : List Attempt → Machine → List (Except HostError TicketKey) × Machine
  | [], m => ([], m)
  | attempt :: rest, m =>
    let (answer?, m') := attempt.run path m
    let (answers, last) := calls path rest m'
    (answer?.toList ++ answers, last)

namespace Attempt

variable (attempt : Attempt)

theorem evolves (path : Path) (m : Machine) : Evolves path m (attempt.run path m).2 := by
  have ensures := load_ensures path m
  cases attempt with
  | stopped outcomes => exact ensures.stopped (.refl path m) (fun _ _ _ step => step) outcomes
  | ended outcomes =>
    have ends := (ensures.mono (fun _ _ _ => trivial) (fun _ _ => And.left)
      fun _ _ => id).of_play outcomes
    show Evolves path m ((load path).run.play outcomes m).2
    cases answer : ((load path).run.play outcomes m).1 <;> rw [answer] at ends <;> exact ends

theorem rooted (rooted : m.volume.Rooted) : (attempt.run path m).2.volume.Rooted := by
  cases attempt with
  | stopped outcomes => exact Script.stopped_rooted rooted (load path).run outcomes
  | ended outcomes => exact Script.play_rooted rooted (load path).run outcomes

/-- A key that a call gives is in the file. -/
theorem view_of_ok (gives : (attempt.run path m).1 = some (.ok key)) :
    (attempt.run path m).2.volume.view path = some (.file key.octets.toList) := by
  cases attempt with
  | stopped outcomes => cases gives
  | ended outcomes =>
    have ends := ((load_ensures path m).mono (fun _ _ _ => trivial) (fun _ _ => And.right)
      fun _ _ _ => trivial).of_play outcomes
    have answer : ((load path).run.play outcomes m).1 = .ok key := Option.some.inj gives
    rwa [answer] at ends

/-- Where there is a file, a call gives what the file says, or the file does not read. -/
theorem answer_of_file {answer : Except HostError TicketKey}
    (stands : m.volume.view path = some (.file content))
    (gives : (attempt.run path m).1 = some answer) :
    answer = interpret content ∨ ∃ e, answer = .error (.during (.readKey path) (.storage e)) := by
  cases attempt with
  | stopped outcomes => cases gives
  | ended outcomes =>
    have present : m.volume.isPresent path = true := by
      rw [Volume.isPresent_eq_view, stands]
      rfl
    have reads := Volume.read_eq_ok_iff_view.mpr stands
    have ends := ((load_ensures_of_present present).mono (fun _ _ _ => trivial)
      (fun _ _ => And.right) fun _ _ => And.right).of_play outcomes
    have same : ((load path).run.play outcomes m).1 = answer := Option.some.inj gives
    rw [same, reads] at ends
    cases answer with
    | ok key =>
      obtain ⟨content', reads', told⟩ := ends
      obtain rfl := Except.ok.inj reads'
      exact .inl told.symm
    | error e =>
      rcases ends with ⟨cause, rfl⟩ | ⟨content', reads', told⟩
      · exact .inr ⟨cause, rfl⟩
      · obtain rfl := Except.ok.inj reads'
        exact .inl told.symm

end Attempt

theorem calls_evolves (path : Path) (attempts : List Attempt) (m : Machine) :
    Evolves path m (calls path attempts m).2 := by
  induction attempts generalizing m with
  | nil => exact .refl path m
  | cons attempt rest ih => exact (attempt.evolves path m).trans (ih _)

theorem mem_calls_cons {attempt : Attempt} {rest : List Attempt}
    {answer : Except HostError TicketKey} :
    answer ∈ (calls path (attempt :: rest) m).1 ↔ (attempt.run path m).1 = some answer ∨
      answer ∈ (calls path rest (attempt.run path m).2).1 := by
  show answer ∈ (attempt.run path m).1.toList ++ _ ↔ _
  rw [List.mem_append, Option.mem_toList]
  rfl

/-- Every key that was given is in the file from then on. -/
theorem view_of_calls (rooted : m.volume.Rooted) {attempts : List Attempt}
    (given : .ok key ∈ (calls path attempts m).1) :
    (calls path attempts m).2.volume.view path = some (.file key.octets.toList) := by
  induction attempts generalizing m with
  | nil => cases given
  | cons attempt rest ih =>
    rcases mem_calls_cons.mp given with now | later
    · exact (calls_evolves path rest _).stays (attempt.rooted rooted) (attempt.view_of_ok now)
    · exact ih (attempt.rooted rooted) later

/-- A key that was given stood where the path leads from the start, or was drawn for one
of the calls. -/
theorem sourced_of_calls {attempts : List Attempt} (given : .ok key ∈ (calls path attempts m).1) :
    Sourced path m (calls path attempts m).2 key.octets.toList := by
  induction attempts generalizing m with
  | nil => cases given
  | cons attempt rest ih =>
    have first := attempt.evolves path m
    have others := calls_evolves path rest (attempt.run path m).2
    refine first.sourced others.drawn ?_
    rcases mem_calls_cons.mp given with now | later
    · exact .inl (Volume.get?_of_view (attempt.view_of_ok now))
    · exact ih later

/-- Where a file was found, all calls give what it says. -/
theorem answers_of_file (rooted : m.volume.Rooted)
    (stands : m.volume.view path = some (.file content)) {attempts : List Attempt}
    {answer : Except HostError TicketKey} (given : answer ∈ (calls path attempts m).1) :
    answer = interpret content ∨ ∃ e, answer = .error (.during (.readKey path) (.storage e)) := by
  induction attempts generalizing m with
  | nil => cases given
  | cons attempt rest ih =>
    rcases mem_calls_cons.mp given with now | later
    · exact attempt.answer_of_file stands now
    · exact ih (attempt.rooted rooted) ((attempt.evolves path m).stays rooted stands) later

/-- A key file persists over calls, each of which may fail at any step or be stopped
after it. Since the calls may be any, what is said of the last machine is said of every
moment. Whatever the path and the files are, a file where the path leads is the one that
stood there or a whole key that was drawn in between, and so is every key that a call
gives: nothing of what was left beside the file becomes part of one. The rest is about
volumes where every entry lies in a directory. A file that was found stays as it is. If
it holds a key, every call gives that key, and with another length every call fails with
the length, unless the file does not read. A key that a call gave is in the file from
then on, and all calls that give a key give that one. Under a path that does not lead
back out of a missing directory there is what was found, or where nothing was found a
whole key that was drawn for it, and no other key is ever given. -/
theorem keys_persist (path : Path) (attempts : List Attempt) (m : Machine) :
    let answers := (calls path attempts m).1
    let last := (calls path attempts m).2
    let served := ((load path).run.run last).1
    let unread (answer : Except HostError TicketKey) :=
      ∃ e, answer = .error (.during (.readKey path) (.storage e))
    (∀ content, last.volume.get? path.place = some (.file content) →
      Sourced path m last content) ∧
    (∀ key, .ok key ∈ answers → m.volume.get? path.place = some (.file key.octets.toList) ∨
      ∃ k, m.drawn ≤ k ∧ k < last.drawn ∧ key = m.keys k) ∧
    (m.volume.Rooted →
      (∀ content, m.volume.view path = some (.file content) →
        last.volume.view path = some (.file content) ∧
        (∀ key : TicketKey, key.octets.toList = content →
          served = .ok key ∧ ∀ answer ∈ answers, answer = .ok key ∨ unread answer) ∧
        (content.length ≠ keySize → served = .error (.keyLength content.length) ∧
          ∀ answer ∈ answers, answer = .error (.keyLength content.length) ∨ unread answer)) ∧
      (∀ key, .ok key ∈ answers →
        last.volume.view path = some (.file key.octets.toList) ∧ served = .ok key ∧
          ∀ key', .ok key' ∈ answers → key' = key) ∧
      (m.volume.isDirect path = true →
        Persists path m last ∧
        ∀ key, .ok key ∈ answers → m.volume.view path = some (.file key.octets.toList) ∨
          m.volume.view path = none ∧ ∃ k, m.drawn ≤ k ∧ k < last.drawn ∧ key = m.keys k)) := by
  intro answers last served unread
  have evolves : Evolves path m last := calls_evolves path attempts m
  refine ⟨evolves.sources, fun key given => ?_, fun rooted => ?_⟩
  · rcases sourced_of_calls given with stood | ⟨k, from', upto, same⟩
    · exact .inl stood
    · exact .inr ⟨k, from', upto, eq_of_octets same⟩
  have served_of : ∀ {content}, last.volume.view path = some (.file content) →
      served = interpret content := fun stands => congrArg Prod.fst (run_load_of_file stands)
  have given_of : ∀ {key}, .ok key ∈ answers →
      last.volume.view path = some (.file key.octets.toList) := view_of_calls rooted
  have unique : ∀ {key key' : TicketKey}, last.volume.view path = some (.file key.octets.toList) →
      last.volume.view path = some (.file key'.octets.toList) → key' = key := by
    intro key key' stands stands'
    exact eq_of_octets (Entry.file.inj (Option.some.inj (stands'.symm.trans stands)))
  refine ⟨fun content found => ?_, fun key given => ?_, fun direct => ?_⟩
  · have stands := evolves.stays rooted found
    refine ⟨stands, ?_, fun wrong => ?_⟩
    · rintro key rfl
      have told := interpret_toList key
      exact ⟨(served_of stands).trans told,
        fun answer member => told ▸ answers_of_file rooted found member⟩
    · have told := interpret_of_length wrong
      exact ⟨(served_of stands).trans told,
        fun answer member => told ▸ answers_of_file rooted found member⟩
  · have stands := given_of given
    exact ⟨stands, (served_of stands).trans (interpret_toList key),
      fun key' given' => unique stands (given_of given')⟩
  · obtain ⟨-, -, persists⟩ := evolves.path rooted direct
    refine ⟨persists, fun key given => ?_⟩
    rcases persists with same | ⟨none, k, drawn, upto, stands⟩
    · exact .inl (same ▸ given_of given)
    · exact .inr ⟨none, k, drawn, upto, unique stands (given_of given)⟩

/-- There is no key, and beside it are bytes that an earlier call left. The first call is
stopped while it writes, the second cannot remove what the first left, and the third
keeps the key that it drew. The file does not read for the fourth call, and the fifth
gives the key of the third. -/
theorem keys_persist_after_stale_file :
    let path := Path.ofText "data/ticket.key"
    let key (k : Nat) : TicketKey := ⟨⟨List.replicate 32 (UInt8.ofNat k), List.length_replicate⟩⟩
    let m : Machine :=
      ⟨⟨[(["data"], .directory), (["data", "ticket.key.tmp"], .file [1, 2, 3])]⟩, key, 7⟩
    let attempts : List Attempt :=
      [.stopped (List.replicate 7 .served ++ [.failed (some [9, 9]) .busy]),
        .ended (List.replicate 5 .served ++ [.failed none .busy]), .ended [],
        .ended [.served, .failed none .busy], .ended []]
    let last := (calls path attempts m).2
    m.volume.Rooted ∧ m.volume.isDirect path = true ∧ m.volume.view path = none ∧
      (calls path attempts m).1 =
        [.error (.during (.removeStaleKey (temporary path)) (.storage .busy)), .ok (key 9),
          .error (.during (.readKey path) (.storage .busy)), .ok (key 9)] ∧
      last.volume.view path = some (.file (key 9).octets.toList) ∧
      ((load path).run.run last).1 = .ok (key 9) ∧ Persists path m last ∧
      ∃ k, m.drawn ≤ k ∧ k < last.drawn ∧ key 9 = m.keys k := by
  intro path key m attempts last
  have rooted : m.volume.Rooted := Volume.rooted_of_entries (by decide)
  have direct : m.volume.isDirect path = true := by decide
  have answers : (calls path attempts m).1 =
      [.error (.during (.removeStaleKey (temporary path)) (.storage .busy)), .ok (key 9),
        .error (.during (.readKey path) (.storage .busy)), .ok (key 9)] := by decide +kernel
  have member : .ok (key 9) ∈ (calls path attempts m).1 := by rw [answers]; simp
  obtain ⟨-, sources, rest⟩ := keys_persist path attempts m
  obtain ⟨-, given, persists⟩ := rest rooted
  obtain ⟨stands, served, -⟩ := given (key 9) member
  exact ⟨rooted, direct, by decide, answers, stands, served, (persists direct).1,
    (sources (key 9) member).resolve_left (by decide)⟩

/-- A path that leads back out of a missing directory. Nothing is found under it,
although a file with one byte is there. A call makes the directory and then fails at a
directory beside the file; from then on there is a file under the path, and it holds no
key. If the call does not fail, it even replaces a key that was there. And a call that
cannot read the file fails with that, not with the length of the file. -/
theorem call_reveals_file :
    let path := Path.ofText "a/../ticket.key"
    let key (k : Nat) : TicketKey := ⟨⟨List.replicate 32 (UInt8.ofNat k), List.length_replicate⟩⟩
    let m : Machine :=
      ⟨⟨[(["ticket.key"], .file [0]), (["ticket.key.tmp"], .directory)]⟩, key, 7⟩
    let m' : Machine := ⟨⟨[(["ticket.key"], .file (key 1).octets.toList)]⟩, key, 7⟩
    m.volume.Rooted ∧ m.volume.view path = none ∧
      ((load path).run.run m).1 =
        .error (.during (.removeStaleKey (temporary path)) (.storage .isDirectory)) ∧
      ((load path).run.run m).2.volume.view path = some (.file [0]) ∧
      ((load path).run.run m').1 = .ok (key 7) ∧
      ((load path).run.run m').2.volume.view (Path.ofText "ticket.key") =
        some (.file (key 7).octets.toList) ∧
      ((load (Path.ofText "ticket.key")).run.play [.served, .failed none .busy] m).1 =
        .error (.during (.readKey (Path.ofText "ticket.key")) (.storage .busy)) := by
  intro path key m m'
  refine ⟨Volume.rooted_of_entries (by decide), ?_⟩
  decide +kernel

end Resumption.KeyFile
