import Resumption.Proofs.HostReservation

/-! Hosts that follow each other over one data directory. A service is a machine
and at most one host on it; it moves from request to request, so a host can be
stopped between any two of them, with a file half written or a new watermark not
yet moved into its place. Every launch may come with other settings, and every
request that can fail may fail. -/
namespace Resumption

/-- What the host of a service is about. -/
inductive Activity
  | closed
  | opening (rest : Script (Except HostError Host))
  | waiting (host : Host)
  | issuing (rest : Script (Except HostError Envelope × Host))

/-- A machine, and the host that works on it. -/
structure Service where
  machine : Machine
  activity : Activity

/-- What can happen to a service. -/
inductive Move
  /-- A host is started with some settings. -/
  | launch (settings : Settings)
  /-- The machine takes the next request, or the work is over. -/
  | proceed (outcome : Outcome)
  | issue (session : Session) (hostData : HostData)
  | check (ticket : Envelope)
  /-- The host is dropped, whatever it is about. -/
  | stop

/-- What callers see of a move. -/
inductive Notice
  | nothing
  | issued (answer : Except HostError Envelope)
  | checked (ticket : Envelope) (answer : Result Session)

/-- The index of a ticket that is handed out. -/
def Notice.issuedIndex? : Notice → Option Index
  | issued (.ok ticket) => some ticket.index
  | _ => none

namespace Service

/-- A move of the service over a data directory. A move that does not fit what
the host is about changes nothing. -/
def move (dataDir : String) (s : Service) : Move → Notice × Service
  | .launch settings =>
    match s.activity with
    | .closed =>
      (.nothing, { s with activity := .opening (Host.start { settings with dataDir }).run })
    | _ => (.nothing, s)
  | .proceed outcome =>
    match s.activity with
    | .opening (.ask r next) =>
      let (answer, machine) := s.machine.reply r outcome
      (.nothing, ⟨machine, .opening (next answer)⟩)
    | .opening (.done (.ok host)) => (.nothing, { s with activity := .waiting host })
    | .opening (.done (.error _)) => (.nothing, { s with activity := .closed })
    | .issuing (.ask r next) =>
      let (answer, machine) := s.machine.reply r outcome
      (.nothing, ⟨machine, .issuing (next answer)⟩)
    | .issuing (.done (answer, host)) => (.issued answer, { s with activity := .waiting host })
    | _ => (.nothing, s)
  | .issue session hostData =>
    match s.activity with
    | .waiting host => (.nothing, { s with activity := .issuing (host.issue session hostData) })
    | _ => (.nothing, s)
  | .check ticket =>
    match s.activity with
    | .waiting host =>
      let (answer, host) := host.check ticket
      (.checked ticket answer, { s with activity := .waiting host })
    | _ => (.nothing, s)
  | .stop => (.nothing, { s with activity := .closed })

/-- What happens at a sequence of moves: what callers see of each, and the
service after it. -/
def run (dataDir : String) (s : Service) : List Move → List (Notice × Service)
  | [] => []
  | move :: moves => s.move dataDir move :: run dataDir (s.move dataDir move).2 moves

/-- The indices of the tickets that were handed out, in order. -/
def issuedIndices (course : List (Notice × Service)) : List Index :=
  course.filterMap fun stage => stage.1.issuedIndex?

open Watermark

/-- Whatever the host is about, if it waits for calls afterwards it is ready. -/
def Prepared (path : Path) (issued : List Index) (m : Machine) : Activity → Prop
  | .closed => True
  | .opening rest =>
    rest.Ensures (Rises path)
      (Script.ending (fun host m' => host.Ready path issued m') fun _ _ => True) m
  | .waiting host => host.Ready path issued m
  | .issuing rest => rest.Ensures (Rises path) (Host.Answered path issued) m

/-- The indices that were issued over all lifetimes are different, the watermark
on disk is above them, and the host that is there respects that. -/
structure Sound (path : Path) (issued : List Index) (s : Service) : Prop where
  distinct : issued.Nodup
  below : ∀ i ∈ issued, ∃ j, kept path s.machine = some j ∧ i < j
  prepared : Prepared path issued s.machine s.activity

variable {path : Path} {issued : List Index} {s : Service}

namespace Sound

/-- The watermark stays above all issued indices while it rises. -/
theorem below_of_rises (sound : Sound path issued s) {m : Machine}
    (rises : Rises path s.machine m) : ∀ i ∈ issued, ∃ j, kept path m = some j ∧ i < j := by
  intro i member
  obtain ⟨j, found, less⟩ := sound.below i member
  obtain ⟨k, found', le⟩ := rises j found
  exact ⟨k, found', Int64.lt_of_lt_of_le less le⟩

/-- A move that hands out no ticket. -/
theorem advance (sound : Sound path issued s) {notice : Notice} {machine : Machine}
    {activity : Activity} (silent : notice.issuedIndex? = none)
    (rises : Rises path s.machine machine) (prepared : Prepared path issued machine activity) :
    Rises path s.machine machine ∧
      Sound path (issued ++ notice.issuedIndex?.toList) ⟨machine, activity⟩ := by
  rw [silent, Option.toList_none, List.append_nil]
  exact ⟨rises, sound.distinct, sound.below_of_rises rises, prepared⟩

/-- A move that hands out no ticket and leaves the machine alone. -/
theorem stay (sound : Sound path issued s) {notice : Notice} {activity : Activity}
    (silent : notice.issuedIndex? = none)
    (prepared : Prepared path issued s.machine activity) :
    Rises path s.machine s.machine ∧
      Sound path (issued ++ notice.issuedIndex?.toList) { s with activity } :=
  sound.advance silent (.refl path s.machine) prepared

/-- A ticket is handed out under a new index. -/
theorem handOut (sound : Sound path issued s) {ticket : Envelope} {host : Host}
    (answered : Host.Answered path issued (.ok ticket, host) s.machine) :
    Rises path s.machine s.machine ∧
      Sound path (issued ++ (Notice.issued (.ok ticket)).issuedIndex?.toList)
        { s with activity := .waiting host } := by
  obtain ⟨ready, fresh, reserved⟩ := answered
  refine ⟨.refl path s.machine, ?_, fun i member => ?_, ready⟩
  · refine List.nodup_append.mpr ⟨sound.distinct, List.nodup_singleton _, ?_⟩
    rintro i member j single rfl
    exact fresh (List.mem_singleton.mp single ▸ member)
  · rcases List.mem_append.mp member with member | member
    · exact sound.below i member
    · rw [List.mem_singleton.mp member]
      exact ⟨host.reservedUntil, ready.kept, reserved⟩

/-- A host that starts will be ready with respect to all earlier lifetimes. -/
theorem prepared_launch (sound : Sound path issued s) {settings : Settings} {directory : Path}
    (named : Path.ofText settings.dataDir = directory)
    (watermark : directory.child Watermark.name = path) :
    Prepared path issued s.machine (.opening (Host.start settings).run) := by
  subst watermark
  show Work.Ensures _ (fun host m' => Host.Ready _ issued host m') (fun _ _ => True) _ _
  refine (Host.start_ensures named s.machine).mono (fun _ _ => id) (fun host m' ending => ?_)
    fun _ _ => id
  obtain ⟨ready, -, -, above⟩ := ending
  refine { ready with passed := fun i member => ?_ }
  obtain ⟨j, found, less⟩ := sound.below i member
  exact Int64.lt_of_lt_of_le less (above j found)

end Sound

/-- Every move keeps a service sound, and the watermark on disk does not fall. -/
theorem move_sound {dataDir : String} (sound : Sound path issued s)
    (watermark : (Path.ofText dataDir).child Watermark.name = path) (move : Move) :
    Rises path s.machine (s.move dataDir move).2.machine ∧
      Sound path (issued ++ (s.move dataDir move).1.issuedIndex?.toList)
        (s.move dataDir move).2 := by
  have apart : (temporary path).place ≠ path.place := watermark ▸ temporary_apart _
  obtain ⟨m, activity⟩ := s
  have prepared := sound.prepared
  cases move with
  | launch settings =>
    cases activity with
    | closed => exact sound.stay rfl (sound.prepared_launch rfl watermark)
    | opening _ | waiting _ | issuing _ => exact sound.stay rfl prepared
  | proceed outcome =>
    cases activity with
    | closed | waiting _ => exact sound.stay rfl prepared
    | opening rest =>
      cases rest with
      | ask r next => exact sound.advance rfl (prepared outcome).1 (prepared outcome).2
      | done answer =>
        cases answer with
        | error e => exact sound.stay rfl trivial
        | ok host => exact sound.stay rfl prepared
    | issuing rest =>
      cases rest with
      | ask r next => exact sound.advance rfl (prepared outcome).1 (prepared outcome).2
      | done result =>
        obtain ⟨answer, host⟩ := result
        cases answer with
        | error e => exact sound.stay rfl prepared
        | ok ticket => exact sound.handOut prepared
  | issue session hostData =>
    cases activity with
    | waiting host => exact sound.stay rfl (prepared.issue apart session hostData)
    | closed | opening _ | issuing _ => exact sound.stay rfl prepared
  | check ticket =>
    cases activity with
    | waiting host => exact sound.stay rfl (prepared.check ticket)
    | closed | opening _ | issuing _ => exact sound.stay rfl prepared
  | stop => exact sound.stay rfl trivial

/-- Whatever the host is about, if it waits for calls afterwards it has a property. -/
def Promises (property : Host → Prop) (m : Machine) : Activity → Prop
  | .closed => True
  | .opening rest =>
    rest.Ensures (fun _ _ => True)
      (Script.ending (fun host _ => property host) fun _ _ => True) m
  | .waiting host => property host
  | .issuing rest => rest.Ensures (fun _ _ => True) (fun result _ => property result.2) m

/-- Every move keeps a property that hosts start with and that calls preserve. -/
theorem move_promises {dataDir : String} {property : Host → Prop}
    (launches : s.activity = .closed → ∀ settings : Settings,
      Promises property s.machine (.opening (Host.start { settings with dataDir }).run))
    (issues : ∀ host, property host → ∀ session hostData,
      (host.issue session hostData).Ensures (fun _ _ => True)
        (fun result _ => property result.2) s.machine)
    (checks : ∀ host, property host → ∀ ticket, property (host.check ticket).2)
    (promises : Promises property s.machine s.activity) (move : Move) :
    Promises property (s.move dataDir move).2.machine (s.move dataDir move).2.activity := by
  obtain ⟨m, activity⟩ := s
  cases move with
  | launch settings =>
    cases activity with
    | closed => exact launches rfl settings
    | opening _ | waiting _ | issuing _ => exact promises
  | proceed outcome =>
    cases activity with
    | closed | waiting _ => exact promises
    | opening rest =>
      cases rest with
      | ask r next => exact (promises outcome).2
      | done answer =>
        cases answer with
        | error e => trivial
        | ok host => exact promises
    | issuing rest =>
      cases rest with
      | ask r next => exact (promises outcome).2
      | done result => exact promises
  | issue session hostData =>
    cases activity with
    | waiting host => exact issues host promises session hostData
    | closed | opening _ | issuing _ => exact promises
  | check ticket =>
    cases activity with
    | waiting host => exact checks host promises ticket
    | closed | opening _ | issuing _ => exact promises
  | stop => trivial

theorem issuedIndices_cons (stage : Notice × Service) (course : List (Notice × Service)) :
    issuedIndices (stage :: course) = stage.1.issuedIndex?.toList ++ issuedIndices course := by
  unfold issuedIndices
  rw [List.filterMap_cons]
  cases stage.1.issuedIndex? <;> rfl

/-- What one move keeps, every sequence of moves keeps. -/
theorem run_sound {dataDir : String} (sound : Sound path issued s)
    (watermark : (Path.ofText dataDir).child Watermark.name = path) (moves : List Move) :
    (issued ++ issuedIndices (run dataDir s moves)).Nodup ∧
      (∀ stage ∈ run dataDir s moves, ∀ i ∈ stage.1.issuedIndex?,
        ∃ j, kept path stage.2.machine = some j ∧ i < j) ∧
      (s.machine :: (run dataDir s moves).map fun stage => stage.2.machine).IsChain
        (Rises path) := by
  -- The history of earlier moves grows along with the run.
  induction moves generalizing s issued with
  | nil =>
    refine ⟨?_, fun stage member => absurd member List.not_mem_nil, .singleton _⟩
    rw [run, issuedIndices, List.filterMap_nil, List.append_nil]
    exact sound.distinct
  | cons move moves ih =>
    obtain ⟨rises, sound'⟩ := move_sound sound watermark move
    obtain ⟨distinct, below, chain⟩ := ih sound'
    rw [run, List.map_cons, List.isChain_cons_cons]
    refine ⟨?_, ?_, rises, chain⟩
    · rw [issuedIndices_cons, ← List.append_assoc]
      exact distinct
    · intro stage member i found
      rcases List.mem_cons.mp member with rfl | member
      · exact sound'.below i (List.mem_append_right _ (Option.mem_toList.mpr found))
      · exact below stage member i found

/-- Over all lifetimes of hosts on one data directory, whatever their settings,
whatever fails and wherever they stop: no index is issued twice, every ticket
that is handed out has an index below the watermark on disk, and that watermark
never falls from one step to the next. -/
theorem lifetimes_never_reissue (dataDir : String) (machine : Machine) (moves : List Move) :
    let path := (Path.ofText dataDir).child Watermark.name
    let course := run dataDir ⟨machine, .closed⟩ moves
    (issuedIndices course).Nodup ∧
      (∀ ticket s, (.issued (.ok ticket), s) ∈ course →
        ∃ next, (Watermark.load path).run.run s.machine = (.ok (some next), s.machine) ∧
          ticket.index < next) ∧
      (machine :: course.map fun stage => stage.2.machine).IsChain (Rises path) := by
  intro path course
  have sound : Sound path [] ⟨machine, .closed⟩ := ⟨List.nodup_nil, nofun, trivial⟩
  obtain ⟨distinct, below, chain⟩ := run_sound sound rfl moves
  refine ⟨distinct, fun ticket s member => ?_, chain⟩
  obtain ⟨next, held, less⟩ := below _ member ticket.index rfl
  exact ⟨next, run_load_of_kept held, less⟩

/-- The first host stops with a new watermark written but not moved into its
place. The second is told to begin lower, and goes on where the watermark is. -/
example :
    let session : Session :=
      ⟨⟨⟨List.replicate 32 4, rfl⟩⟩, ⟨⟨List.replicate 32 9, rfl⟩⟩⟩
    let hostData : HostData := ⟨List.replicate 8 0, rfl⟩
    let settings : Settings := { dataDir := "", tickets := { first := 5 }, reserveBlock := 1 }
    let served (count : Nat) : List Move := List.replicate count (.proceed .served)
    let moves : List Move :=
      [.launch settings] ++ served 16 ++ [.issue session hostData] ++ served 1 ++
        [.issue session hostData] ++ served 3 ++ [.stop] ++
        [.launch { settings with tickets := { first := 0 } }] ++ served 16 ++
        [.issue session hostData] ++ served 1
    let machine : Machine := ⟨.empty, fun _ => ⟨⟨List.replicate 32 7, rfl⟩⟩, 0⟩
    issuedIndices (run "data" ⟨machine, .closed⟩ moves) = [5, 6] := by
  decide +kernel

end Service
end Resumption
