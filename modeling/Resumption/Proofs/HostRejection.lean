import Resumption.Proofs.HostLifetimes

/-! Tickets of an earlier host on the same data directory. The window of a new
host reaches below its first index, so their indices lie inside it. They are
turned away all the same, because the new host has issued none of them and never
will. Only windows and the watermark decide this; what a cipher would make of
such a ticket is never asked. -/
namespace Resumption

namespace Window

variable {w : Window} {i j : Index}

/-- A window has passed an index if it will not issue it any more and it cannot
be redeemed. -/
def HasPassed (w : Window) (i : Index) : Prop :=
  ∃ book, w.Represents book ∧ i.toInt < book.next ∧ i.toInt ∉ book.outstanding

namespace HasPassed

theorem of_new {first : Index} {capacity : Nat} (opened : Window.new first capacity = .ok w)
    (below : i < w.next) : w.HasPassed i := by
  have rep := Represents.of_new opened
  refine ⟨_, rep, ?_, Finset.notMem_empty _⟩
  rw [rep.next]
  exact Int64.lt_iff_toInt_lt.mp below

theorem not_isOutstanding (passed : w.HasPassed i) : ¬ w.isOutstanding i = true := by
  obtain ⟨book, rep, -, gone⟩ := passed
  rw [rep.isOutstanding_iff]
  exact gone

theorem advance (passed : w.HasPassed i) (more : w.next ≠ Index.last) : w.advance.HasPassed i := by
  obtain ⟨book, rep, below, gone⟩ := passed
  refine ⟨book.advance, rep.advance more, Int.lt_add_one_of_le below.le, ?_⟩
  simp only [Ledger.advance, Finset.mem_filter, Finset.mem_insert, not_and_or, not_or]
  exact .inl ⟨ne_of_lt below, gone⟩

theorem clear (passed : w.HasPassed i) (valid : w.isOutstanding j = true) :
    (w.clear j).HasPassed i := by
  obtain ⟨book, rep, below, gone⟩ := passed
  exact ⟨_, rep.settle ((rep.isOutstanding_iff j).mp valid), below,
    fun member => gone (Finset.mem_of_mem_erase member)⟩

end HasPassed
end Window

namespace Office

variable {office : Office} {i : Index}

/-- What an office has passed stays passed, whatever its cipher does. -/
theorem perform_passed (passed : office.window.HasPassed i) (call : Call) :
    (office.perform call).2.window.HasPassed i := by
  cases call with
  | issue session hostData =>
    rcases office.issue_cases session hostData with ⟨e, same⟩ | ⟨ticket, more, -, same⟩ <;>
      simp only [perform, same]
    · exact passed
    · exact passed.advance more
  | check ticket =>
    rcases office.check_cases ticket with same | ⟨session, -, valid, -, same⟩ <;>
      simp only [perform, same]
    · exact passed
    · exact passed.clear valid

theorem run_passed (passed : office.window.HasPassed i) (calls : List Call) :
    (office.run calls).2.window.HasPassed i := by
  induction calls generalizing office with
  | nil => exact passed
  | cons call calls ih => exact ih (perform_passed passed call)

end Office

namespace Host

variable {host : Host} {i : Index}

theorem issue_passed (passed : host.office.window.HasPassed i) (session : Session)
    (hostData : HostData) (m : Machine) :
    (host.issue session hostData).Ensures (fun _ _ => True)
      (fun result _ => result.2.office.window.HasPassed i) m := by
  -- A reservation does not touch the office, whether it succeeds or not.
  have reserving : Work.Ensures (fun _ _ => True) (fun host' _ => host'.office = host.office)
      (fun _ _ => True) host.reserve m := by
    unfold Host.reserve
    dsimp only
    split
    · have saving : Work.Ensures (fun _ _ => True) (fun _ _ => True) (fun _ _ => True)
          (Work.within .extendReservation
            (Watermark.save host.watermark (raise host.office.window.next host.reserveBlock))) m :=
        (Script.ensures_trivial _ m).mono (fun _ _ => id) fun answer _ _ => by
          cases answer <;> trivial
      exact saving.bind fun _ _ _ => rfl
    · exact rfl
  unfold Host.issue
  refine Script.Ensures.bind reserving fun answer m' holds => ?_
  cases answer with
  | error e => exact passed
  | ok host' =>
    have same : host'.office = host.office := holds
    have later := Office.perform_passed (same ▸ passed) (.issue session hostData)
    exact later

end Host

namespace Service

open Watermark

variable {dataDir : String} {path : Path} {issued : List Index} {s : Service} {i : Index}

/-- The service after a sequence of moves. -/
def after (dataDir : String) (s : Service) (moves : List Move) : Service :=
  moves.foldl (fun s move => (s.move dataDir move).2) s

theorem after_concat (s : Service) (moves : List Move) (move : Move) :
    s.after dataDir (moves ++ [move]) = ((s.after dataDir moves).move dataDir move).2 :=
  List.foldl_concat ..

theorem run_append (s : Service) (early late : List Move) :
    run dataDir s (early ++ late) =
      run dataDir s early ++ run dataDir (s.after dataDir early) late := by
  induction early generalizing s with
  | nil => rfl
  | cons move early ih =>
    rw [List.cons_append, run, run, ih]
    rfl

theorem length_run (s : Service) (moves : List Move) :
    (run dataDir s moves).length = moves.length := by
  induction moves generalizing s with
  | nil => rfl
  | cons move moves ih => rw [run, List.length_cons, List.length_cons, ih]

theorem after_sound (sound : Sound path issued s)
    (watermark : (Path.ofText dataDir).child Watermark.name = path) (moves : List Move) :
    Sound path (issued ++ issuedIndices (run dataDir s moves)) (s.after dataDir moves) := by
  induction moves generalizing s issued with
  | nil =>
    rw [run, issuedIndices, List.filterMap_nil, List.append_nil]
    exact sound
  | cons move moves ih =>
    rw [run, issuedIndices_cons, ← List.append_assoc]
    exact ih (move_sound sound watermark move).2

/-- Whatever the host is about, if it waits for calls afterwards it has passed an
index. -/
def Passed (i : Index) (m : Machine) : Activity → Prop
  | .closed => True
  | .opening rest =>
    rest.Ensures (fun _ _ => True)
      (Script.ending (fun (host : Host) _ => host.office.window.HasPassed i) fun _ _ => True) m
  | .waiting host => host.office.window.HasPassed i
  | .issuing rest =>
    rest.Ensures (fun _ _ => True) (fun result _ => result.2.office.window.HasPassed i) m

/-- A host that starts has passed every index that was issued before. -/
theorem passed_launch (sound : Sound path issued s) (member : i ∈ issued) {settings : Settings}
    {directory : Path} (named : Path.ofText settings.dataDir = directory)
    (watermark : directory.child Watermark.name = path) :
    Passed i s.machine (.opening (Host.start settings).run) := by
  subst watermark
  show Work.Ensures _ (fun (host : Host) _ => host.office.window.HasPassed i) (fun _ _ => True) _ _
  refine (Host.start_ensures named s.machine).mono (fun _ _ _ => trivial)
    (fun host m' ending => ?_) fun _ _ => id
  obtain ⟨-, -, ⟨first, capacity, opened⟩, above⟩ := ending
  obtain ⟨j, found, less⟩ := sound.below i member
  exact .of_new opened (Int64.lt_of_lt_of_le less (above j found))

/-- Only a host that waits for calls checks tickets. -/
theorem waiting_of_checked {move : Move} {ticket : Envelope} {answer : Result Session}
    (checked : (s.move dataDir move).1 = .checked ticket answer) :
    ∃ host, s.activity = .waiting host ∧ answer = (host.check ticket).1 := by
  obtain ⟨m, activity⟩ := s
  cases move with
  | check presented =>
    cases activity with
    | waiting host =>
      cases checked
      exact ⟨host, rfl, rfl⟩
    | closed | opening _ | issuing _ => cases checked
  | launch _ | issue _ _ => cases activity <;> cases checked
  | stop => cases checked
  | proceed outcome =>
    cases activity with
    | closed | waiting _ => cases checked
    | opening rest => rcases rest with (_ | _) | _ <;> cases checked
    | issuing rest => cases rest <;> cases checked

theorem passed_iff {m : Machine} {activity : Activity} :
    Passed i m activity ↔ Promises (fun host => host.office.window.HasPassed i) m activity := by
  cases activity <;> rfl

/-- Every move keeps an index passed that was issued before, and a ticket with
that index is turned away. -/
theorem move_passed (sound : Sound path issued s) (member : i ∈ issued)
    (watermark : (Path.ofText dataDir).child Watermark.name = path)
    (passed : Passed i s.machine s.activity) (move : Move) :
    Passed i (s.move dataDir move).2.machine (s.move dataDir move).2.activity ∧
      ∀ ticket answer, (s.move dataDir move).1 = .checked ticket answer → ticket.index = i →
        answer = .error .invalidTicket := by
  constructor
  · rw [passed_iff] at passed ⊢
    refine move_promises (fun _ settings => ?_) (fun host passed session hostData => ?_)
      (fun host passed ticket => ?_) passed move
    · exact passed_iff.mp (passed_launch sound member rfl watermark)
    · exact host.issue_passed passed session hostData s.machine
    · exact Office.perform_passed passed (.check ticket)
  · rintro ticket answer checked rfl
    obtain ⟨host, waiting, rfl⟩ := waiting_of_checked checked
    rw [waiting] at passed
    have gone : host.office.window.HasPassed ticket.index := passed
    exact congrArg Prod.fst (Office.check_of_not_outstanding gone.not_isOutstanding)

theorem run_passed (sound : Sound path issued s) (member : i ∈ issued)
    (watermark : (Path.ofText dataDir).child Watermark.name = path)
    (passed : Passed i s.machine s.activity) (moves : List Move) :
    ∀ stage ∈ run dataDir s moves,
      Passed i stage.2.machine stage.2.activity ∧
        ∀ ticket answer, stage.1 = .checked ticket answer → ticket.index = i →
          answer = .error .invalidTicket := by
  induction moves generalizing s issued with
  | nil => exact fun stage member => absurd member List.not_mem_nil
  | cons move moves ih =>
    have first := move_passed sound member watermark passed move
    have sound' := (move_sound sound watermark move).2
    intro stage inside
    rcases List.mem_cons.mp inside with rfl | inside
    · exact first
    · exact ih sound' (List.mem_append_left _ member) first.1 stage inside

/-- Whatever an earlier host issued, a later host on the same data directory calls
invalid at every point of its life, and it stays as it is. It would do so with any
cipher, after any calls. -/
theorem earlier_tickets_are_invalid (dataDir : String) (machine : Machine)
    (early late : List Move) (ticket : Envelope)
    (issued : ticket.index ∈ issuedIndices (run dataDir ⟨machine, .closed⟩ early)) :
    ∀ stage ∈ (run dataDir ⟨machine, .closed⟩ (early ++ .stop :: late)).drop (early.length + 1),
      (∀ answer, stage.1 = .checked ticket answer → answer = .error .invalidTicket) ∧
        ∀ host, stage.2.activity = .waiting host →
          host.check ticket = (.error .invalidTicket, host) ∧
            ∀ (cipher : Cipher) (calls : List Office.Call),
              let office := (Office.run { host.office with cipher } calls).2
              office.check ticket = (.error .invalidTicket, office) := by
  have start : Sound ((Path.ofText dataDir).child Watermark.name) [] ⟨machine, .closed⟩ :=
    ⟨List.nodup_nil, nofun, trivial⟩
  have sound := after_sound start rfl early
  rw [List.nil_append] at sound
  have stopped := (move_sound sound rfl .stop).2
  have later : (run dataDir ⟨machine, .closed⟩ (early ++ .stop :: late)).drop (early.length + 1) =
      run dataDir (Service.move dataDir (after dataDir ⟨machine, .closed⟩ early) .stop).2 late := by
    rw [run_append, ← List.drop_drop, List.drop_left' (length_run _ early)]
    rfl
  intro stage inside
  rw [later] at inside
  obtain ⟨passed, answered⟩ :=
    run_passed stopped (List.mem_append_left _ issued) rfl trivial late stage inside
  refine ⟨fun answer same => answered ticket answer same rfl, fun host waiting => ?_⟩
  rw [waiting] at passed
  have gone : host.office.window.HasPassed ticket.index := passed
  refine ⟨?_, fun cipher calls => ?_⟩
  · rw [Host.check, Office.check_of_not_outstanding gone.not_isOutstanding]
  · have gone' : ({ host.office with cipher } : Office).window.HasPassed ticket.index := gone
    exact Office.check_of_not_outstanding (Office.run_passed gone' calls).not_isOutstanding

/-- The second host goes on at 6 with a window of 16 indices, so that 5 lies
inside it. -/
theorem earlier_tickets_are_invalid_after_restart :
    let session : Session :=
      ⟨⟨⟨List.replicate 32 4, rfl⟩⟩, ⟨⟨List.replicate 32 9, rfl⟩⟩⟩
    let hostData : HostData := ⟨List.replicate 8 0, rfl⟩
    let settings : Settings :=
      { dataDir := "", tickets := { first := 5, capacity := 16 }, reserveBlock := 1 }
    let launch : List Move := .launch settings :: List.replicate 16 (.proceed .served)
    let early := launch ++ [.issue session hostData, .proceed .served]
    let late := launch
    let machine : Machine := ⟨.empty, fun _ => ⟨⟨List.replicate 32 7, rfl⟩⟩, 0⟩
    let later := (run "data" ⟨machine, .closed⟩ (early ++ .stop :: late)).drop (early.length + 1)
    let ticket : Envelope :=
      ⟨1, 5, hostData, List.replicate 16 7, 16, rfl, by decide, by decide⟩
    issuedIndices (run "data" ⟨machine, .closed⟩ early) = [5] ∧
      later.any (fun stage => match stage.2.activity with
        | .waiting host => host.office.window.next = 6 ∧ host.office.window.covers 5
        | _ => false) = true ∧
      ∀ stage ∈ later, ∀ host, stage.2.activity = .waiting host →
        host.check ticket = (.error .invalidTicket, host) := by
  intro session hostData settings launch early late machine later ticket
  have issued : issuedIndices (run "data" ⟨machine, .closed⟩ early) = [5] := by decide +kernel
  refine ⟨issued, by decide +kernel, fun stage inside host waiting => ?_⟩
  exact ((earlier_tickets_are_invalid "data" machine early late ticket
    (issued ▸ List.mem_singleton_self _) stage inside).2 host waiting).1

end Service
end Resumption
