import Resumption.Proofs.HostRejection
import Resumption.Proofs.OfficeSealing
import Resumption.Proofs.WatermarkAtomicity

/-! Hosts that go on after a failure. A call for a ticket saves the next block of
indices first where it has to. If that fails, neither the host nor the watermark on
disk has changed, and the next call is for the same index. Each call is one of three
things, whatever the machine does, and a sequence of calls only counts on from the
next index. At the upper end the file is not needed any more: the indices that are
left are issued, and then none. -/
namespace Resumption

namespace Script

variable {α β : Type}

/-- What is done with the result of a script changes nothing on the machine. -/
theorem play_bind_done (s : Script α) (f : α → β) (outcomes : List Outcome) (m : Machine) :
    (s >>= fun a => done (f a)).play outcomes m =
      (f (s.play outcomes m).1, (s.play outcomes m).2) := by
  induction s generalizing outcomes m with
  | done a => rfl
  | ask r next ih => exact ih _ _ _

end Script

namespace Host

open Watermark

variable {path : Path} {host host' : Host} {m m' : Machine} {session : Session}
  {hostData : HostData}

/-- Whether a host has to extend its reservation before the next ticket. -/
def Short (host : Host) : Prop :=
  host.reservedUntil ≤ host.office.window.next ∧ host.reservedUntil < Index.last

/-- The host with the next block reserved. -/
def extended (host : Host) : Host :=
  { host with reservedUntil := raise host.office.window.next host.reserveBlock }

/-- Issues a ticket under an index that is reserved. -/
def grant (host : Host) (session : Session) (hostData : HostData) :
    Except HostError Envelope × Host :=
  let (answer, office) := host.office.issue session hostData
  (answer.mapError fun e => .during .issueTicket (.protocol e), { host with office })

/-- The host after its next index was taken. -/
def advanced (host : Host) : Host :=
  { host with office := { host.office with window := host.office.window.advance } }

/-- What becomes of a call when the next block has been saved, or could not be. -/
def settle (host : Host) (session : Session) (hostData : HostData) :
    Except HostError Unit → Except HostError Envelope × Host
  | .ok () => host.extended.grant session hostData
  | .error e => (.error (.during .extendReservation e), host)

/-- A call that has to reserve first does nothing to the files but save. -/
theorem issue_of_short (short : host.Short) :
    host.issue session hostData =
      (Watermark.save host.watermark host.extended.reservedUntil).run >>= fun saved =>
        .done (host.settle session hostData saved) := by
  unfold Host.issue Host.reserve
  dsimp only
  rw [if_pos (show host.reservedUntil ≤ host.office.window.next ∧ _ from short),
    ExceptT.run_bind, bind_assoc]
  show (Except.mapError _ <$> (Watermark.save _ _).run) >>= _ = _
  rw [map_eq_pure_bind, bind_assoc]
  congr 1
  funext saved
  cases saved <;> rfl

/-- A call that need not reserve asks for nothing. -/
theorem issue_of_covered (covered : ¬ host.Short) :
    host.issue session hostData = .done (host.grant session hostData) := by
  unfold Host.issue Host.reserve
  dsimp only
  rw [if_neg (show ¬ (host.reservedUntil ≤ host.office.window.next ∧ _) from covered)]
  rfl

/-- How a call for a ticket turns out, and what it leaves. -/
inductive Answers (path : Path) (host : Host) (m : Machine) :
    Except HostError Envelope × Host → Machine → Prop
  /-- The next block could not be saved. -/
  | unreserved {cause : HostError} {m' : Machine} (more : host.office.window.next ≠ Index.last)
      (keeps : Machine.Keeps path.place m m') (steady : Machine.Steady path m m') :
      Answers path host m (.error (.during .extendReservation cause), host) m'
  /-- No index is left. -/
  | exhausted (last : host.office.window.next = Index.last) :
      Answers path host m (.error (.during .issueTicket (.protocol .exhausted)), host) m
  | granted {ticket : Envelope} {reserved : Index} {m' : Machine}
      (index : ticket.index = host.office.window.next)
      (covered : host.office.window.next < reserved)
      (stored : reserved = host.reservedUntil ∧ m' = m ∨ kept path m' = some reserved) :
      Answers path host m
        (.ok ticket, { host.advanced with reservedUntil := reserved }) m'

/-- With the service's own cipher only the end of the range keeps a ticket from being
issued. -/
theorem grant_cases (own : ∃ key, host.office.cipher = Cipher.chacha key) (session : Session)
    (hostData : HostData) :
    (host.office.window.next = Index.last ∧
        host.grant session hostData =
          (.error (.during .issueTicket (.protocol .exhausted)), host)) ∨
      ∃ ticket, host.office.window.next ≠ Index.last ∧
        ticket.index = host.office.window.next ∧
        host.grant session hostData = (.ok ticket, host.advanced) := by
  obtain ⟨key, own⟩ := own
  by_cases last : host.office.window.next = Index.last
  · refine .inl ⟨last, ?_⟩
    simp only [grant, Office.issue_of_last last]
    rfl
  · obtain ⟨ticket, wrapped, -⟩ :=
      Office.wrap_chacha host.office own session hostData host.office.window.next
    refine .inr ⟨ticket, last, ((Office.wrap_eq_ok_iff _).mp wrapped).2.1, ?_⟩
    simp only [grant, Office.issue_of_wrap last wrapped]
    rfl

namespace Provident

/-- A host that need not reserve has the next index reserved, if there is one. -/
theorem lt_of_covered (provident : host.Provident path) (covered : ¬ host.Short)
    (more : host.office.window.next ≠ Index.last) :
    host.office.window.next < host.reservedUntil := by
  have reserved := Int64.le_iff_toInt_le.mp provident.reserved
  have below := Index.toInt_lt_of_ne_last more
  rw [Short, Int64.le_iff_toInt_le, Int64.lt_iff_toInt_lt, Index.toInt_last] at covered
  rw [Int64.lt_iff_toInt_lt]
  omega

/-- A host that has to reserve has an index left. -/
theorem more_of_short (provident : host.Provident path) (short : host.Short) :
    host.office.window.next ≠ Index.last :=
  Index.ne_last_of_lt (Int64.lt_of_le_of_lt provident.reserved short.2)

/-- Each call for a ticket turns out in one of three ways, on whatever machine. -/
theorem issue_answers (provident : host.Provident path)
    (apart : (temporary path).place ≠ path.place) (session : Session) (hostData : HostData)
    (m : Machine) :
    (host.issue session hostData).Ensures (fun _ _ => True) (host.Answers path m) m := by
  by_cases short : host.Short
  · have more := provident.more_of_short short
    have covered : host.office.window.next < host.extended.reservedUntil :=
      lt_raise provident.block more
    obtain rfl := provident.watermark
    rw [issue_of_short short]
    have framing := (framing_keeps apart).and (framing_steady host.watermark)
    refine Script.Ensures.bind (save_ensures_within framing (fun _ _ _ _ => trivial)
      fun _ _ _ _ => trivial) fun saved m' holds => ?_
    cases saved with
    | error e => exact .unreserved more holds.1 holds.2
    | ok u =>
      rcases host.extended.grant_cases provident.cipher session hostData with
        ⟨last, -⟩ | ⟨ticket, -, index, answer⟩
      · exact absurd last more
      · show host.Answers host.watermark m (host.extended.grant session hostData) m'
        rw [answer]
        exact .granted index covered (.inr holds)
  · rw [issue_of_covered short]
    show host.Answers path m (host.grant session hostData) m
    rcases host.grant_cases provident.cipher session hostData with
      ⟨last, answer⟩ | ⟨ticket, more, index, answer⟩ <;> rw [answer]
    · exact .exhausted last
    · exact .granted index (provident.lt_of_covered short more) (.inl ⟨rfl, rfl⟩)

/-- Taking an index that is reserved leaves a host that can go on. -/
theorem advanced (provident : host.Provident path)
    (covered : host.office.window.next < host.reservedUntil) : host.advanced.Provident path :=
  ⟨provident.watermark, provident.block, Index.succ_le_of_lt covered, provident.cipher⟩

end Provident

namespace Answers

variable {result : Except HostError Envelope × Host}

/-- A call leaves a host that can go on. -/
theorem provident (answers : host.Answers path m result m') (provident : host.Provident path) :
    result.2.Provident path := by
  cases answers with
  | unreserved | exhausted => exact provident
  | granted index covered stored =>
    exact ⟨provident.watermark, provident.block, Index.succ_le_of_lt covered, provident.cipher⟩

/-- A call that fails leaves the host and the watermark on disk as they are, and what
stands under a path that does not turn back. -/
theorem of_error {e : HostError} (answers : host.Answers path m result m')
    (failed : result.1 = .error e) :
    result.2 = host ∧ (∀ i, kept path m = some i → kept path m' = some i) ∧
      Machine.Steady path m m' := by
  cases answers with
  | unreserved more keeps steady => exact ⟨rfl, fun i => kept_of_keeps keeps, steady⟩
  | exhausted last => exact ⟨rfl, fun i => id, .refl path m⟩
  | granted => cases failed

/-- A call that succeeds gives the next index. If the watermark on disk was what is
reserved, it is so afterwards. -/
theorem of_ok {ticket : Envelope} (answers : host.Answers path m result m')
    (issued : result.1 = .ok ticket) :
    ticket.index = host.office.window.next ∧
      (kept path m = some host.reservedUntil → kept path m' = some result.2.reservedUntil) := by
  cases answers with
  | unreserved | exhausted => cases issued
  | granted index covered stored =>
    cases issued
    refine ⟨index, fun held => ?_⟩
    rcases stored with ⟨rfl, rfl⟩ | stored
    · exact held
    · exact stored

end Answers

theorem Provident.check (provident : host.Provident path) (ticket : Envelope) :
    (host.check ticket).2.Provident path := by
  refine ⟨provident.watermark, provident.block, ?_, ?_⟩
  · rw [next_check]
    exact provident.reserved
  · obtain ⟨key, own⟩ := provident.cipher
    exact ⟨key, (host.office.perform_frame (.check ticket)).1.trans own⟩

/-- If an index is left and the next block can be saved, or is not needed, a ticket
is issued. -/
theorem issue_of_saved (provident : host.Provident path)
    (more : host.office.window.next ≠ Index.last) {outcomes : List Outcome}
    (saved : host.Short →
      ((Watermark.save path host.extended.reservedUntil).run.play outcomes m).1 = .ok ()) :
    ∃ ticket, ((host.issue session hostData).play outcomes m).1.1 = .ok ticket := by
  have grants : ∀ host' : Host, host'.office = host.office →
      ∃ ticket, (host'.grant session hostData).1 = .ok ticket := by
    intro host' same
    rcases host'.grant_cases (same ▸ provident.cipher) session hostData with
      ⟨last, -⟩ | ⟨ticket, -, -, answer⟩
    · exact absurd (same ▸ last) more
    · exact ⟨ticket, by rw [answer]⟩
  by_cases short : host.Short
  · obtain rfl := provident.watermark
    rw [issue_of_short short, Script.play_bind_done, saved short]
    exact grants host.extended rfl
  · rw [issue_of_covered short]
    exact grants host rfl

/-! Sequences of calls -/

/-- What callers see of a sequence of calls, and the host after the last. -/
def serve (host : Host) : List Office.Call → Script (List Notice × Host)
  | [] => return ([], host)
  | .issue session hostData :: calls => do
    let (answer, host) ← host.issue session hostData
    let (notices, host) ← host.serve calls
    return (.issued answer :: notices, host)
  | .check ticket :: calls => do
    let (answer, host) := host.check ticket
    let (notices, host) ← host.serve calls
    return (.checked ticket answer :: notices, host)

/-- What callers see of a host whose next index is given: the tickets count on from
there, a call that cannot reserve loses no index, and after the last index but one
nothing is left. -/
inductive Counts : Index → List Notice → Prop
  | nil (i : Index) : Counts i []
  | granted {i : Index} {ticket : Envelope} {notices : List Notice} (more : i ≠ Index.last)
      (index : ticket.index = i) (later : Counts (i + 1) notices) :
      Counts i (.issued (.ok ticket) :: notices)
  | unreserved {i : Index} {cause : HostError} {notices : List Notice} (more : i ≠ Index.last)
      (later : Counts i notices) :
      Counts i (.issued (.error (.during .extendReservation cause)) :: notices)
  | exhausted {notices : List Notice} (later : Counts Index.last notices) :
      Counts Index.last (.issued (.error (.during .issueTicket (.protocol .exhausted))) :: notices)
  | checked {i : Index} {ticket : Envelope} {answer : Result Session} {notices : List Notice}
      (later : Counts i notices) : Counts i (.checked ticket answer :: notices)

/-- What is seen of a call goes before what is seen of the host that it leaves. -/
theorem Answers.counts {answer : Except HostError Envelope} {notices : List Notice}
    (answers : host.Answers path m (answer, host') m')
    (later : Counts host'.office.window.next notices) :
    Counts host.office.window.next (.issued answer :: notices) := by
  cases answers with
  | unreserved more => exact .unreserved more later
  | exhausted last =>
    rw [last] at later ⊢
    exact .exhausted later
  | granted index covered stored => exact .granted (Index.ne_last_of_lt covered) index later

/-- A sequence of calls counts on, on whatever machine. -/
theorem serve_counts (provident : host.Provident path)
    (apart : (temporary path).place ≠ path.place) (calls : List Office.Call) (m : Machine) :
    (host.serve calls).Ensures (fun _ _ => True)
      (fun served _ => Counts host.office.window.next served.1) m := by
  induction calls generalizing host m with
  | nil => exact .nil _
  | cons call calls ih =>
    cases call with
    | issue session hostData =>
      refine Script.Ensures.bind (provident.issue_answers apart session hostData m) ?_
      rintro ⟨answer, host'⟩ m' answers
      refine Script.Ensures.bind (ih (answers.provident provident) m') fun served _ later => ?_
      exact answers.counts later
    | check ticket =>
      refine Script.Ensures.bind (ih (provident.check ticket) m) fun served _ later => ?_
      rw [next_check] at later
      exact .checked later

/-- Issuing under a reserved index leaves a host that can go on with the same
reservation. -/
theorem grant_provident (provident : host.Provident path) (covered : ¬ host.Short)
    (session : Session) (hostData : HostData) :
    (host.grant session hostData).2.Provident path ∧
      (host.grant session hostData).2.reservedUntil = host.reservedUntil ∧
      ∀ cause, (host.grant session hostData).1 ≠ .error (.during .extendReservation cause) := by
  rcases host.grant_cases provident.cipher session hostData with
    ⟨last, answer⟩ | ⟨ticket, more, index, answer⟩ <;> rw [answer]
  · exact ⟨provident, rfl, nofun⟩
  · exact ⟨provident.advanced (provident.lt_of_covered covered more), rfl, nofun⟩

/-- Once everything is reserved, a sequence of calls asks for nothing, and no call
fails to reserve. -/
theorem serve_of_reserved (provident : host.Provident path)
    (whole : host.reservedUntil = Index.last) (calls : List Office.Call) :
    ∃ notices final, host.serve calls = .done (notices, final) ∧
      ∀ cause, .issued (.error (.during .extendReservation cause)) ∉ notices := by
  induction calls generalizing host with
  | nil => exact ⟨[], host, rfl, fun _ => List.not_mem_nil⟩
  | cons call calls ih =>
    cases call with
    | issue session hostData =>
      have covered : ¬ host.Short := fun short => Int64.ne_of_lt short.2 whole
      obtain ⟨later, same, reserves⟩ := grant_provident provident covered session hostData
      obtain ⟨notices, final, serves, reserved⟩ := ih later (same.trans whole)
      refine ⟨.issued (host.grant session hostData).1 :: notices, final, ?_, ?_⟩
      · simp only [serve, issue_of_covered covered, Script.done_bind, serves]
        rfl
      · intro cause member
        rcases List.mem_cons.mp member with now | member
        · exact reserves cause (Notice.issued.inj now).symm
        · exact reserved cause member
    | check ticket =>
      obtain ⟨notices, final, serves, reserved⟩ := ih (provident.check ticket) whole
      refine ⟨.checked ticket (host.check ticket).1 :: notices, final, ?_, ?_⟩
      · simp only [serve, serves]
        rfl
      · exact fun cause member => reserved cause (by simpa using member)

end Host

/-- The host that waits for calls, if there is one. -/
def Activity.host? : Activity → Option Host
  | .waiting host => some host
  | _ => none

theorem Activity.eq_waiting_of_host? {activity : Activity} {host : Host}
    (waiting : activity.host? = some host) : activity = .waiting host := by
  cases activity <;> cases waiting
  rfl

namespace Service

open Watermark

/-- A host that waits for calls can go on, whatever happened before. -/
theorem after_provident (dataDir : String) (machine : Machine) (moves : List Move) :
    let path := (Path.ofText dataDir).child Watermark.name
    let s := after dataDir ⟨machine, .closed⟩ moves
    Promises (fun host => host.Provident path) s.machine s.activity := by
  intro path s
  have apart : (temporary path).place ≠ path.place := temporary_apart _
  induction moves using List.reverseRecOn with
  | nil => trivial
  | append_singleton moves move ih =>
    rw [show s = _ from after_concat _ moves move]
    refine move_promises (fun _ settings => ?_) (fun host provident session hostData => ?_)
      (fun host provident ticket => provident.check ticket) ih move
    · refine (Host.start_ensures rfl _).mono (fun _ _ _ => trivial) (fun host m' ending => ?_)
        fun _ _ => id
      exact ending.2.1
    · refine (provident.issue_answers apart session hostData _).mono (fun _ _ => id) ?_
      exact fun result m' answers => answers.provident provident

/-- Failed calls leave a host usable. Take any host that waits for calls, wherever
its settings, its calls and the failures of its machine have brought it. What it has
reserved is the watermark on disk. A call that fails leaves the host and the watermark
as they are. A call that succeeds gives the next index; afterwards what is reserved is
still the watermark, and not below the index after. A call succeeds if an index is left
and the next block can be saved or is not needed. The machine may be any other one in
which the files were changed in the meantime. Where every entry lies in a directory and
the path does not lead back out of a missing one, `load` then answers after a failed
call as it did before, whatever it finds. A sequence of calls therefore counts on from
the next index up to the last but one, and then no index is left. Once everything up to
there is reserved, calls ask nothing of the files and none fails to reserve. -/
theorem failed_issues_leave_hosts_usable (dataDir : String) (machine m : Machine)
    (moves : List Move) (host : Host)
    (reached : after dataDir ⟨machine, .closed⟩ moves = ⟨m, .waiting host⟩) :
    let path := (Path.ofText dataDir).child Watermark.name
    let reads (m : Machine) (i : Index) := (Watermark.load path).run.run m = (.ok (some i), m)
    let answer (m : Machine) := ((Watermark.load path).run.run m).1
    let next := host.office.window.next
    reads m host.reservedUntil ∧
    (∀ session hostData outcomes other,
      let result := ((host.issue session hostData).play outcomes other).1
      let later := ((host.issue session hostData).play outcomes other).2
      (∀ e, result.1 = .error e → result.2 = host ∧ (∀ i, reads other i → reads later i) ∧
        (other.volume.Rooted → other.volume.isDirect path = true →
          answer later = answer other)) ∧
      (∀ ticket, result.1 = .ok ticket → ticket.index = next ∧
        result.2.office.window.next ≤ result.2.reservedUntil ∧
        (reads other host.reservedUntil → reads later result.2.reservedUntil)) ∧
      (next ≠ Index.last →
        (host.Short → ((Watermark.save path host.extended.reservedUntil).run.play
          outcomes other).1 = .ok ()) → ∃ ticket, result.1 = .ok ticket)) ∧
    (∀ calls outcomes other, Host.Counts next ((host.serve calls).play outcomes other).1.1) ∧
    (host.reservedUntil = Index.last → ∀ calls, ∃ notices final,
      host.serve calls = .done (notices, final) ∧ Host.Counts next notices ∧
        ∀ cause, .issued (.error (.during .extendReservation cause)) ∉ notices) := by
  intro path reads answer next
  have apart : (temporary path).place ≠ path.place := temporary_apart _
  have start : Sound path [] ⟨machine, .closed⟩ := ⟨List.nodup_nil, nofun, trivial⟩
  have ready := (after_sound start rfl moves).prepared
  have provident := after_provident dataDir machine moves
  rw [reached] at ready provident
  have reads_iff : ∀ m i, reads m i ↔ kept path m = some i := fun _ _ => run_load_iff
  simp only [reads_iff]
  refine ⟨ready.kept, fun session hostData outcomes other => ?_,
    fun calls outcomes other => (Host.serve_counts provident apart calls other).of_play outcomes,
    fun whole calls => ?_⟩
  · have answers := (provident.issue_answers apart session hostData other).of_play outcomes
    refine ⟨fun e failed => ?_, fun ticket issued => ?_,
      fun more saved => Host.issue_of_saved provident more saved⟩
    · obtain ⟨unchanged, stays, steady⟩ := answers.of_error failed
      exact ⟨unchanged, stays,
        fun rooted direct => run_load_congr (steady.volume rooted direct).2.2⟩
    · obtain ⟨index, stored⟩ := answers.of_ok issued
      exact ⟨index, (answers.provident provident).reserved, stored⟩
  · obtain ⟨notices, final, serves, reserved⟩ := Host.serve_of_reserved provident whole calls
    have counts := Host.serve_counts provident apart calls m
    rw [serves] at counts
    exact ⟨notices, final, serves, counts, reserved⟩

/-- A host begins two below the last index and reserves one index at a time. While
its second call saves, the file is only written in part. The third call issues the
index that the second would have had, and the fourth finds no index left. -/
theorem failed_issues_leave_hosts_usable_near_last :
    let session : Session :=
      ⟨⟨⟨List.replicate 32 4, rfl⟩⟩, ⟨⟨List.replicate 32 9, rfl⟩⟩⟩
    let hostData : HostData := ⟨List.replicate 8 0, rfl⟩
    let settings : Settings :=
      { dataDir := "", tickets := { first := Index.last - 2, capacity := 16 }, reserveBlock := 1 }
    let moves : List Move := .launch settings :: List.replicate 16 (.proceed .served)
    let machine : Machine := ⟨.empty, fun _ => ⟨⟨List.replicate 32 7, rfl⟩⟩, 0⟩
    let calls : List Office.Call := List.replicate 4 (.issue session hostData)
    let outcomes : List Outcome := [.served, .served, .failed (some [123, 10]) .busy]
    ∃ m host, after "data" ⟨machine, .closed⟩ moves = ⟨m, .waiting host⟩ ∧
      let served := ((host.serve calls).play outcomes m).1
      Host.Counts host.office.window.next served.1 ∧
        served.1.map Notice.issuedIndex? =
          [some (Index.last - 2), none, some (Index.last - 1), none] ∧
        served.2.reservedUntil = Index.last := by
  intro session hostData settings moves machine calls outcomes
  have played : ((after "data" ⟨machine, .closed⟩ moves).activity.host?.any fun host =>
      let served := ((host.serve calls).play outcomes
        (after "data" ⟨machine, .closed⟩ moves).machine).1
      served.1.map Notice.issuedIndex? =
        [some (Index.last - 2), none, some (Index.last - 1), none] ∧
          served.2.reservedUntil = Index.last) = true := by decide +kernel
  generalize reached : after "data" ⟨machine, .closed⟩ moves = s at played
  obtain ⟨m, activity⟩ := s
  obtain ⟨host, waiting, served⟩ := (Option.any_eq_true _ _).mp played
  obtain rfl := Activity.eq_waiting_of_host? waiting
  obtain ⟨-, -, counts, -⟩ := failed_issues_leave_hosts_usable "data" machine m moves host reached
  exact ⟨m, host, rfl, counts calls outcomes m, of_decide_eq_true served⟩

end Service
end Resumption
