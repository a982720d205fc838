import Resumption.Proofs.CipherRoundTrip
import Resumption.Proofs.OfficeReplay

/-! Every ticket resumes its session until it is used or has grown old. All that
is asked of the cipher is that it opens what it sealed. The events of a run fix
whether a ticket can still be redeemed, so forged tickets with the same index,
failed issues and the redemption of neighbours can neither spend a ticket nor
bring one back. -/
namespace Resumption.Office

variable {office : Office} {first : Index} {events : List Event} {book : Ledger}
  {session : Session} {hostData : HostData} {ticket : Envelope}

/-- An issued ticket carries the office's format byte and the sealed session. -/
theorem sealed_of_issued {calls : List Call}
    (member : .issued session hostData (.ok ticket) ∈ (office.run calls).1) :
    ticket.header = office.header ∧
      office.cipher.encrypt ticket.index ticket.context session.encode =
        .ok ticket.sealedBytes := by
  obtain ⟨before, after, split⟩ := List.append_of_mem member
  obtain ⟨early, call, late, -, -, happens⟩ := run_split split
  obtain ⟨cipher, header⟩ := office.run_frame early
  generalize (office.run early).2 = reached at happens cipher header
  rw [← cipher, ← header]
  cases call with
  | check presented => simp [perform] at happens
  | issue session' hostData' =>
    rcases reached.issue_cases session' hostData' with ⟨e, refused⟩ | ⟨issued, -, wrapped, answer⟩
    · simp [perform, refused] at happens
    · simp only [perform, answer, Event.issued.injEq, Except.ok.injEq] at happens
      obtain ⟨rfl, rfl, rfl⟩ := happens
      exact ⟨((wrap_eq_ok_iff _).mp wrapped).1, encrypt_of_wrap wrapped⟩

/-- Whether an issued ticket is outstanding can be read off the events: nobody
redeemed its index, and fewer than `capacity` tickets were issued after it. -/
theorem Recorded.outstanding_iff {earlier between : List Event}
    (record : Recorded first events book)
    (issue : events = earlier ++ .issued session hostData (.ok ticket) :: between) :
    ticket.index.toInt ∈ book.outstanding ↔
      ticket.index ∉ acceptedIndices events ∧ (issuedIndices between).length < book.capacity := by
  subst issue
  have distance := record.distance
  have issued : ticket.index ∈
      issuedIndices (earlier ++ .issued session hostData (.ok ticket) :: between) := by
    rw [issuedIndices_append]
    exact List.mem_append_right _ List.mem_cons_self
  have recent : book.next - book.capacity ≤ ticket.index.toInt ↔
      (issuedIndices between).length < book.capacity := by omega
  rw [record.outstanding, recent]
  simp only [issued, true_and]

/-- Completeness of resumption, for every cipher that opens what it sealed. A
check of an issued ticket, at whatever point of a run of a new office, answers
the session that the ticket was issued for exactly if no check before accepted
its index and fewer than `capacity` tickets were issued after it. Otherwise the
ticket is invalid. -/
theorem issued_tickets_resume (cipher : Cipher) (faithful : cipher.Faithful) (header : UInt8)
    (first : Index) (capacity : Nat) (window : Window)
    (opened : Window.new first capacity = .ok window) (calls : List Call)
    (before later : List Event) (ticket : Envelope) (answer : Result Session)
    (split : (run ⟨cipher, window, header⟩ calls).1 = before ++ .checked ticket answer :: later)
    (earlier between : List Event) (session : Session) (hostData : HostData)
    (issue : before = earlier ++ .issued session hostData (.ok ticket) :: between) :
    answer =
      if ticket.index ∉ acceptedIndices before ∧ (issuedIndices between).length < capacity then
        .ok session
      else .error .invalidTicket := by
  obtain ⟨early, call, late, -, events, happens⟩ := run_split split
  have member : .issued session hostData (.ok ticket) ∈
      (run ⟨cipher, window, header⟩ early).1 := by
    rw [events, issue]
    exact List.mem_append_right _ List.mem_cons_self
  obtain ⟨own, encrypted⟩ := sealed_of_issued member
  obtain ⟨book, rep, record, size⟩ := run_recorded ⟨cipher, window, header⟩ opened early
  obtain ⟨same, header'⟩ := run_frame ⟨cipher, window, header⟩ early
  rw [events] at record
  have fate := (rep.isOutstanding_iff ticket.index).trans (record.outstanding_iff issue)
  rw [size] at fate
  generalize (run ⟨cipher, window, header⟩ early).2 = office at happens fate same header'
  have answered : answer = (office.check ticket).1 := by
    cases call with
    | issue session' hostData' => simp [perform] at happens
    | check presented =>
      simp only [perform, Event.checked.injEq] at happens
      rw [← happens.1, happens.2]
  rw [answered]
  split
  · next alive =>
    have decrypts : office.cipher.decrypt ticket.index ticket.context ticket.sealedBytes =
        .ok session.encode := by
      rw [same]
      exact faithful _ _ _ _ encrypted
    rw [check_of_decrypts (own.trans header'.symm) (fate.mpr alive) decrypts]
  · next gone => rw [check_of_not_outstanding (mt fate.mp gone)]

deriving instance DecidableEq for Event

/-- A forgery with the index of the first ticket is turned away and a second
ticket is issued, which is as many as a window of two allows. The first ticket
still resumes its session. -/
theorem issued_tickets_resume_after_forgery :
    let key : TicketKey := ⟨⟨List.replicate 32 7, rfl⟩⟩
    let session : Session :=
      ⟨⟨⟨List.replicate 32 4, rfl⟩⟩, ⟨⟨List.replicate 32 9, rfl⟩⟩⟩
    let hostData : HostData := ⟨List.replicate 8 0, rfl⟩
    let blank : Envelope :=
      ⟨1, 0, hostData, List.replicate 16 0, 16, rfl, by decide, by decide⟩
    (Cipher.chacha key).Faithful ∧ ∃ window, Window.new (-1) 2 = .ok window ∧
      let office : Office := ⟨Cipher.chacha key, window, 1⟩
      let ticket := (office.wrap session hostData (-1)).toOption.getD blank
      let second := (office.wrap session hostData 0).toOption.getD blank
      let forged := { ticket with hostData := ⟨List.replicate 8 1, rfl⟩ }
      let between : List Event :=
        [.checked forged (.error .invalidTicket), .issued session hostData (.ok second)]
      let before := .issued session hostData (.ok ticket) :: between
      (office.run [.issue session hostData, .check forged, .issue session hostData,
        .check ticket]).1 = before ++ [.checked ticket (.ok session)] ∧
      (.ok session : Result Session) =
        if ticket.index ∉ acceptedIndices before ∧ (issuedIndices between).length < 2 then
          .ok session
        else .error .invalidTicket := by
  intro key session hostData blank
  refine ⟨Cipher.chacha_faithful key, _, rfl, ?_⟩
  intro office ticket second forged between before
  have split : (office.run [.issue session hostData, .check forged, .issue session hostData,
      .check ticket]).1 = before ++ [.checked ticket (.ok session)] := by
    decide +kernel
  exact ⟨split, issued_tickets_resume (Cipher.chacha key) (Cipher.chacha_faithful key) 1 (-1) 2 _
    rfl _ before [] ticket (.ok session) split [] between session hostData rfl⟩

end Resumption.Office
