import Resumption.Proofs.OfficeCalls

/-! No ticket is accepted twice, whatever the cipher does. The events of a run
determine the ledger of its window: what can be redeemed is what was issued,
was not accepted since, and is recent. Nothing is assumed of encryption or
decryption; a forged envelope is at worst accepted in the place of the ticket
whose index it carries. -/
namespace Resumption.Office

variable {first : Index} {events : List Event} {book : Ledger} {ticket : Envelope}

/-- The events of a run that began at `first` account for a ledger. -/
structure Recorded (first : Index) (events : List Event) (book : Ledger) : Prop where
  next : book.next = first.toInt + (issuedIndices events).length
  consecutive : ∀ k (inside : k < (issuedIndices events).length),
    (issuedIndices events)[k].toInt = first.toInt + k
  outstanding : ∀ i : Index, i.toInt ∈ book.outstanding ↔
    i ∈ issuedIndices events ∧ i ∉ acceptedIndices events ∧ book.next - book.capacity ≤ i.toInt
  issued : ∀ i ∈ acceptedIndices events, i ∈ issuedIndices events
  once : (acceptedIndices events).Nodup

namespace Recorded

theorem new (first : Index) (capacity : Nat) :
    Recorded first [] (Ledger.new first.toInt capacity) where
  next := by simp [Ledger.new, issuedIndices]
  consecutive := by simp [issuedIndices]
  outstanding := by simp [Ledger.new, issuedIndices]
  issued := by simp [acceptedIndices]
  once := List.nodup_nil

/-- What was issued lies below the next index. -/
theorem lt_next (record : Recorded first events book) {i : Index}
    (member : i ∈ issuedIndices events) : i.toInt < book.next := by
  obtain ⟨k, inside, rfl⟩ := List.mem_iff_getElem.mp member
  rw [record.consecutive k inside, record.next]
  omega

/-- No index was issued twice. -/
theorem issuedOnce (record : Recorded first events book) : (issuedIndices events).Nodup := by
  rw [List.nodup_iff_injective_getElem]
  intro k l same
  have earlier := record.consecutive k k.isLt
  have later := record.consecutive l l.isLt
  have together := congrArg Int64.toInt same
  rw [earlier, later] at together
  omega

/-- Issuing the next index is recorded by moving the ledger on. -/
theorem issue (record : Recorded first events book) (session : Session) (hostData : HostData)
    (index : ticket.index.toInt = book.next) :
    Recorded first (events ++ [.issued session hostData (.ok ticket)]) book.advance := by
  have one : issuedIndices [.issued session hostData (.ok ticket)] = [ticket.index] := rfl
  have none : acceptedIndices [.issued session hostData (.ok ticket)] = [] := rfl
  constructor
  · rw [issuedIndices_append, one, List.length_append, List.length_singleton]
    show book.next + 1 = _
    rw [record.next, Nat.cast_succ, Int.add_assoc]
  · intro k inside
    simp only [issuedIndices_append, one, List.length_append, List.length_singleton] at inside ⊢
    rw [List.getElem_append]
    split
    · next early => exact record.consecutive k early
    · next late =>
      have newest : k = (issuedIndices events).length := by omega
      rw [List.getElem_singleton, index, record.next, newest]
  · intro i
    have fresh : i.toInt = book.next ↔ i = ticket.index := by
      rw [← index, Int64.toInt_inj]
    have unaccepted : i = ticket.index → i ∉ acceptedIndices events := by
      rintro rfl accepted
      have := record.lt_next (record.issued _ accepted)
      omega
    simp only [Ledger.advance, Finset.mem_filter, Finset.mem_insert, record.outstanding, fresh,
      issuedIndices_append, acceptedIndices_append, one, none, List.append_nil, List.mem_append,
      List.mem_singleton]
    constructor
    · rintro ⟨rfl | ⟨issued, open_, -⟩, recent⟩
      · exact ⟨.inr rfl, unaccepted rfl, recent⟩
      · exact ⟨.inl issued, open_, recent⟩
    · rintro ⟨issued | rfl, open_, recent⟩
      · exact ⟨.inr ⟨issued, open_, by omega⟩, recent⟩
      · exact ⟨.inl rfl, recent⟩
  · intro i accepted
    rw [acceptedIndices_append, none, List.append_nil] at accepted
    rw [issuedIndices_append]
    exact List.mem_append_left _ (record.issued i accepted)
  · rw [acceptedIndices_append, none, List.append_nil]
    exact record.once

/-- Accepting a ticket is recorded by settling its index. -/
theorem accept (record : Recorded first events book) (session : Session)
    (valid : ticket.index.toInt ∈ book.outstanding) :
    Recorded first (events ++ [.checked ticket (.ok session)])
      (book.settle ticket.index.toInt) := by
  have none : issuedIndices [.checked ticket (.ok session)] = [] := rfl
  have one : acceptedIndices [.checked ticket (.ok session)] = [ticket.index] := rfl
  obtain ⟨issued, unaccepted, -⟩ := (record.outstanding ticket.index).mp valid
  constructor
  · rw [issuedIndices_append, none, List.append_nil]
    exact record.next
  · simpa only [issuedIndices_append, none, List.append_nil] using record.consecutive
  · intro i
    simp only [Ledger.settle, Finset.mem_erase, record.outstanding, issuedIndices_append,
      acceptedIndices_append, one, none, List.append_nil, List.mem_append, List.mem_singleton,
      not_or, Ne, Int64.toInt_inj]
    tauto
  · intro i accepted
    rw [acceptedIndices_append, one, List.mem_append, List.mem_singleton] at accepted
    rw [issuedIndices_append, none, List.append_nil]
    rcases accepted with accepted | rfl
    · exact record.issued i accepted
    · exact issued
  · rw [acceptedIndices_append, one]
    exact record.once.append (List.nodup_singleton _)
      (List.disjoint_singleton.mpr unaccepted)

/-- An event that neither issues nor accepts leaves the record as it is. -/
theorem silent (record : Recorded first events book) {event : Event}
    (unissued : event.issuedIndex? = none) (unaccepted : event.acceptedIndex? = none) :
    Recorded first (events ++ [event]) book := by
  have issued : issuedIndices (events ++ [event]) = issuedIndices events := by
    simp [issuedIndices, unissued]
  have accepted : acceptedIndices (events ++ [event]) = acceptedIndices events := by
    simp [acceptedIndices, unaccepted]
  constructor
  · rw [issued]
    exact record.next
  · simpa only [issued] using record.consecutive
  · simpa only [issued, accepted] using record.outstanding
  · simpa only [issued, accepted] using record.issued
  · rw [accepted]
    exact record.once

end Recorded

/-- One call keeps a ledger that both represents the window and accounts for
the events. -/
theorem perform_recorded {office : Office} (rep : office.window.Represents book)
    (record : Recorded first events book) (call : Call) :
    ∃ later, (office.perform call).2.window.Represents later ∧
      Recorded first (events ++ [(office.perform call).1]) later ∧
      later.capacity = book.capacity := by
  cases call with
  | issue session hostData =>
    rcases office.issue_cases session hostData with ⟨e, refused⟩ | ⟨ticket, more, wrapped, issued⟩
    · simp only [perform, refused]
      exact ⟨book, rep, record.silent rfl rfl, rfl⟩
    · simp only [perform, issued]
      have index : ticket.index.toInt = book.next := by
        rw [((wrap_eq_ok_iff _).mp wrapped).2.1, rep.next]
      exact ⟨book.advance, rep.advance more, record.issue session hostData index, rfl⟩
  | check ticket =>
    rcases office.check_cases ticket with refused | ⟨session, -, valid, -, accepted⟩
    · simp only [perform, refused]
      exact ⟨book, rep, record.silent rfl rfl, rfl⟩
    · simp only [perform, accepted]
      have member := (rep.isOutstanding_iff _).mp valid
      exact ⟨_, rep.settle member, record.accept session member, rfl⟩

/-- After every run of a new office some ledger represents its window and is
accounted for by the events of the run. -/
theorem run_recorded (office : Office) {capacity : Nat}
    (opened : Window.new first capacity = .ok office.window) (calls : List Call) :
    ∃ book, (office.run calls).2.window.Represents book ∧
      Recorded first (office.run calls).1 book ∧ book.capacity = capacity := by
  induction calls using List.reverseRecOn with
  | nil => exact ⟨_, .of_new opened, .new first capacity, rfl⟩
  | append_singleton calls call ih =>
    obtain ⟨book, rep, record, size⟩ := ih
    obtain ⟨later, rep, record, same⟩ := perform_recorded rep record call
    rw [run_concat]
    exact ⟨later, rep, record, same.trans size⟩

/-- An index that was issued was issued by some event of the run. -/
theorem exists_issue_of_mem {i : Index} (member : i ∈ issuedIndices events) :
    ∃ earlier session hostData ticket between,
      events = earlier ++ .issued session hostData (.ok ticket) :: between ∧ ticket.index = i := by
  obtain ⟨event, inside, index⟩ := List.mem_filterMap.mp member
  obtain ⟨earlier, between, rfl⟩ := List.append_of_mem inside
  unfold Event.issuedIndex? at index
  split at index
  · next session hostData ticket =>
    exact ⟨earlier, session, hostData, ticket, between, rfl, Option.some.inj index⟩
  · cases index

/-- The index of a ticket lies as far back as tickets were issued after it. -/
theorem Recorded.distance {earlier between : List Event} {session : Session} {hostData : HostData}
    (record : Recorded first (earlier ++ .issued session hostData (.ok ticket) :: between) book) :
    ticket.index.toInt + (issuedIndices between).length + 1 = book.next := by
  have indices : issuedIndices (earlier ++ .issued session hostData (.ok ticket) :: between) =
      issuedIndices earlier ++ ticket.index :: issuedIndices between := by
    rw [issuedIndices_append]
    rfl
  have position := record.consecutive (issuedIndices earlier).length (by simp [indices])
  have next := record.next
  simp only [indices, List.getElem_append_right (le_refl _), Nat.sub_self,
    List.getElem_cons_zero] at position
  simp only [indices, List.length_append, List.length_cons] at next
  omega

/-- An outstanding index was issued with fewer than `capacity` issues after it. -/
theorem Recorded.issue_of_outstanding (record : Recorded first events book) {i : Index}
    (valid : i.toInt ∈ book.outstanding) :
    ∃ earlier session hostData issued between,
      events = earlier ++ .issued session hostData (.ok issued) :: between ∧ issued.index = i ∧
        (issuedIndices between).length < book.capacity := by
  obtain ⟨member, -, recent⟩ := (record.outstanding i).mp valid
  obtain ⟨earlier, session, hostData, issued, between, rfl, index⟩ := exists_issue_of_mem member
  have distance := record.distance
  rw [index] at distance
  exact ⟨earlier, session, hostData, issued, between, rfl, index, by omega⟩

/-- Replay safety, for every cipher and in whatever order clients get their
turn: a run of a new office accepts each index at most once, and what it
accepts carries the format byte of the office and the index of a ticket that
was issued before, fewer than `capacity` issues ago. -/
theorem tickets_accepted_at_most_once (cipher : Cipher) (header : UInt8) (first : Index)
    (capacity : Nat) (window : Window) (opened : Window.new first capacity = .ok window)
    (calls : List Call) :
    let events := (run ⟨cipher, window, header⟩ calls).1
    (acceptedIndices events).Nodup ∧
      ∀ before ticket session after,
        events = before ++ .checked ticket (.ok session) :: after →
        ticket.header = header ∧
          ∃ earlier issuedSession hostData issued between,
            before = earlier ++ .issued issuedSession hostData (.ok issued) :: between ∧
            issued.index = ticket.index ∧ (issuedIndices between).length < capacity := by
  intro events
  obtain ⟨book, -, record, -⟩ := run_recorded ⟨cipher, window, header⟩ opened calls
  refine ⟨record.once, fun before ticket session after split => ?_⟩
  obtain ⟨early, call, late, -, rfl, happens⟩ := run_split split
  obtain ⟨book, rep, record, size⟩ := run_recorded ⟨cipher, window, header⟩ opened early
  generalize reached : (run ⟨cipher, window, header⟩ early).2 = office at rep happens
  have own : office.header = header := reached ▸ (run_frame ⟨cipher, window, header⟩ early).2
  cases call with
  | issue session hostData => simp [perform] at happens
  | check presented =>
    rcases office.check_cases presented with refused | ⟨opens, format, valid, -, accepted⟩
    · simp [perform, refused] at happens
    · simp only [perform, accepted, Event.checked.injEq] at happens
      obtain ⟨rfl, -⟩ := happens
      refine ⟨format.trans own, ?_⟩
      rw [← size]
      exact record.issue_of_outstanding ((rep.isOutstanding_iff _).mp valid)

/-- A cipher that hides nothing and opens everything, to one and the same
session. -/
def pliant (session : Session) : Cipher where
  encrypt _ _ _ := .ok (List.replicate tagSize 0)
  decrypt _ _ _ := .ok session.encode

/-- With a cipher that opens everything, forged envelopes are accepted in the
place of the tickets 5 and 6, but neither index is accepted again. -/
theorem tickets_accepted_at_most_once_when_forged :
    let session : Session :=
      ⟨⟨⟨List.replicate 32 4, rfl⟩⟩, ⟨⟨List.replicate 32 9, rfl⟩⟩⟩
    let hostData : HostData := ⟨List.replicate 8 0, rfl⟩
    let forged (i : Index) : Envelope :=
      ⟨1, i, hostData, List.replicate 16 7, 16, rfl, by decide, by decide⟩
    let calls : List Call :=
      [.check (forged 5), .issue session hostData, .issue session hostData, .check (forged 6),
        .check (forged 6), .check (forged 5), .check (forged 5)]
    ∃ window, Window.new 5 2 = .ok window ∧
      (acceptedIndices (run ⟨pliant session, window, 1⟩ calls).1).Nodup ∧
      acceptedIndices (run ⟨pliant session, window, 1⟩ calls).1 = [6, 5] := by
  intro session hostData forged calls
  exact ⟨_, rfl, (tickets_accepted_at_most_once (pliant session) 1 5 2 _ rfl calls).1,
    by decide +kernel⟩

end Resumption.Office
