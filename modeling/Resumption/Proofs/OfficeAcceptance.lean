import Resumption.Proofs.OfficeSealing

/-! Which tickets an office accepts, if its cipher opens exactly what it seals. A
check and an issue find format byte, index, context and sealed text in ways of
their own; the answer of a check is determined by what an issue would give, in both
directions. So for a session, an index and host data there is one ticket that is
accepted, and it is accepted as long as the index is outstanding. -/
namespace Resumption.Office

variable {office other : Office} {session : Session} {hostData : HostData} {ticket : Envelope}
  {i : Index}

/-- Wrapping asks for the cipher and the format byte of an office only. -/
theorem wrap_congr (cipher : office.cipher = other.cipher) (header : office.header = other.header) :
    office.wrap session hostData i = other.wrap session hostData i := by
  unfold wrap
  rw [cipher, header]

/-- A ticket is what wrapping gives under its own index and host data exactly if it
has the office's format byte and the session sealed under what it shows. -/
theorem wrap_own_iff :
    office.wrap session ticket.hostData ticket.index = .ok ticket ↔
      ticket.header = office.header ∧
        office.cipher.encrypt ticket.index ticket.context session.encode =
          .ok ticket.sealedBytes := by
  constructor
  · intro wrapped
    exact ⟨((wrap_eq_ok_iff _).mp wrapped).1, encrypt_of_wrap wrapped⟩
  · rintro ⟨own, encrypted⟩
    rw [Envelope.context, own] at encrypted
    exact (wrap_eq_ok_iff _).mpr ⟨own, rfl, rfl, encrypted⟩

/-- With an exact cipher a check accepts what wrapping gives and nothing else. -/
theorem check_accepts_iff_wrap (exact : office.cipher.Exact) :
    (office.check ticket).1 = .ok session ↔
      ticket.header = office.header ∧ office.window.isOutstanding ticket.index = true ∧
        office.wrap session ticket.hostData ticket.index = .ok ticket := by
  rw [check_accepts_iff, wrap_own_iff, exact]
  tauto

/-- Exact acceptance, at every point of every run of a new office whose cipher opens
exactly what it seals. A check answers a session if and only if the ticket has the
office's format byte, its index is outstanding, and the ticket is the envelope that
holds this session under this index with this host data. That envelope is the answer
of every office with the same cipher and format byte that issues the index next. The
index is outstanding if the run issued it, no check of the run has accepted it, and
it is among the last `capacity` ones. -/
theorem tickets_accepted_exactly_as_issued (cipher : Cipher) (exact : cipher.Exact)
    (header : UInt8) (first : Index) (capacity : Nat) (window : Window)
    (opened : Window.new first capacity = .ok window) (calls : List Call) (ticket : Envelope)
    (session : Session) :
    let events := (run ⟨cipher, window, header⟩ calls).1
    let office := (run ⟨cipher, window, header⟩ calls).2
    ((office.check ticket).1 = .ok session ↔
      ticket.header = header ∧ office.window.isOutstanding ticket.index = true ∧
        office.wrap session ticket.hostData ticket.index = .ok ticket) ∧
    (∀ other : Window, other.next = ticket.index → ticket.index ≠ Index.last →
      (issue ⟨cipher, other, header⟩ session ticket.hostData).1 =
        office.wrap session ticket.hostData ticket.index) ∧
    (office.window.isOutstanding ticket.index = true ↔
      ticket.index ∈ issuedIndices events ∧ ticket.index ∉ acceptedIndices events ∧
        first.toInt + (issuedIndices events).length - capacity ≤ ticket.index.toInt) := by
  intro events office
  obtain ⟨same, own⟩ := run_frame ⟨cipher, window, header⟩ calls
  obtain ⟨book, rep, record, size⟩ := run_recorded ⟨cipher, window, header⟩ opened calls
  refine ⟨?_, fun other next more => ?_, ?_⟩
  · rw [check_accepts_iff_wrap (same ▸ exact)]
    show ticket.header = office.header ∧ _ ↔ _
    rw [show office.header = header from own]
  · have answer : (issue ⟨cipher, other, header⟩ session ticket.hostData).1 =
        wrap ⟨cipher, other, header⟩ session ticket.hostData other.next :=
      issue_answer (next ▸ more)
    rw [answer, next]
    exact wrap_congr same.symm own.symm
  · rw [rep.isOutstanding_iff, record.outstanding, record.next, size]

/-- Two tickets are issued, 5 and 6. The first one resumes its session. A text of one
byte more than a session, sealed as a ticket would be under the outstanding index 6,
is accepted for no session. -/
theorem tickets_accepted_exactly_as_issued_of_own_length :
    let key : TicketKey := ⟨⟨List.replicate 32 7, rfl⟩⟩
    let session : Session :=
      ⟨⟨⟨List.replicate 32 4, rfl⟩⟩, ⟨⟨List.replicate 32 9, rfl⟩⟩⟩
    let hostData : HostData := ⟨List.replicate 8 0, rfl⟩
    let sealedBytes := Cipher.sealUnder key.octets (Cipher.nonce 6) (sealContext 1 6 hostData)
      (List.replicate 65 4)
    (Cipher.chacha key).Exact ∧ ∃ window, Window.new 5 2 = .ok window ∧
      let calls : List Call := [.issue session hostData, .issue session hostData]
      let office := (run ⟨Cipher.chacha key, window, 1⟩ calls).2
      (∃ ticket, office.wrap session hostData 5 = .ok ticket ∧
        (office.check ticket).1 = .ok session) ∧
      ∃ ticket, Envelope.make 1 6 hostData sealedBytes = .ok ticket ∧
        office.window.isOutstanding 6 = true ∧ ∀ other, (office.check ticket).1 ≠ .ok other := by
  intro key session hostData sealedBytes
  have exact := Cipher.chacha_exact key
  refine ⟨exact, _, rfl, ?_⟩
  intro calls office
  have accepted := tickets_accepted_exactly_as_issued _ exact 1 5 2 _ rfl calls
  constructor
  · obtain ⟨ticket, wrapped, -⟩ := wrap_chacha office rfl session hostData 5
    obtain ⟨own, index, data, -⟩ := (wrap_eq_ok_iff _).mp wrapped
    refine ⟨ticket, wrapped, (accepted ticket session).1.mpr ⟨own, ?_, ?_⟩⟩
    · rw [index]
      decide +kernel
    · rw [data, index]
      exact wrapped
  · have length : sealedBytes.length = 81 := by decide +kernel
    have outstanding : office.window.isOutstanding 6 = true := by decide +kernel
    refine ⟨⟨1, 6, hostData, sealedBytes, 81, length, by decide, by decide⟩,
      (Envelope.make_eq_ok_iff _ _ _ _ _).mpr ⟨rfl, rfl, rfl, rfl⟩, outstanding, ?_⟩
    intro other answer
    obtain ⟨-, -, wrapped⟩ := (accepted _ other).1.mp answer
    have whole := Cipher.length_of_chachaEncrypt (encrypt_of_wrap wrapped)
    rw [other.length_encode] at whole
    exact absurd (length.symm.trans whole) (by decide)

end Resumption.Office
