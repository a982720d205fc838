import Resumption.Proofs.OfficeCalls

/-! What is accepted was issued, in every field. The only thing assumed of the
cipher is that nothing is opened in a run but what was sealed earlier in the
same run, for the same index and context. Sealing and opening are read off the
calls to the cipher and not off the envelopes, so that the assumption says
nothing about the tickets themselves. -/
namespace Resumption.Office

variable {office : Office} {session : Session} {ticket : Envelope}

/-- One use of a cipher: a text and its sealed bytes, for an index and a
context. -/
structure Sealing where
  index : Index
  context : Bytes
  text : Bytes
  sealedBytes : Bytes
deriving DecidableEq

/-- What is sealed at a call that issues a ticket. -/
def sealing? (office : Office) : Call → Option Sealing
  | .issue session hostData =>
    let i := office.window.next
    let context := sealContext office.header i hostData
    match office.cipher.encrypt i context session.encode, (office.issue session hostData).1 with
    | .ok sealedBytes, .ok _ => some ⟨i, context, session.encode, sealedBytes⟩
    | _, _ => none
  | .check _ => none

/-- What is opened at a call. The cipher is asked only about tickets with the
right format byte and an outstanding index. -/
def opening? (office : Office) : Call → Option Sealing
  | .issue _ _ => none
  | .check ticket =>
    if ticket.header = office.header ∧ office.window.isOutstanding ticket.index = true then
      match office.cipher.decrypt ticket.index ticket.context ticket.sealedBytes with
      | .ok text => some ⟨ticket.index, ticket.context, text, ticket.sealedBytes⟩
      | .error _ => none
    else none

/-- What is sealed in a run. -/
def sealings (office : Office) : List Call → List Sealing
  | [] => []
  | call :: calls => (office.sealing? call).toList ++ (office.perform call).2.sealings calls

/-- Whatever is opened in a run was sealed earlier in the run. -/
def Unforged (office : Office) (calls : List Call) : Prop :=
  ∀ before call after, calls = before ++ call :: after →
    ∀ opening ∈ (office.run before).2.opening? call, opening ∈ office.sealings before

theorem unforged_iff (office : Office) (calls : List Call) :
    Unforged office calls ↔ ∀ k, (inside : k < calls.length) →
      ∀ opening ∈ (office.run (calls.take k)).2.opening? calls[k],
        opening ∈ office.sealings (calls.take k) := by
  constructor
  · intro unforged k inside
    refine unforged _ _ (calls.drop (k + 1)) ?_
    rw [← List.drop_eq_getElem_cons inside, List.take_append_drop]
  · rintro each before call after rfl
    simpa using each before.length (by simp)

instance (office : Office) (calls : List Call) : Decidable (Unforged office calls) :=
  decidable_of_iff _ (unforged_iff office calls).symm

/-- What is sealed at a call is the content of the ticket that the call issues. -/
theorem issued_of_sealing {call : Call} {made : Sealing}
    (seals : office.sealing? call = some made) :
    ∃ session ticket, (office.perform call).1 = .issued session ticket.hostData (.ok ticket) ∧
      ticket.header = office.header ∧
      made = ⟨ticket.index, ticket.context, session.encode, ticket.sealedBytes⟩ := by
  cases call with
  | check presented => simp [sealing?] at seals
  | issue session hostData =>
    rcases office.issue_cases session hostData with ⟨e, refused⟩ | ⟨ticket, -, wrapped, issued⟩
    · simp [sealing?, refused] at seals
    · obtain ⟨own, index, rfl, encrypted⟩ := (wrap_eq_ok_iff _).mp wrapped
      simp only [sealing?, encrypted, issued, Option.some.injEq] at seals
      refine ⟨session, ticket, by simp only [perform, issued], own, ?_⟩
      rw [← seals, Envelope.context, own, index]

/-- What was sealed in a run is the content of a ticket issued in the run. -/
theorem issued_of_mem_sealings {calls : List Call} {made : Sealing}
    (member : made ∈ office.sealings calls) :
    ∃ session ticket, .issued session ticket.hostData (.ok ticket) ∈ (office.run calls).1 ∧
      ticket.header = office.header ∧
      made = ⟨ticket.index, ticket.context, session.encode, ticket.sealedBytes⟩ := by
  induction calls generalizing office with
  | nil => cases member
  | cons call calls ih =>
    rw [sealings, List.mem_append] at member
    rw [run_cons]
    rcases member with now | later
    · obtain ⟨session, ticket, event, own, content⟩ :=
        issued_of_sealing (Option.mem_toList.mp now)
      exact ⟨session, ticket, event ▸ List.mem_cons_self, own, content⟩
    · obtain ⟨session, ticket, event, own, content⟩ := ih later
      exact ⟨session, ticket, List.mem_cons_of_mem _ event,
        own.trans (office.perform_frame call).2, content⟩

/-- If a check accepts a ticket, this very ticket was issued for the session
that the check answers. -/
theorem issued_of_accepted {calls before after : List Call} (unforged : Unforged office calls)
    (split : calls = before ++ .check ticket :: after)
    (accepted : ((office.run before).2.check ticket).1 = .ok session) :
    .issued session ticket.hostData (.ok ticket) ∈ (office.run before).1 := by
  rcases (office.run before).2.check_cases ticket with refused | ⟨opened, own, valid, decrypted, ok⟩
  · rw [refused] at accepted
    cases accepted
  · rw [ok] at accepted
    cases accepted
    have opening : (office.run before).2.opening? (.check ticket) =
        some ⟨ticket.index, ticket.context, session.encode, ticket.sealedBytes⟩ := by
      simp only [opening?, own, valid, and_self, if_true, decrypted]
    obtain ⟨origin, original, event, -, content⟩ :=
      issued_of_mem_sealings (unforged _ _ _ split _ opening)
    obtain ⟨-, contexts, texts, sealedBytes⟩ := Sealing.mk.inj content
    obtain ⟨headers, indices, data⟩ := sealContext_inj.mp contexts
    have same : ticket = original :=
      (Envelope.ext_iff ticket original).mpr ⟨headers, indices, data, sealedBytes⟩
    rw [Session.encode_injective texts, same]
    exact event

/-- Authenticity and binding. If nothing is opened in a run that was not sealed
in it, every accepted ticket equals a ticket that was issued earlier, in all of
its fields, and opens to the session it was issued for. Any other ticket, such
as one with a field altered or a ciphertext moved to another index, format byte
or host data, is called invalid and leaves the office as it was. -/
theorem accepted_tickets_are_authentic (office : Office) (calls : List Call)
    (unforged : Unforged office calls) :
    (∀ before ticket session after,
      (office.run calls).1 = before ++ .checked ticket (.ok session) :: after →
        .issued session ticket.hostData (.ok ticket) ∈ before) ∧
      ∀ before ticket after, calls = before ++ .check ticket :: after →
        (∀ session hostData, .issued session hostData (.ok ticket) ∉ (office.run before).1) →
          (office.run before).2.check ticket = (.error .invalidTicket, (office.run before).2) := by
  constructor
  · intro before ticket session after split
    obtain ⟨early, call, late, calls_eq, rfl, happens⟩ := run_split split
    cases call with
    | issue session hostData => simp [perform] at happens
    | check presented =>
      obtain ⟨rfl, accepted⟩ := Event.checked.inj happens
      exact issued_of_accepted unforged calls_eq accepted
  · intro before ticket after split foreign
    rcases (office.run before).2.check_cases ticket with refused | ⟨session, -, -, -, accepted⟩
    · exact refused
    · exact absurd (issued_of_accepted unforged split (by rw [accepted])) (foreign _ _)

/-- Two tickets are issued under a key. The first is presented under the index
of the second, with another format byte, with other host data, with a byte cut
off, and at last as it was issued, which is the only time it is accepted. -/
theorem accepted_tickets_are_authentic_when_altered :
    let session : Session :=
      ⟨⟨⟨List.replicate 32 4, rfl⟩⟩, ⟨⟨List.replicate 32 9, rfl⟩⟩⟩
    let hostData : HostData := ⟨List.replicate 8 0, rfl⟩
    let blank : Envelope :=
      ⟨1, 0, hostData, List.replicate 16 0, 16, rfl, by decide, by decide⟩
    ∃ office, start ⟨⟨List.replicate 32 7, rfl⟩⟩ 5 2 = .ok office ∧
      let ticket := (office.wrap session hostData 5).toOption.getD blank
      let calls : List Call :=
        [.issue session hostData, .issue session hostData, .check { ticket with index := 6 },
          .check { ticket with header := 2 },
          .check { ticket with hostData := ⟨List.replicate 8 1, rfl⟩ },
          .check (ticket.replaceSealed (ticket.sealedBytes.take 79)).2, .check ticket]
      Unforged office calls ∧ acceptedIndices (office.run calls).1 = [5] ∧
        ∀ before ticket session after,
          (office.run calls).1 = before ++ .checked ticket (.ok session) :: after →
            .issued session ticket.hostData (.ok ticket) ∈ before := by
  intro session hostData blank
  refine ⟨_, rfl, ?_⟩
  intro ticket calls
  refine ⟨by decide +kernel, by decide +kernel, ?_⟩
  exact (accepted_tickets_are_authentic _ calls (by decide +kernel)).1

end Resumption.Office
