import Resumption.Office
import Resumption.Proofs.SessionCodec
import Resumption.Proofs.WindowLedger

/-! What a call to a ticket office can do, and sequences of calls with their
answers. Clients may call at the same time; the lock of the window puts their
calls in an order, and that order is the list of calls here. `issue_cases` and
`check_cases` say all that later proofs use of the two operations. -/
namespace Resumption.Office

variable {office : Office} {session : Session} {hostData : HostData} {ticket : Envelope}

/-- A ticket is wrapped exactly if it shows what it was made for and its sealed
bytes are what the cipher made of the session. -/
theorem wrap_eq_ok_iff (i : Index) :
    office.wrap session hostData i = .ok ticket ↔
      ticket.header = office.header ∧ ticket.index = i ∧ ticket.hostData = hostData ∧
        office.cipher.encrypt i (sealContext office.header i hostData) session.encode =
          .ok ticket.sealedBytes := by
  unfold wrap
  cases office.cipher.encrypt i (sealContext office.header i hostData) session.encode with
  | error e => simp [bind, Except.bind]
  | ok sealedBytes =>
    refine (Envelope.make_eq_ok_iff office.header i hostData sealedBytes ticket).trans ?_
    rw [Except.ok.injEq, eq_comm (a := ticket.header), eq_comm (a := ticket.index),
      eq_comm (a := ticket.hostData)]

/-- What is sealed in a wrapped ticket is sealed under what the ticket shows. -/
theorem encrypt_of_wrap {i : Index} (wrapped : office.wrap session hostData i = .ok ticket) :
    office.cipher.encrypt ticket.index ticket.context session.encode = .ok ticket.sealedBytes := by
  obtain ⟨own, index, data, encrypted⟩ := (wrap_eq_ok_iff i).mp wrapped
  rw [Envelope.context, own, index, data]
  exact encrypted

/-- A ticket opens to a session exactly if its sealed bytes decrypt to the
encoding of the session. -/
theorem unwrap_eq_ok_iff :
    office.unwrap ticket = .ok session ↔
      office.cipher.decrypt ticket.index ticket.context ticket.sealedBytes =
        .ok session.encode := by
  unfold unwrap
  cases office.cipher.decrypt ticket.index ticket.context ticket.sealedBytes with
  | error e => simp
  | ok text =>
    simp only [Except.ok.injEq]
    split
    · next whole =>
      rw [← Session.decode_eq_ok_iff text session whole]
      cases Session.decode text 0 <;> simp
    · next ragged =>
      have other : text ≠ session.encode := fun same => ragged (same ▸ session.length_encode)
      simp [other]

/-- Whatever keeps a ticket from opening, the ticket is invalid. -/
theorem unwrap_error {e : Error} (refused : office.unwrap ticket = .error e) :
    e = .invalidTicket := by
  unfold unwrap at refused
  repeat' split at refused
  all_goals cases refused <;> rfl

/-- Issuing either fails and changes nothing, or gives the ticket for the next
index, which is not the last of all, and goes on to the index after it. -/
theorem issue_cases (office : Office) (session : Session) (hostData : HostData) :
    (∃ e, office.issue session hostData = (.error e, office)) ∨
      ∃ ticket, office.window.next ≠ Index.last ∧
        office.wrap session hostData office.window.next = .ok ticket ∧
        office.issue session hostData =
          (.ok ticket, { office with window := office.window.advance }) := by
  unfold issue Window.issueWith
  by_cases last : office.window.next = Index.last
  · rw [if_pos last]
    exact .inl ⟨_, rfl⟩
  · rw [if_neg last]
    cases wrapped : office.wrap session hostData office.window.next with
    | error e => exact .inl ⟨e, rfl⟩
    | ok ticket => exact .inr ⟨ticket, last, rfl, rfl⟩

/-- Checking either calls the ticket invalid and changes nothing, or it finds
the office's own format byte, an outstanding index and sealed bytes that
decrypt to the session it answers, and redeems the index. -/
theorem check_cases (office : Office) (ticket : Envelope) :
    office.check ticket = (.error .invalidTicket, office) ∨
      ∃ session, ticket.header = office.header ∧
        office.window.isOutstanding ticket.index = true ∧
        office.cipher.decrypt ticket.index ticket.context ticket.sealedBytes =
          .ok session.encode ∧
        office.check ticket =
          (.ok session, { office with window := office.window.clear ticket.index }) := by
  unfold check Window.redeemWith
  by_cases own : ticket.header = office.header
  · by_cases valid : office.window.isOutstanding ticket.index = true
    · rw [if_pos own, if_pos valid]
      cases opened : office.unwrap ticket with
      | error e =>
        rw [unwrap_error opened]
        exact .inl rfl
      | ok session => exact .inr ⟨session, own, valid, unwrap_eq_ok_iff.mp opened, rfl⟩
    · rw [if_pos own, if_neg valid]
      exact .inl rfl
  · rw [if_neg own]
    exact .inl rfl

/-- What is not outstanding is turned away, whatever else it carries. -/
theorem check_of_not_outstanding (gone : ¬ office.window.isOutstanding ticket.index = true) :
    office.check ticket = (.error .invalidTicket, office) := by
  rcases office.check_cases ticket with refused | ⟨session, -, valid, -, -⟩
  · exact refused
  · exact absurd valid gone

/-- The three things that `check_cases` finds are all that it takes. -/
theorem check_of_decrypts (own : ticket.header = office.header)
    (valid : office.window.isOutstanding ticket.index = true)
    (decrypts : office.cipher.decrypt ticket.index ticket.context ticket.sealedBytes =
      .ok session.encode) :
    office.check ticket =
      (.ok session, { office with window := office.window.clear ticket.index }) := by
  have opens : office.unwrap ticket = .ok session := unwrap_eq_ok_iff.mpr decrypts
  simp only [check, Window.redeemWith, if_pos own, if_pos valid, opens]

/-- A check answers a session exactly if the ticket has the office's own format
byte, an outstanding index and sealed bytes that decrypt to the session. -/
theorem check_accepts_iff :
    (office.check ticket).1 = .ok session ↔
      ticket.header = office.header ∧ office.window.isOutstanding ticket.index = true ∧
        office.cipher.decrypt ticket.index ticket.context ticket.sealedBytes =
          .ok session.encode := by
  constructor
  · intro accepted
    rcases office.check_cases ticket with refused | ⟨found, own, valid, decrypts, answer⟩
    · rw [refused] at accepted
      cases accepted
    · rw [answer] at accepted
      cases accepted
      exact ⟨own, valid, decrypts⟩
  · rintro ⟨own, valid, decrypts⟩
    rw [check_of_decrypts own valid decrypts]

/-- Where an index is left, issuing answers the session wrapped under it. -/
theorem issue_answer (more : office.window.next ≠ Index.last) :
    (office.issue session hostData).1 = office.wrap session hostData office.window.next := by
  unfold issue Window.issueWith
  rw [if_neg more]
  cases office.wrap session hostData office.window.next <;> rfl

/-- Where no index is left, nothing is issued. -/
theorem issue_of_last (last : office.window.next = Index.last) :
    office.issue session hostData = (.error .exhausted, office) := by
  simp only [issue, Window.issueWith, if_pos last]

/-- Issuing succeeds where an index is left and the session can be wrapped under it. -/
theorem issue_of_wrap (more : office.window.next ≠ Index.last)
    (wrapped : office.wrap session hostData office.window.next = .ok ticket) :
    office.issue session hostData =
      (.ok ticket, { office with window := office.window.advance }) := by
  simp only [issue, Window.issueWith, if_neg more, wrapped]
  rfl

/-! Sequences of calls -/

/-- What is asked of an office. Clients may present any envelope. -/
inductive Call
  | issue (session : Session) (hostData : HostData)
  | check (ticket : Envelope)

/-- A call and how the office answered it. -/
inductive Event
  | issued (session : Session) (hostData : HostData) (answer : Result Envelope)
  | checked (ticket : Envelope) (answer : Result Session)

/-- What happens at a call, and the office afterwards. -/
def perform (office : Office) : Call → Event × Office
  | .issue session hostData =>
    let (answer, office) := office.issue session hostData
    (.issued session hostData answer, office)
  | .check ticket =>
    let (answer, office) := office.check ticket
    (.checked ticket answer, office)

/-- What happens at a sequence of calls, and the office after the last. -/
def run (office : Office) : List Call → List Event × Office
  | [] => ([], office)
  | call :: calls =>
    let (event, office) := office.perform call
    let (events, last) := office.run calls
    (event :: events, last)

/-- The index of the ticket that an event issues. -/
def Event.issuedIndex? : Event → Option Index
  | .issued _ _ (.ok ticket) => some ticket.index
  | _ => none

/-- The index of the ticket that an event accepts. -/
def Event.acceptedIndex? : Event → Option Index
  | .checked ticket (.ok _) => some ticket.index
  | _ => none

/-- The indices of the tickets that were issued, in order. -/
def issuedIndices (events : List Event) : List Index :=
  events.filterMap Event.issuedIndex?

/-- The indices of the tickets that were accepted, in order. -/
def acceptedIndices (events : List Event) : List Index :=
  events.filterMap Event.acceptedIndex?

theorem run_cons (office : Office) (call : Call) (calls : List Call) :
    office.run (call :: calls) =
      ((office.perform call).1 :: ((office.perform call).2.run calls).1,
        ((office.perform call).2.run calls).2) := rfl

@[simp] theorem issuedIndices_append (before after : List Event) :
    issuedIndices (before ++ after) = issuedIndices before ++ issuedIndices after :=
  List.filterMap_append

@[simp] theorem acceptedIndices_append (before after : List Event) :
    acceptedIndices (before ++ after) = acceptedIndices before ++ acceptedIndices after :=
  List.filterMap_append

theorem run_append (office : Office) (first second : List Call) :
    office.run (first ++ second) =
      ((office.run first).1 ++ ((office.run first).2.run second).1,
        ((office.run first).2.run second).2) := by
  induction first generalizing office with
  | nil => rfl
  | cons call first ih => simp only [List.cons_append, run_cons, ih]

theorem run_concat (office : Office) (calls : List Call) (call : Call) :
    office.run (calls ++ [call]) =
      ((office.run calls).1 ++ [((office.run calls).2.perform call).1],
        ((office.run calls).2.perform call).2) := by
  rw [run_append]
  rfl

/-- Where a run has an event, the calls before it lead to the events before it,
and the event is what happens at the next call. -/
theorem run_split {calls : List Call} {before after : List Event} {event : Event}
    (split : (office.run calls).1 = before ++ event :: after) :
    ∃ early call late, calls = early ++ call :: late ∧ (office.run early).1 = before ∧
      ((office.run early).2.perform call).1 = event := by
  induction calls generalizing office before with
  | nil => simp [run] at split
  | cons call calls ih =>
    cases before with
    | nil => exact ⟨[], call, calls, rfl, rfl, (List.cons.inj split).1⟩
    | cons head before =>
      rw [run_cons] at split
      obtain ⟨same, rest⟩ := List.cons.inj split
      obtain ⟨early, next, late, rfl, events, happens⟩ := ih rest
      exact ⟨call :: early, next, late, rfl, by rw [run_cons, same, events], happens⟩

/-- A call leaves the cipher and the format byte as they are. -/
theorem perform_frame (office : Office) (call : Call) :
    (office.perform call).2.cipher = office.cipher ∧
      (office.perform call).2.header = office.header := by
  cases call with
  | issue session hostData => exact ⟨rfl, rfl⟩
  | check ticket =>
    rcases office.check_cases ticket with same | ⟨session, -, -, -, same⟩ <;>
      simp [perform, same]

theorem run_frame (office : Office) (calls : List Call) :
    (office.run calls).2.cipher = office.cipher ∧ (office.run calls).2.header = office.header := by
  induction calls generalizing office with
  | nil => exact ⟨rfl, rfl⟩
  | cons call calls ih =>
    obtain ⟨cipher, header⟩ := office.perform_frame call
    exact ⟨(ih _).1.trans cipher, (ih _).2.trans header⟩

end Resumption.Office
