import Resumption.Proofs.CipherInverse
import Resumption.Proofs.OfficeReplay

/-! What an office has its cipher seal. An index is taken after the session was sealed
under it and the envelope was made, so a failure in between would leave an index that
was sealed under and is still to be issued. There is none: a sealed session has a
length that an envelope admits, so whatever is sealed is handed out, and what cannot be
sealed leaves everything as it was. -/
namespace Resumption

/-- A cipher that adds a tag to a text and nothing else. -/
def Cipher.AppendsTag (cipher : Cipher) : Prop :=
  ∀ i context text sealedBytes, cipher.encrypt i context text = .ok sealedBytes →
    sealedBytes.length = text.length + tagSize

theorem Cipher.chacha_appendsTag (key : TicketKey) : (chacha key).AppendsTag :=
  fun _ _ _ _ => length_of_chachaEncrypt

namespace Office

variable {office : Office} {key : TicketKey} {session : Session} {hostData : HostData}
  {ticket : Envelope} {i : Index} {call : Call}

/-- A sealed session always finds an envelope. -/
theorem wrap_of_encrypt (appends : office.cipher.AppendsTag) {sealedBytes : Bytes}
    (encrypted : office.cipher.encrypt i (sealContext office.header i hostData) session.encode =
      .ok sealedBytes) :
    ∃ ticket, office.wrap session hostData i = .ok ticket ∧ ticket.sealedBytes = sealedBytes := by
  have length := appends _ _ _ _ encrypted
  rw [session.length_encode] at length
  have low : tagSize ≤ sealedBytes.length := length ▸ Nat.le_add_left _ _
  have high : sealedBytes.length ≤ maxSealed := by
    rw [length]
    decide
  refine ⟨⟨office.header, i, hostData, sealedBytes, _, rfl, low, high⟩, ?_, rfl⟩
  exact (wrap_eq_ok_iff i).mpr ⟨rfl, rfl, rfl, encrypted⟩

/-- An error of the cipher is passed on as it is. -/
theorem wrap_of_encrypt_error {e : Error}
    (refused : office.cipher.encrypt i (sealContext office.header i hostData) session.encode =
      .error e) : office.wrap session hostData i = .error e := by
  unfold wrap
  rw [refused]
  rfl

/-- With the service's own cipher every session can be wrapped. -/
theorem wrap_chacha (office : Office) (own : office.cipher = Cipher.chacha key)
    (session : Session) (hostData : HostData) (i : Index) :
    ∃ ticket, office.wrap session hostData i = .ok ticket ∧
      ticket.sealedSize = Session.size + tagSize := by
  have appends : office.cipher.AppendsTag := own ▸ Cipher.chacha_appendsTag key
  have short : Cipher.tooLong session.encode = false := by
    rw [Cipher.tooLong, session.length_encode]
    decide
  have encrypted : office.cipher.encrypt i (sealContext office.header i hostData) session.encode =
      .ok (Cipher.sealUnder key.octets (Cipher.nonce i) (sealContext office.header i hostData)
        session.encode) := by
    rw [own]
    exact Cipher.chachaEncrypt_eq_ok_iff.mpr ⟨short, rfl⟩
  obtain ⟨ticket, wrapped, same⟩ := wrap_of_encrypt appends encrypted
  refine ⟨ticket, wrapped, ?_⟩
  rw [ticket.sealedSize_eq, same, appends _ _ _ _ encrypted, session.length_encode]

/-! What the cipher is asked -/

/-- A request to the cipher to encrypt a text, and how it was answered. -/
structure Attempt where
  index : Index
  context : Bytes
  text : Bytes
  answer : Result Bytes

/-- The index that a text was sealed under, if it was sealed. -/
def Attempt.sealedIndex? (attempt : Attempt) : Option Index :=
  attempt.answer.toOption.map fun _ => attempt.index

/-- What the cipher is asked to encrypt at a call. It is asked once for each ticket,
unless no index is left. -/
def attempt? (office : Office) : Call → Option Attempt
  | .issue session hostData =>
    let i := office.window.next
    let context := sealContext office.header i hostData
    if i = Index.last then none
    else some ⟨i, context, session.encode, office.cipher.encrypt i context session.encode⟩
  | .check _ => none

/-- What the cipher is asked to encrypt in a run, in order. -/
def attempts (office : Office) : List Call → List Attempt
  | [] => []
  | call :: calls => (office.attempt? call).toList ++ (office.perform call).2.attempts calls

/-- The indices that sessions were sealed under in a run, in order. -/
def sealedIndices (office : Office) (calls : List Call) : List Index :=
  (office.attempts calls).filterMap Attempt.sealedIndex?

theorem attempts_cons (office : Office) (call : Call) (calls : List Call) :
    office.attempts (call :: calls) =
      (office.attempt? call).toList ++ (office.perform call).2.attempts calls := rfl

theorem attempt?_issue (more : office.window.next ≠ Index.last) :
    office.attempt? (.issue session hostData) =
      some ⟨office.window.next, sealContext office.header office.window.next hostData,
        session.encode, office.cipher.encrypt office.window.next
          (sealContext office.header office.window.next hostData) session.encode⟩ := if_neg more

/-- Encryption is asked for nothing but the attempt of a call: a cipher that answers
this attempt in the same way, and decrypts in the same way, makes no difference. -/
theorem perform_of_attempt {other : Cipher} (decrypts : other.decrypt = office.cipher.decrypt)
    (encrypts : ∀ attempt ∈ office.attempt? call,
      other.encrypt attempt.index attempt.context attempt.text = attempt.answer) :
    perform { office with cipher := other } call =
      ((office.perform call).1, { (office.perform call).2 with cipher := other }) := by
  cases call with
  | issue session hostData =>
    by_cases last : office.window.next = Index.last
    · have last' : ({ office with cipher := other } : Office).window.next = Index.last := last
      simp only [perform, issue_of_last last, issue_of_last last']
    · have same : wrap { office with cipher := other } session hostData office.window.next =
          office.wrap session hostData office.window.next := by
        unfold wrap
        rw [encrypts _ (attempt?_issue last)]
      simp only [perform, issue, Window.issueWith, if_neg last, same]
  | check ticket =>
    have same : unwrap { office with cipher := other } ticket = office.unwrap ticket := by
      unfold unwrap
      rw [decrypts]
    by_cases own : ticket.header = office.header <;> simp only [perform, check, own, same] <;> rfl

/-- The cipher is asked only where a ticket is to be issued and an index is left. -/
theorem exists_issue_of_attempt {attempt : Attempt} (asked : office.attempt? call = some attempt) :
    ∃ session hostData, call = .issue session hostData ∧ office.window.next ≠ Index.last ∧
      attempt = ⟨office.window.next, sealContext office.header office.window.next hostData,
        session.encode, office.cipher.encrypt office.window.next
          (sealContext office.header office.window.next hostData) session.encode⟩ := by
  cases call with
  | check presented => cases asked
  | issue session hostData =>
    by_cases last : office.window.next = Index.last
    · rw [attempt?, if_pos last] at asked
      cases asked
    · rw [attempt?_issue last, Option.some.injEq] at asked
      exact ⟨session, hostData, rfl, last, asked.symm⟩

/-- What the cipher sealed at a call is in the ticket that the call hands out. -/
theorem issued_of_attempt (appends : office.cipher.AppendsTag) {attempt : Attempt}
    (asked : office.attempt? call = some attempt) {sealedBytes : Bytes}
    (answered : attempt.answer = .ok sealedBytes) :
    ∃ session ticket, office.perform call =
        (.issued session ticket.hostData (.ok ticket),
          { office with window := office.window.advance }) ∧
      ticket.header = office.header ∧
      attempt = ⟨ticket.index, ticket.context, session.encode, .ok ticket.sealedBytes⟩ ∧
      ticket.sealedBytes = sealedBytes := by
  obtain ⟨session, hostData, rfl, more, rfl⟩ := exists_issue_of_attempt asked
  obtain ⟨ticket, wrapped, same⟩ := wrap_of_encrypt appends answered
  obtain ⟨own, index, rfl, encrypted⟩ := (wrap_eq_ok_iff _).mp wrapped
  refine ⟨session, ticket, ?_, own, ?_, same⟩
  · simp only [perform, issue_of_wrap more wrapped]
  · rw [encrypted, Envelope.context, own, index]

/-- What the cipher refuses to seal is answered with its error, and nothing changes. -/
theorem unchanged_of_attempt {attempt : Attempt} (asked : office.attempt? call = some attempt)
    {e : Error} (refused : attempt.answer = .error e) :
    ∃ session hostData, office.perform call = (.issued session hostData (.error e), office) := by
  obtain ⟨session, hostData, rfl, more, rfl⟩ := exists_issue_of_attempt asked
  refine ⟨session, hostData, ?_⟩
  simp only [perform, issue, Window.issueWith, if_neg more, wrap_of_encrypt_error refused]

/-- Where the cipher is not asked, no ticket is handed out. -/
theorem silent_of_no_attempt (quiet : office.attempt? call = none) :
    (office.perform call).1.issuedIndex? = none := by
  cases call with
  | check presented => rfl
  | issue session hostData =>
    by_cases last : office.window.next = Index.last
    · simp only [perform, issue_of_last last]
      rfl
    · rw [attempt?_issue last] at quiet
      cases quiet

/-- At each call an index is sealed under exactly if its ticket is handed out. -/
theorem sealedIndex_eq_issuedIndex (appends : office.cipher.AppendsTag) (call : Call) :
    (office.attempt? call).bind Attempt.sealedIndex? = (office.perform call).1.issuedIndex? := by
  cases asked : office.attempt? call with
  | none => rw [silent_of_no_attempt asked, Option.bind_none]
  | some attempt =>
    rw [Option.bind_some]
    cases answered : attempt.answer with
    | error e =>
      obtain ⟨session, hostData, answer⟩ := unchanged_of_attempt asked answered
      simp only [Attempt.sealedIndex?, answered, answer]
      rfl
    | ok sealedBytes =>
      obtain ⟨session, ticket, answer, -, rfl, -⟩ := issued_of_attempt appends asked answered
      rw [answer]
      rfl

theorem sealedIndices_cons (office : Office) (call : Call) (calls : List Call) :
    office.sealedIndices (call :: calls) =
      ((office.attempt? call).bind Attempt.sealedIndex?).toList ++
        (office.perform call).2.sealedIndices calls := by
  rw [sealedIndices, attempts_cons, List.filterMap_append]
  cases office.attempt? call with
  | none => rfl
  | some attempt => cases attempt.sealedIndex? <;> rfl

theorem issuedIndices_cons (event : Event) (events : List Event) :
    issuedIndices (event :: events) = event.issuedIndex?.toList ++ issuedIndices events := by
  cases issued : event.issuedIndex? <;> simp [issuedIndices, issued]

/-- In a run the indices that were sealed under are those of the tickets. -/
theorem sealedIndices_eq_issuedIndices (appends : office.cipher.AppendsTag) (calls : List Call) :
    office.sealedIndices calls = issuedIndices (office.run calls).1 := by
  induction calls generalizing office with
  | nil => rfl
  | cons call calls ih =>
    have later : (office.perform call).2.cipher.AppendsTag :=
      (office.perform_frame call).1 ▸ appends
    rw [sealedIndices_cons, run_cons, issuedIndices_cons, sealedIndex_eq_issuedIndex appends,
      ih later]

/-- In a run encryption is asked for nothing but the attempts. -/
theorem run_of_attempts {other : Cipher} (decrypts : other.decrypt = office.cipher.decrypt)
    {calls : List Call} (encrypts : ∀ attempt ∈ office.attempts calls,
      other.encrypt attempt.index attempt.context attempt.text = attempt.answer) :
    (run { office with cipher := other } calls).1 = (office.run calls).1 := by
  induction calls generalizing office with
  | nil => rfl
  | cons call calls ih =>
    rw [attempts_cons] at encrypts
    have now := perform_of_attempt decrypts fun attempt asked =>
      encrypts attempt (List.mem_append_left _ (Option.mem_toList.mpr asked))
    have same : other.decrypt = (office.perform call).2.cipher.decrypt := by
      rw [decrypts, (office.perform_frame call).1]
    have later := ih same fun attempt asked => encrypts attempt (List.mem_append_right _ asked)
    rw [run_cons, run_cons, now, later]

/-- No index is sealed under twice, for every cipher that adds a tag to what it seals
and for every run of a new office. Whatever the cipher seals at a call is in the
ticket that the call hands out, under the index and the context that the ticket shows;
if it refuses, its error is the answer and the office stays as it is, and that is all
that the cipher is asked to encrypt. So the indices that were sealed under are those
of the issued tickets: they begin at `first`, none is left out, and none comes twice. -/
theorem nonces_sealed_under_once (cipher : Cipher) (appends : cipher.AppendsTag) (header : UInt8)
    (first : Index) (capacity : Nat) (window : Window)
    (opened : Window.new first capacity = .ok window) (calls : List Call) :
    let start : Office := ⟨cipher, window, header⟩
    let issued := issuedIndices (start.run calls).1
    (∀ before call after, calls = before ++ call :: after →
      let office := (start.run before).2
      ∀ attempt ∈ office.attempt? call,
        (∀ sealedBytes, attempt.answer = .ok sealedBytes → ∃ session ticket,
          (office.perform call).1 = .issued session ticket.hostData (.ok ticket) ∧
          ticket.header = header ∧ ticket.sealedBytes = sealedBytes ∧
          attempt = ⟨ticket.index, ticket.context, session.encode, .ok sealedBytes⟩) ∧
        ∀ e, attempt.answer = .error e → ∃ session hostData,
          office.perform call = (.issued session hostData (.error e), office)) ∧
    (∀ other : Cipher, other.decrypt = cipher.decrypt →
      (∀ attempt ∈ start.attempts calls,
        other.encrypt attempt.index attempt.context attempt.text = attempt.answer) →
      (run ⟨other, window, header⟩ calls).1 = (start.run calls).1) ∧
    start.sealedIndices calls = issued ∧ issued.Nodup ∧
    ∀ k (inside : k < issued.length), issued[k].toInt = first.toInt + k := by
  intro start issued
  obtain ⟨book, -, record, -⟩ := run_recorded start opened calls
  refine ⟨?_, fun other (decrypts : other.decrypt = start.cipher.decrypt) encrypts =>
      run_of_attempts decrypts encrypts,
    sealedIndices_eq_issuedIndices appends calls, record.issuedOnce, record.consecutive⟩
  intro before call after _ office attempt asked
  obtain ⟨same, own⟩ := start.run_frame before
  constructor
  · intro sealedBytes answered
    obtain ⟨session, ticket, answer, format, content, rfl⟩ :=
      issued_of_attempt (same ▸ appends) asked answered
    exact ⟨session, ticket, congrArg Prod.fst answer, format.trans own, rfl, content⟩
  · intro e refused
    exact unchanged_of_attempt asked refused

/-- A cipher that cannot seal what ends in a one. -/
def choosy : Cipher where
  encrypt _ context text :=
    if context.getLast? = some 1 then .error (.encryption "no entropy")
    else .ok (text ++ List.replicate tagSize 0)
  decrypt _ _ _ := .error .invalidTicket

/-- The cipher refuses to seal a second ticket. The index is asked for again by the
third call, and only then it is sealed under. -/
theorem nonces_sealed_under_once_after_refusal :
    let session : Session :=
      ⟨⟨⟨List.replicate 32 4, rfl⟩⟩, ⟨⟨List.replicate 32 9, rfl⟩⟩⟩
    let calls : List Call :=
      [.issue session ⟨List.replicate 8 0, rfl⟩, .issue session ⟨List.replicate 8 1, rfl⟩,
        .issue session ⟨List.replicate 8 2, rfl⟩]
    choosy.AppendsTag ∧ ∃ window, Window.new 5 2 = .ok window ∧
      let office : Office := ⟨choosy, window, 1⟩
      (office.attempts calls).map Attempt.index = [5, 6, 6] ∧
        (office.sealedIndices calls).Nodup ∧ office.sealedIndices calls = [5, 6] := by
  intro session calls
  have appends : choosy.AppendsTag := by
    intro i context text sealedBytes answered
    simp only [choosy] at answered
    split at answered
    · cases answered
    · obtain rfl := Except.ok.inj answered
      rw [List.length_append, List.length_replicate]
  refine ⟨appends, _, rfl, ?_⟩
  intro office
  obtain ⟨-, -, same, once, -⟩ := nonces_sealed_under_once choosy appends 1 5 2 _ rfl calls
  exact ⟨by decide +kernel, same ▸ once, by decide +kernel⟩

end Office
end Resumption
