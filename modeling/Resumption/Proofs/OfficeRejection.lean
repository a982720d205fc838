import Resumption.Proofs.OfficeCalls

/-! Every ticket that is turned away is turned away alike. What can be wrong with
a ticket is listed apart from the order in which an office looks; whichever it
is, the answer is the same and nothing is left of it in the window. A ticket with
nothing wrong gives up its own index and touches no other bit. Nothing is assumed
of the cipher or of the window. -/
namespace Resumption

/-- The window after an index was redeemed: only the place of that index is
freed, so no other index, bound or bit is touched. -/
structure Window.Redeemed (before after : Window) (i : Index) : Prop where
  valid : before.isOutstanding i = true
  first : after.first = before.first
  next : after.next = before.next
  base : after.base = before.base
  capacity : after.capacity = before.capacity
  indices : ∀ j, after.isOutstanding j = (before.isOutstanding j && decide (j ≠ i))
  places : ∀ p, after.holds p = (before.holds p && decide (p ≠ before.place i))
  outstanding : after.outstanding + 1 = before.outstanding

theorem Window.redeemed_clear {w : Window} {i : Index} (valid : w.isOutstanding i = true) :
    w.Redeemed (w.clear i) i where
  valid := valid
  first := rfl
  next := rfl
  base := rfl
  capacity := rfl
  indices := isOutstanding_clear valid
  places := holds_clear w i
  outstanding := by
    rw [isOutstanding_eq, Bool.and_eq_true] at valid
    exact outstanding_clear valid.2

namespace Office

variable {office : Office} {ticket : Envelope}

/-- What can be wrong with a presented ticket. -/
inductive Flawed (office : Office) (ticket : Envelope) : Prop
  /-- It has another format byte than the tickets of the office. -/
  | foreign (other : ticket.header ≠ office.header)
  /-- Its index is too old for the window, or still to be issued. -/
  | outside (beyond : office.window.covers ticket.index = false)
  /-- Its index was redeemed before, or is none that the office issued. -/
  | spent (free : office.window.holds (office.window.place ticket.index) = false)
  /-- The cipher does not open it, for whatever reason. -/
  | unauthentic (e : Error)
      (refused : office.cipher.decrypt ticket.index ticket.context ticket.sealedBytes = .error e)
  /-- It opens to a text that is no session. -/
  | misshapen (text : Bytes)
      (opened : office.cipher.decrypt ticket.index ticket.context ticket.sealedBytes = .ok text)
      (length : text.length ≠ Session.size)

/-- A ticket with nothing wrong opens to a session. -/
theorem opens_of_not_flawed (sound : ¬ office.Flawed ticket) :
    ticket.header = office.header ∧ office.window.isOutstanding ticket.index = true ∧
      ∃ session : Session,
        office.cipher.decrypt ticket.index ticket.context ticket.sealedBytes =
          .ok session.encode := by
  refine ⟨by_contra fun other => sound (.foreign other), ?_, ?_⟩
  · rw [Window.isOutstanding_eq, Bool.and_eq_true]
    constructor
    · by_contra beyond
      exact sound (.outside (Bool.eq_false_iff.mpr beyond))
    · by_contra free
      exact sound (.spent (Bool.eq_false_iff.mpr free))
  · cases decrypted : office.cipher.decrypt ticket.index ticket.context ticket.sealedBytes with
    | error e => exact absurd (.unauthentic e decrypted) sound
    | ok text =>
      by_cases whole : text.length = Session.size
      · obtain ⟨session, rfl⟩ := Session.exists_encode whole
        exact ⟨session, rfl⟩
      · exact absurd (.misshapen text decrypted whole) sound

/-- A ticket that opens to a session has nothing wrong. -/
theorem not_flawed_of_opens {session : Session} (own : ticket.header = office.header)
    (valid : office.window.isOutstanding ticket.index = true)
    (decrypts : office.cipher.decrypt ticket.index ticket.context ticket.sealedBytes =
      .ok session.encode) : ¬ office.Flawed ticket := by
  rw [Window.isOutstanding_eq, Bool.and_eq_true] at valid
  intro flawed
  cases flawed with
  | foreign other => exact other own
  | outside beyond => exact Bool.false_ne_true (beyond.symm.trans valid.1)
  | spent free => exact Bool.false_ne_true (free.symm.trans valid.2)
  | unauthentic e refused => cases refused.symm.trans decrypts
  | misshapen text opened length =>
    obtain rfl := Except.ok.inj (opened.symm.trans decrypts)
    exact length session.length_encode

/-- A ticket is turned away exactly if something is wrong with it. -/
theorem check_eq_invalid_iff :
    office.check ticket = (.error .invalidTicket, office) ↔ office.Flawed ticket := by
  constructor
  · intro refused
    by_contra sound
    obtain ⟨own, valid, session, decrypts⟩ := opens_of_not_flawed sound
    rw [check_of_decrypts own valid decrypts] at refused
    cases (Prod.mk.inj refused).1
  · intro flawed
    rcases office.check_cases ticket with refused | ⟨session, own, valid, decrypts, -⟩
    · exact refused
    · exact absurd flawed (not_flawed_of_opens own valid decrypts)

/-- Uniform rejection, for every cipher and every office. A ticket with anything
wrong is called invalid and leaves the office as it was, to the last bit. Any
other is accepted, and all that changes is that its own index is redeemed. So
whoever presents two tickets that are turned away learns nothing from the
answers, nor from anything the office does later. -/
theorem rejection_is_uniform (office : Office) (ticket : Envelope) :
    (office.Flawed ticket ∧ office.check ticket = (.error .invalidTicket, office) ∨
      ¬ office.Flawed ticket ∧ ∃ session after, office.check ticket = (.ok session, after) ∧
        after.cipher = office.cipher ∧ after.header = office.header ∧
        office.window.Redeemed after.window ticket.index) ∧
      ∀ other e e', (office.check ticket).1 = .error e → (office.check other).1 = .error e' →
        office.check ticket = office.check other := by
  constructor
  · by_cases flawed : office.Flawed ticket
    · exact .inl ⟨flawed, check_eq_invalid_iff.mpr flawed⟩
    · obtain ⟨own, valid, session, decrypts⟩ := opens_of_not_flawed flawed
      exact .inr ⟨flawed, session, _, check_of_decrypts own valid decrypts, rfl, rfl,
        Window.redeemed_clear valid⟩
  · intro other e e' first second
    have alike {presented : Envelope} {e : Error}
        (refused : (office.check presented).1 = .error e) :
        office.check presented = (.error .invalidTicket, office) := by
      rcases office.check_cases presented with same | ⟨session, -, -, -, accepted⟩
      · exact same
      · rw [accepted] at refused
        cases refused
    rw [alike first, alike second]

/-- A cipher refuses one ticket with an error of its own and opens another to
three bytes. Both have indices that can be redeemed, and both are called invalid. -/
theorem rejection_is_uniform_for_odd_cipher :
    let session : Session :=
      ⟨⟨⟨List.replicate 32 4, rfl⟩⟩, ⟨⟨List.replicate 32 9, rfl⟩⟩⟩
    let hostData : HostData := ⟨List.replicate 8 0, rfl⟩
    let cipher : Cipher := {
      encrypt _ _ _ := .ok (List.replicate tagSize 0)
      decrypt i _ _ := if i = 5 then .error (.encryption "no entropy") else .ok [1, 2, 3] }
    let presented (i : Index) : Envelope :=
      ⟨1, i, hostData, List.replicate 16 0, 16, rfl, by decide, by decide⟩
    ∃ window, Window.new 5 70 = .ok window ∧
      let office := (run ⟨cipher, window, 1⟩ [.issue session hostData, .issue session hostData]).2
      office.window.outstanding = 2 ∧
        (office.check (presented 5)).1 = .error .invalidTicket ∧
        (office.check (presented 6)).1 = .error .invalidTicket ∧
        office.check (presented 5) = office.check (presented 6) := by
  intro session hostData cipher presented
  refine ⟨_, rfl, ?_⟩
  intro office
  have first : (office.check (presented 5)).1 = .error .invalidTicket := by decide +kernel
  have second : (office.check (presented 6)).1 = .error .invalidTicket := by decide +kernel
  exact ⟨by decide +kernel, first, second,
    (rejection_is_uniform office (presented 5)).2 _ _ _ first second⟩

end Office
end Resumption
