import Mathlib.Data.Option.Basic
import Resumption.Ticket.Envelope
import Resumption.Ticket.Session

/-! What is sealed in a ticket and what a seal vouches for. A session has one
encoding and an encoding one session, and the context of a seal determines the
format byte, the index and the host data it was made from. -/
namespace Resumption

namespace Bytes

/-- A field is read where all its bytes are there, and it is those bytes. -/
theorem field_eq_ok_iff (data : Bytes) (start : Position) (n : Nat) (part : Part)
    (octets : Octets n) :
    data.field start n part = .ok octets ↔
      start.toNat + n ≤ maxWord ∧ start.toNat + n ≤ data.length ∧
        octets.toList = (data.drop start.toNat).take n := by
  unfold field
  cases sum : start.plus? n with
  | none =>
    have beyond : ¬ start.toNat + n ≤ maxWord := by
      intro fits
      simp [Position.plus?, fits] at sum
    simp [beyond]
  | some stop =>
    have fits : start.toNat + n ≤ maxWord := by
      by_contra large
      simp [Position.plus?, large] at sum
    have place := Position.toNat_of_plus? sum
    by_cases enough : start.toNat + n ≤ data.length
    · have long : ((data.drop start.toNat).take n).length = n := by simp; omega
      have part : data.slice? start.toNat stop.toNat = some ((data.drop start.toNat).take n) := by
        rw [slice?, if_pos (by omega), place, Nat.add_sub_cancel_left]
      simp only [part, Option.bind_some, Octets.ofList?, dif_pos long, Except.ok.injEq, fits,
        enough, true_and]
      constructor
      · rintro rfl
        rfl
      · exact fun same => Octets.ext same.symm
    · have none : data.slice? start.toNat stop.toNat = Option.none := by
        rw [slice?, if_neg (by omega)]
      simp [none, enough]

end Bytes

namespace Session

/-- A whole payload decodes to a session exactly when it is its encoding. -/
theorem decode_eq_ok_iff (text : Bytes) (session : Session) (whole : text.length = size) :
    decode text 0 = .ok session ↔ text = session.encode := by
  have client (a : Octets keySize) :
      text.field 0 keySize .ticketClientKey = .ok a ↔ a.toList = text.take 32 := by
    rw [Bytes.field_eq_ok_iff, whole]
    exact ⟨fun found => found.2.2, fun found => ⟨by decide, by decide, found⟩⟩
  have key (b : Octets keySize) :
      text.field (Position.capped 0 keySize) keySize .ticketSessionKey = .ok b ↔
        b.toList = text.drop 32 := by
    have rest : (text.drop 32).take 32 = text.drop 32 :=
      List.take_of_length_le (by simp [whole, size])
    rw [Bytes.field_eq_ok_iff, whole]
    exact ⟨fun found => found.2.2.trans rest,
      fun found => ⟨by decide, by decide, found.trans rest.symm⟩⟩
  constructor
  · intro decoded
    unfold decode at decoded
    cases first : text.field 0 keySize .ticketClientKey with
    | error e => simp [first, bind, Except.bind] at decoded
    | ok a =>
      cases last : text.field (Position.capped 0 keySize) keySize .ticketSessionKey with
      | error e => simp [first, last, bind, Except.bind] at decoded
      | ok b =>
        simp only [first, last, bind, Except.bind, pure, Except.pure, Except.ok.injEq] at decoded
        subst decoded
        rw [encode, (client a).mp first, (key b).mp last, List.take_append_drop]
  · rintro rfl
    have front := (client session.clientKey.octets).mpr (by simp [encode])
    have back := (key session.sessionKey.octets).mpr (by simp [encode])
    simp only [decode, front, back, bind, Except.bind, pure, Except.pure]

/-- Every text as long as a session is the encoding of one. -/
theorem exists_encode {text : Bytes} (whole : text.length = size) :
    ∃ session : Session, text = session.encode := by
  have first : (text.take keySize).length = keySize := by
    rw [List.length_take, whole]
    rfl
  have second : (text.drop keySize).length = keySize := by
    rw [List.length_drop, whole]
    rfl
  exact ⟨⟨⟨_, first⟩, ⟨_, second⟩⟩, (List.take_append_drop keySize text).symm⟩

/-- Sessions with the same encoding are the same session. -/
theorem encode_injective : Function.Injective encode := by
  intro a b same
  have left := (decode_eq_ok_iff a.encode a a.length_encode).mpr rfl
  rw [same, (decode_eq_ok_iff b.encode b b.length_encode).mpr rfl] at left
  exact (Except.ok.inj left).symm

end Session

/-- The context of a seal has one reading. -/
theorem sealContext_inj {header header' : UInt8} {i i' : Index} {hostData hostData' : HostData} :
    sealContext header i hostData = sealContext header' i' hostData' ↔
      header = header' ∧ i = i' ∧ hostData = hostData' := by
  constructor
  · intro same
    simp only [sealContext, List.cons_append, List.cons.injEq] at same
    obtain ⟨headers, rest⟩ := same
    obtain ⟨indices, data⟩ := List.append_inj rest (by simp)
    exact ⟨headers, Index.toOctets_inj.mp (Octets.ext indices), Octets.ext data⟩
  · rintro ⟨rfl, rfl, rfl⟩
    rfl

namespace Envelope

/-- An envelope is determined by what travels in it; its length is no field of
its own. -/
theorem ext_iff (a b : Envelope) :
    a = b ↔ a.header = b.header ∧ a.index = b.index ∧ a.hostData = b.hostData ∧
      a.sealedBytes = b.sealedBytes := by
  constructor
  · rintro rfl
    exact ⟨rfl, rfl, rfl, rfl⟩
  · obtain ⟨header, index, hostData, sealedBytes, size, sized, low, high⟩ := a
    obtain ⟨header', index', hostData', sealedBytes', size', sized', low', high'⟩ := b
    rintro ⟨rfl, rfl, rfl, same⟩
    subst sized sized' same
    rfl

/-- Making an envelope succeeds exactly for the content of an envelope. -/
theorem make_eq_ok_iff (header : UInt8) (i : Index) (hostData : HostData) (sealedBytes : Bytes)
    (ticket : Envelope) :
    make header i hostData sealedBytes = .ok ticket ↔
      header = ticket.header ∧ i = ticket.index ∧ hostData = ticket.hostData ∧
        sealedBytes = ticket.sealedBytes := by
  constructor
  · intro made
    unfold make at made
    split at made
    · cases made
    · split at made
      · cases made
      · cases made
        exact ⟨rfl, rfl, rfl, rfl⟩
  · rintro ⟨rfl, rfl, rfl, rfl⟩
    have low := ticket.tagSize_le
    have high := ticket.le_maxSealed
    rw [ticket.sealedSize_eq] at low high
    rw [make, dif_neg (by omega), dif_neg (by omega)]
    exact congrArg Except.ok ((ext_iff _ _).mpr ⟨rfl, rfl, rfl, rfl⟩)

end Envelope
end Resumption
