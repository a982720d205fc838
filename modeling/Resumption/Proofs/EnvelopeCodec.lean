import Mathlib.Data.Nat.Basic
import Resumption.Proofs.Outcomes
import Resumption.Proofs.WireParts

/-! Envelopes on the wire. An envelope is read exactly where its encoding stands:
its fields have one encoding each, and the length that is read is the length of
the sealed bytes, which fits its two bytes and is no less than a tag. -/
namespace Resumption.Envelope

variable {data : Bytes} {start used : Position} {ticket : Envelope}

/-- The two bytes that give the length of the sealed bytes. -/
def lengthOctets (ticket : Envelope) : Octets 2 :=
  ⟨Bytes.littleEndian 2 ticket.sealedSize, by simp⟩

theorem encode_eq (ticket : Envelope) :
    ticket.encode = ticket.header :: (ticket.index.toOctets.toList ++
      (ticket.hostData.toList ++ (ticket.lengthOctets.toList ++ ticket.sealedBytes))) := by
  have narrow : (UInt16.ofNat ticket.sealedSize).toNat = ticket.sealedSize := by
    have bound := ticket.le_maxSealed
    unfold maxSealed at bound
    rw [UInt16.toNat_ofNat']
    omega
  simp [encode, context, sealContext, narrow, lengthOctets]

theorem length_encode (ticket : Envelope) : ticket.encode.length = ticket.size := by
  have sized := ticket.sealedSize_eq
  simp only [encode_eq, List.length_cons, List.length_append, Octets.length_toList, size,
    envelopeOverhead]
  omega

theorem ofLittleEndian_lengthOctets (ticket : Envelope) :
    Bytes.ofLittleEndian ticket.lengthOctets.toList = ticket.sealedSize := by
  have bound := ticket.le_maxSealed
  have power : Nat.pow 256 2 = 65536 := rfl
  unfold maxSealed at bound
  rw [lengthOctets, Bytes.ofLittleEndian_littleEndian, power]
  omega

/-- The places of the fields of an envelope that stands somewhere. -/
theorem standsAt_encode_iff (place : Nat) :
    ticket.encode.StandsAt data place ↔
      data[place]? = some ticket.header ∧
        ticket.index.toOctets.toList.StandsAt data (place + 1) ∧
        ticket.hostData.toList.StandsAt data (place + 9) ∧
        ticket.lengthOctets.toList.StandsAt data (place + 17) ∧
        ticket.sealedBytes.StandsAt data (place + 19) := by
  simp only [encode_eq, Bytes.standsAt_cons, Bytes.standsAt_append, Octets.length_toList,
    Nat.add_assoc, Nat.reduceAdd]

theorem size_lt (ticket : Envelope) : ticket.size < 65555 := by
  have bound := ticket.le_maxSealed
  unfold maxSealed at bound
  rw [size, envelopeOverhead]
  omega

/-- Where the encoding of an envelope stands, the envelope is read. -/
theorem decode_of_standsAt (bounded : data.length ≤ maxWord)
    (stands : ticket.encode.StandsAt data start.toNat) :
    decode data start = .ok (ticket, UInt64.ofNat ticket.size) := by
  have room := stands.le_of_pos (by rw [encode_eq]; exact Nat.succ_pos _)
  have small := ticket.size_lt
  rw [length_encode] at room
  have overhead : ticket.size = 19 + ticket.sealedSize := rfl
  obtain ⟨first, index, hostData, length, sealedBytes⟩ := (standsAt_encode_iff _).mp stands
  have index' : data.field (start + 1) 8 .ticketIndex = .ok ticket.index.toOctets :=
    (Bytes.field_behind_eq_ok_iff (k := 1) bounded (by decide) (by omega) _ _).mpr index
  have hostData' : data.field (start + 9) 8 .ticketHostData = .ok ticket.hostData :=
    (Bytes.field_behind_eq_ok_iff (k := 9) bounded (by decide) (by omega) _ _).mpr hostData
  have length' : data.field (start + 17) 2 .ticketLength = .ok ticket.lengthOctets :=
    (Bytes.field_behind_eq_ok_iff (k := 17) bounded (by decide) (by omega) _ _).mpr length
  have sealedStart : (start + 19).toNat = start.toNat + 19 :=
    Position.toNat_add_of_le (n := 19) (by omega)
  have stop : (start + 19 + UInt64.ofNat ticket.sealedSize).toNat =
      start.toNat + 19 + ticket.sealedSize := by
    rw [Position.toNat_add_of_le (by omega), sealedStart]
  have sealedBytes' : data.slice? (start + 19).toNat
      (start + 19 + UInt64.ofNat ticket.sealedSize).toNat = some ticket.sealedBytes := by
    rw [Bytes.slice?_eq_some_iff, stop, sealedStart]
    exact ⟨by rw [ticket.sealedSize_eq], by omega, sealedBytes⟩
  have made : make ticket.header (Index.ofOctets ticket.index.toOctets) ticket.hostData
      ticket.sealedBytes = .ok ticket :=
    (make_eq_ok_iff _ _ _ _ _).mpr ⟨rfl, Index.ofOctets_toOctets _, rfl, rfl⟩
  have taken : start + 19 + UInt64.ofNat ticket.sealedSize - start = UInt64.ofNat ticket.size := by
    apply UInt64.toNat_inj.mp
    rw [UInt64.toNat_sub_of_le _ _ (by rw [UInt64.le_iff_toNat_le]; omega), stop,
      UInt64.toNat_ofNat']
    omega
  have reach : ¬ data.length < (start.capped envelopeOverhead).toNat := by
    rw [Position.toNat_capped, envelopeOverhead]
    omega
  unfold decode
  simp only [if_neg reach, first, index', hostData', length', bind, Except.bind,
    ofLittleEndian_lengthOctets, if_neg (not_lt.mpr ticket.tagSize_le), sealedBytes', made, taken,
    pure, Except.pure]

/-- Where an envelope is read, its encoding stands. -/
theorem standsAt_of_decode (bounded : data.length ≤ maxWord)
    (decoded : decode data start = .ok (ticket, used)) :
    ticket.encode.StandsAt data start.toNat := by
  unfold decode at decoded
  dsimp only at decoded
  obtain ⟨-, decoded⟩ := check_eq_ok_iff.mp decoded
  split at decoded
  · next header first =>
    simp only [bind_eq_ok_iff, check_eq_ok_iff] at decoded
    obtain ⟨index, indexRead, hostData, hostDataRead, length, lengthRead, -, decoded⟩ := decoded
    split at decoded
    · next sealedBytes found =>
      obtain ⟨made, makes, same⟩ := bind_eq_ok_iff.mp decoded
      rw [(Prod.mk.inj (Except.ok.inj same)).1] at makes
      obtain ⟨rfl, index', rfl, rfl⟩ := (make_eq_ok_iff _ _ _ _ _).mp makes
      have one : start.toNat + 1 ≤ data.length := (List.getElem?_eq_some_iff.mp first).1
      have indexStands :=
        (Bytes.field_behind_eq_ok_iff (k := 1) bounded (by decide) one _ _).mp indexRead
      have nine := indexStands.octets_le (by decide)
      have hostDataStands :=
        (Bytes.field_behind_eq_ok_iff (k := 9) bounded (by decide) (by omega) _ _).mp hostDataRead
      have seventeen := hostDataStands.octets_le (by decide)
      have lengthStands :=
        (Bytes.field_behind_eq_ok_iff (k := 17) bounded (by decide) (by omega) _ _).mp lengthRead
      have nineteen := lengthStands.octets_le (by decide)
      have sealedStart : (start + 19).toNat = start.toNat + 19 :=
        Position.toNat_add_of_le (n := 19) (by omega)
      obtain ⟨reached, inside, sealedStands⟩ := Bytes.slice?_eq_some_iff.mp found
      rw [sealedStart] at reached sealedStands
      have sized : Bytes.ofLittleEndian length.toList = ticket.sealedSize := by
        have small := Bytes.ofLittleEndian_lt length.toList
        have power : Nat.pow 256 2 = 65536 := rfl
        rw [length.length_toList, power] at small
        rw [UInt64.toNat_add, sealedStart, UInt64.toNat_ofNat'] at reached
        rw [ticket.sealedSize_eq]
        unfold maxWord at bounded
        omega
      have length' : ticket.lengthOctets = length := by
        have back := Bytes.littleEndian_ofLittleEndian length.toList
        rw [length.length_toList, sized] at back
        exact Octets.ext back
      have index'' : ticket.index.toOctets = index := by
        rw [← index', Index.toOctets_ofOctets]
      rw [standsAt_encode_iff, length', index'']
      exact ⟨first, indexStands, hostDataStands, lengthStands, sealedStands⟩
    · cases decoded
  · cases decoded

theorem decode_eq_ok_iff (bounded : data.length ≤ maxWord) :
    decode data start = .ok (ticket, used) ↔
      used.toNat = ticket.size ∧ ticket.encode.StandsAt data start.toNat := by
  have small := ticket.size_lt
  have size : (UInt64.ofNat ticket.size).toNat = ticket.size := by
    rw [UInt64.toNat_ofNat']
    omega
  constructor
  · intro decoded
    have stands := standsAt_of_decode bounded decoded
    rw [decode_of_standsAt bounded stands] at decoded
    obtain ⟨-, rfl⟩ := Prod.mk.inj (Except.ok.inj decoded)
    exact ⟨size, stands⟩
  · rintro ⟨taken, stands⟩
    have same : used = UInt64.ofNat ticket.size := UInt64.toNat_inj.mp (taken.trans size.symm)
    rw [decode_of_standsAt bounded stands, same]

end Resumption.Envelope
