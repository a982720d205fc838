import Mathlib.Data.FinEnum
import Resumption.Packet.Hello
import Resumption.Proofs.EnvelopeCodec

/-! Hellos on the wire. The flags decide which fields are read, and they are
recomputed from the fields when a hello is written, so that reading and writing
agree because flags and fields determine each other. -/
namespace Resumption.Packet

variable {data : Bytes} {start used used' : Position} {present : Bool}

namespace HelloFlags

/-- The flags that announce the given fields. -/
def announcing (encryptionKey signingKey ticket : Bool) : HelloFlags :=
  HelloFlags.none
    |>.set encryptionKeyBit encryptionKey
    |>.set signingKeyBit signingKey
    |>.set ticketBit ticket

theorem has_announcing (encryptionKey signingKey ticket : Bool) :
    (announcing encryptionKey signingKey ticket).has encryptionKeyBit = encryptionKey ∧
      (announcing encryptionKey signingKey ticket).has signingKeyBit = signingKey ∧
      (announcing encryptionKey signingKey ticket).has ticketBit = ticket := by
  cases encryptionKey <;> cases signingKey <;> cases ticket <;> decide

/-- Flags without undefined bits announce the fields whose bits they have. -/
theorem eq_announcing : ∀ byte : UInt8, byte &&& ~~~knownBits = 0 →
    (⟨byte⟩ : HelloFlags) = announcing (has ⟨byte⟩ encryptionKeyBit)
      (has ⟨byte⟩ signingKeyBit) (has ⟨byte⟩ ticketBit) := by
  decide +kernel

theorem ofByte_eq_ok_iff {byte : UInt8} {flags : HelloFlags} :
    ofByte byte = .ok flags ↔ flags.byte = byte ∧
      flags = announcing (flags.has encryptionKeyBit) (flags.has signingKeyBit)
        (flags.has ticketBit) := by
  unfold ofByte
  dsimp only
  constructor
  · intro read
    split at read
    · next known =>
      cases read
      exact ⟨rfl, eq_announcing byte known⟩
    · cases read
  · rintro ⟨rfl, same⟩
    have known : ∀ a b c, (announcing a b c).byte &&& ~~~knownBits = 0 := by decide
    rw [if_pos (by rw [same]; exact known _ _ _)]

end HelloFlags

namespace Hello

/-- A field that follows if its flag is set. What is read is what stands there,
which is nothing at all for an absent field. -/
theorem optional_eq_ok_iff {α : Type} {encode : α → Bytes} {read : Result (α × Position)}
    (bounded : data.length ≤ maxWord) (positive : ∀ a, 0 < (encode a).length)
    (reads : ∀ a n, read = .ok (a, n) ↔
      n.toNat = (encode a).length ∧ (encode a).StandsAt data (start.toNat + used.toNat))
    (field : Option α) :
    (if present then do
        let (a, n) ← read.mapError blamePeer
        return (some a, used + n)
      else .ok (none, used)) = .ok (field, used') ↔
      field.isSome = present ∧ used'.toNat = used.toNat + (field.elim [] encode).length ∧
        Bytes.StandsAt (field.elim [] encode) data (start.toNat + used.toNat) := by
  cases present with
  | false =>
    cases field with
    | none => simp [UInt64.toNat_inj, eq_comm]
    | some a => simp
  | true =>
    simp only [if_true, bind_eq_ok_iff, mapError_eq_ok_iff, Prod.exists, reads]
    cases field with
    | none => simp [pure, Except.pure]
    | some a =>
      have sum {n : Position} (size : n.toNat = (encode a).length)
          (stands : (encode a).StandsAt data (start.toNat + used.toNat)) :
          (used + n).toNat = used.toNat + (encode a).length := by
        have room := stands.le_of_pos (positive a)
        rw [← size]
        simpa using Position.toNat_add_of_le (p := used) (n := n.toNat) (by omega)
      simp only [Option.isSome_some, true_and, Option.elim_some]
      constructor
      · rintro ⟨a', n, ⟨size, stands⟩, same⟩
        obtain ⟨⟨rfl⟩, rfl⟩ := Prod.mk.inj (Except.ok.inj same)
        exact ⟨sum size stands, stands⟩
      · rintro ⟨taken, stands⟩
        have room := stands.le_of_pos (positive a)
        have size : (UInt64.ofNat (encode a).length).toNat = (encode a).length := by
          unfold maxWord at bounded
          rw [UInt64.toNat_ofNat']
          omega
        have same : used' = used + UInt64.ofNat (encode a).length :=
          UInt64.toNat_inj.mp (taken.trans (sum size stands).symm)
        exact ⟨a, UInt64.ofNat (encode a).length, ⟨size, stands⟩, by rw [same]; rfl⟩

variable (bounded : data.length ≤ maxWord) (inside : start.toNat + used.toNat ≤ data.length)
include bounded inside

private theorem toNat_behind : (start + used).toNat = start.toNat + used.toNat := by
  simpa using Position.toNat_add_of_le (p := start) (n := used.toNat) (by omega)

theorem decodeKey_eq_ok_iff (part : Part) (key : Option (Octets 32)) :
    decodeKey data start used present part = .ok (key, used') ↔
      key.isSome = present ∧ used'.toNat = used.toNat + (key.elim [] Octets.toList).length ∧
        Bytes.StandsAt (key.elim [] Octets.toList) data (start.toNat + used.toNat) := by
  have same : decodeKey data start used present part =
      if present then do
        let (key, n) ← Except.mapError blamePeer
          ((data.field (start + used) keySize part).map fun key => (key, UInt64.ofNat keySize))
        return (some key, used + n)
      else .ok (none, used) := by
    unfold decodeKey
    cases data.field (start + used) keySize part <;> rfl
  rw [same]
  refine optional_eq_ok_iff bounded (fun key => by simp) (fun key n => ?_) key
  have reads : data.field (start + used) keySize part = .ok key ↔ _ :=
    Bytes.field_eq_ok_iff_standsAt bounded (by decide) part key
  have sized : n.toNat = 32 ↔ n = UInt64.ofNat keySize :=
    UInt64.toNat_inj (b := UInt64.ofNat keySize)
  rw [toNat_behind bounded inside] at reads
  rw [← reads, key.length_toList, sized]
  exact map_pair_eq_ok_iff

theorem decodeTicket_eq_ok_iff (ticket : Option Envelope) :
    decodeTicket data start used present = .ok (ticket, used') ↔
      ticket.isSome = present ∧ used'.toNat = used.toNat + (ticket.elim [] Envelope.encode).length ∧
        Bytes.StandsAt (ticket.elim [] Envelope.encode) data (start.toNat + used.toNat) := by
  refine optional_eq_ok_iff bounded (fun ticket => ?_) (fun ticket n => ?_) ticket
  · rw [Envelope.encode_eq]
    exact Nat.succ_pos _
  · rw [Envelope.decode_eq_ok_iff bounded, toNat_behind bounded inside, Envelope.length_encode]

omit bounded inside

theorem ofFields_eq_ok_iff {encryptionKey : Option EncryptionKey}
    {signingKey : Option SigningKey} {ticket : Option Envelope} (hello : Hello) :
    ofFields encryptionKey signingKey ticket = .ok hello ↔
      hello.encryptionKey? = encryptionKey ∧ hello.signingKey? = signingKey ∧
        hello.ticket? = ticket := by
  cases hello <;> cases ticket <;> cases encryptionKey <;>
    grind [ofFields, encryptionKey?, signingKey?, ticket?]

theorem length_encode (hello : Hello) : hello.encode.length = hello.size := by
  cases encrypted : hello.encryptionKey? <;> cases signed : hello.signingKey? <;>
    cases resumed : hello.ticket? <;>
    simp [encode, size, encrypted, signed, resumed, Envelope.length_encode, keySize,
      ← Nat.add_assoc]

/-- The flags that stand in the header of a hello are those of its fields. -/
theorem ofByte_flags (hello : Hello) : HelloFlags.ofByte hello.flags.byte = .ok hello.flags := by
  have flags : hello.flags = HelloFlags.announcing hello.encryptionKey?.isSome
    hello.signingKey?.isSome hello.ticket?.isSome := rfl
  obtain ⟨encryption, signing, ticket⟩ := HelloFlags.has_announcing hello.encryptionKey?.isSome
    hello.signingKey?.isSome hello.ticket?.isSome
  rw [HelloFlags.ofByte_eq_ok_iff, flags, encryption, signing, ticket]
  exact ⟨rfl, rfl⟩

/-- The places of the fields of a hello that stands somewhere. -/
theorem standsAt_encode_iff (hello : Hello) (place : Nat) :
    hello.encode.StandsAt data place ↔
      (Header.encode ⟨.m1, hello.flags.byte⟩).StandsAt data place ∧
        Bytes.StandsAt (hello.encryptionKey?.elim [] (·.octets.toList)) data (place + 2) ∧
        Bytes.StandsAt (hello.signingKey?.elim [] (·.octets.toList)) data
          (place + 2 + (hello.encryptionKey?.elim [] (·.octets.toList)).length) ∧
        Bytes.StandsAt (hello.ticket?.elim [] Envelope.encode) data
          (place + 2 + (hello.encryptionKey?.elim [] (·.octets.toList)).length +
            (hello.signingKey?.elim [] (·.octets.toList)).length) := by
  simp only [encode, Bytes.standsAt_append, Header.length_encode, headerSize]

theorem size_eq (hello : Hello) :
    hello.size = 2 + (hello.encryptionKey?.elim [] (·.octets.toList)).length +
      (hello.signingKey?.elim [] (·.octets.toList)).length +
        (hello.ticket?.elim [] Envelope.encode).length := by
  rw [← length_encode]
  simp only [encode, List.length_append, Header.length_encode, headerSize, Nat.add_assoc]

theorem size_pos (hello : Hello) : 0 < hello.size := by
  rw [size_eq]
  omega

theorem standsAt_of_decode (bounded : data.length ≤ maxWord) {hello : Hello}
    (decoded : decode data start = .ok (hello, used)) :
    used.toNat = hello.size ∧ hello.encode.StandsAt data start.toNat := by
  have two : (UInt64.ofNat headerSize).toNat = 2 := rfl
  unfold decode at decoded
  simp only [bind_eq_ok_iff, Prod.exists] at decoded
  obtain ⟨⟨kind, flagByte⟩, headerRead, flags, flagsRead, key, used₁, keyRead, signing, used₂,
    signingRead, ticket, used₃, ticketRead, hello', made, same⟩ := decoded
  obtain ⟨rfl, rfl⟩ := Prod.mk.inj (Except.ok.inj same)
  obtain ⟨rfl, headerStands⟩ := (Header.decode_eq_ok_iff bounded _ _).mp headerRead
  have inside₀ := headerStands.le_of_pos (Nat.succ_pos _)
  obtain ⟨key', size₁, keyStands⟩ := (decodeKey_eq_ok_iff bounded inside₀ _ _).mp keyRead
  have inside₁ := keyStands.length_le inside₀
  obtain ⟨signing', size₂, signingStands⟩ :=
    (decodeKey_eq_ok_iff bounded (by omega) _ _).mp signingRead
  have inside₂ := signingStands.length_le (by omega)
  obtain ⟨ticket', size₃, ticketStands⟩ :=
    (decodeTicket_eq_ok_iff bounded (by omega) _).mp ticketRead
  obtain ⟨encryptionKey, signingKey, rfl⟩ := (ofFields_eq_ok_iff _).mp made
  obtain ⟨rfl, announced⟩ := HelloFlags.ofByte_eq_ok_iff.mp flagsRead
  -- The flags that were read are those of the fields that were read by them.
  have flags' : hello'.flags = flags := by
    rw [announced, ← key', ← signing', ← ticket', Hello.flags, encryptionKey, signingKey]
    simp [HelloFlags.announcing]
  rw [standsAt_encode_iff, size_eq, flags', encryptionKey, signingKey]
  simp only [Option.elim_map]
  rw [two] at size₁ keyStands
  simp only [size₁, ← Nat.add_assoc] at size₂ signingStands
  simp only [size₂, ← Nat.add_assoc] at size₃ ticketStands
  exact ⟨size₃, headerStands, keyStands, signingStands, ticketStands⟩

theorem decode_of_standsAt (bounded : data.length ≤ maxWord) {hello : Hello}
    (taken : used.toNat = hello.size) (stands : hello.encode.StandsAt data start.toNat) :
    decode data start = .ok (hello, used) := by
  have two : (UInt64.ofNat headerSize).toNat = 2 := rfl
  obtain ⟨headerStands, keyStands, signingStands, ticketStands⟩ :=
    (standsAt_encode_iff _ _).mp stands
  have headerRead := (Header.decode_eq_ok_iff bounded .m1 _).mpr ⟨rfl, headerStands⟩
  have inside₀ := headerStands.le_of_pos (Nat.succ_pos _)
  have inside₁ := keyStands.length_le inside₀
  have inside₂ := signingStands.length_le inside₁
  obtain ⟨used₁, size₁⟩ := Position.exists_toNat_eq
    (n := 2 + (hello.encryptionKey?.elim [] (·.octets.toList)).length) (by omega)
  obtain ⟨used₂, size₂⟩ := Position.exists_toNat_eq
    (n := used₁.toNat + (hello.signingKey?.elim [] (·.octets.toList)).length) (by omega)
  obtain ⟨encryptionBit, signingBit, ticketBit⟩ := HelloFlags.has_announcing
    hello.encryptionKey?.isSome hello.signingKey?.isSome hello.ticket?.isSome
  have keyRead : decodeKey data start (UInt64.ofNat headerSize)
      (hello.flags.has HelloFlags.encryptionKeyBit) .clientEncryptionKey =
        .ok (hello.encryptionKey?.map (·.octets), used₁) := by
    rw [decodeKey_eq_ok_iff bounded inside₀, two, Option.elim_map]
    exact ⟨by rw [Option.isSome_map]; exact encryptionBit.symm, size₁, keyStands⟩
  have signingRead : decodeKey data start used₁
      (hello.flags.has HelloFlags.signingKeyBit) .serverSigningKey =
        .ok (hello.signingKey?.map (·.octets), used₂) := by
    rw [decodeKey_eq_ok_iff bounded (by omega), Option.elim_map, size₁, ← Nat.add_assoc]
    exact ⟨by rw [Option.isSome_map]; exact signingBit.symm, by rw [size₂, size₁]; rfl,
      signingStands⟩
  have ticketRead : decodeTicket data start used₂ (hello.flags.has HelloFlags.ticketBit) =
      .ok (hello.ticket?, used) := by
    rw [decodeTicket_eq_ok_iff bounded (by omega), size₂, size₁, taken, size_eq]
    refine ⟨ticketBit.symm, rfl, ?_⟩
    simpa only [← Nat.add_assoc] using ticketStands
  have made : ofFields ((hello.encryptionKey?.map (·.octets)).map EncryptionKey.mk)
      ((hello.signingKey?.map (·.octets)).map SigningKey.mk) hello.ticket? = .ok hello := by
    rw [ofFields_eq_ok_iff]
    simp [Option.map_map, Function.comp_def]
  unfold decode
  simp only [headerRead, ofByte_flags, keyRead, signingRead, ticketRead, made, bind, Except.bind,
    pure, Except.pure]

theorem decode_eq_ok_iff (bounded : data.length ≤ maxWord) (hello : Hello) :
    decode data start = .ok (hello, used) ↔
      used.toNat = hello.size ∧ hello.encode.StandsAt data start.toNat :=
  ⟨standsAt_of_decode bounded, fun ⟨taken, stands⟩ => decode_of_standsAt bounded taken stands⟩

theorem size_lt (hello : Hello) : hello.size < 65700 := by
  have ticket : hello.ticket?.elim 0 Envelope.size < 65555 := by
    cases hello.ticket? with
    | none => simp
    | some ticket => exact ticket.size_lt
  unfold size headerSize keySize
  split <;> split <;> omega

/-- What is read as the whole of the data cannot be longer than positions reach. -/
theorem ofBytes_eq_ok_iff (data : Bytes) (hello : Hello) :
    ofBytes data = .ok hello ↔ data = hello.encode := by
  have length := hello.length_encode
  unfold ofBytes
  simp only [bind_eq_ok_iff, check_eq_ok_iff, Prod.exists, not_not]
  constructor
  · rintro ⟨hello', used, decoded, whole, same⟩
    obtain rfl := Except.ok.inj same
    have bounded : data.length ≤ maxWord := by
      have reach := used.toNat_lt
      unfold maxWord
      omega
    obtain ⟨taken, stands⟩ := (decode_eq_ok_iff bounded _).mp decoded
    exact (List.IsPrefix.eq_of_length stands (by rw [length, ← taken, whole]; rfl)).symm
  · rintro rfl
    have small := hello.size_lt
    have taken : (UInt64.ofNat hello.size).toNat = hello.size := by
      rw [UInt64.toNat_ofNat']
      omega
    have bounded : hello.encode.length ≤ maxWord := by
      unfold maxWord
      omega
    exact ⟨hello, UInt64.ofNat hello.size,
      decode_of_standsAt bounded taken List.prefix_rfl, by rw [taken, length], rfl⟩

end Hello
end Resumption.Packet
