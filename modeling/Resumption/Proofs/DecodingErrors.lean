import Resumption.Proofs.ErrorVariants
import Resumption.Proofs.PacketCodec

/-! Which error a reader gives, told from the bytes that are available at its position and
from nothing else. A buffer that ends before the header of a packet is malformed. Behind
the header, what does not fit it is the peer's fault, except that a delivery leaves the
blame for its ticket open. -/
namespace Resumption

variable {data rest : Bytes} {start used : Position} {v : Error.Variant}

theorem Bytes.length_drop_le_maxWord (bounded : data.length ≤ maxWord) (n : Nat) :
    (data.drop n).length ≤ maxWord := by
  rw [List.length_drop]
  omega

theorem Bytes.field_fails_iff (bounded : data.length ≤ maxWord) {n : Nat} (part : Part) :
    FailsAs (data.field start n part) v ↔ v = .malformed ∧ data.length < start.toNat + n := by
  refine failsAs_iff_of_only (fun v fails => ?_) ?_
  · obtain ⟨e, failed, rfl⟩ := fails
    unfold field at failed
    split at failed
    · cases failed
      rfl
    · split at failed <;> cases failed
      rfl
  · simp only [field_eq_ok_iff, not_lt]
    constructor
    · rintro ⟨-, -, inside, -⟩
      exact inside
    · intro inside
      have length : ((data.drop start.toNat).take n).length = n := by
        rw [List.length_take, List.length_drop]
        omega
      exact ⟨⟨_, length⟩, by omega, inside, rfl⟩

namespace Session

/-- Where a session key is looked for once the key in front of it was found. -/
theorem toNat_capped_keySize (bounded : data.length ≤ maxWord)
    (inside : start.toNat + keySize ≤ data.length) :
    (start.capped keySize).toNat = start.toNat + keySize := by
  rw [Position.toNat_capped]
  omega

/-- A session is read exactly where its encoding stands. -/
theorem decode_eq_ok_iff_standsAt (bounded : data.length ≤ maxWord) (session : Session) :
    decode data start = .ok session ↔ session.encode.StandsAt data start.toNat := by
  have field (place : Position) (part : Part) (key : Octets keySize) :
      data.field place keySize part = .ok key ↔ key.toList.StandsAt data place.toNat :=
    Bytes.field_eq_ok_iff_standsAt bounded (by decide) part key
  unfold decode encode
  simp only [bind_eq_ok_iff, Bytes.standsAt_append, field, Octets.length_toList]
  constructor
  · rintro ⟨client, clientStands, key, keyStands, same⟩
    cases same
    have inside := clientStands.octets_le (by decide)
    rw [toNat_capped_keySize bounded inside] at keyStands
    exact ⟨clientStands, keyStands⟩
  · rintro ⟨clientStands, keyStands⟩
    have inside := clientStands.octets_le (by decide)
    refine ⟨session.clientKey.octets, clientStands, session.sessionKey.octets, ?_, rfl⟩
    rw [toNat_capped_keySize bounded inside]
    exact keyStands

/-- Reading a session fails exactly if it is cut short, and it is then malformed. -/
theorem decode_fails_iff (bounded : data.length ≤ maxWord) :
    FailsAs (decode data start) v ↔
      v = .malformed ∧ (data.drop start.toNat).length < size := by
  refine failsAs_iff_of_only (fun v fails => ?_) ?_
  · unfold decode at fails
    simp only [failsAs_bind_iff, Bytes.field_fails_iff bounded] at fails
    rcases fails with ⟨rfl, -⟩ | ⟨client, -, ⟨rfl, -⟩ | ⟨key, -, never⟩⟩
    · rfl
    · rfl
    · exact absurd never not_failsAs_ok
  · simp only [decode_eq_ok_iff_standsAt bounded, not_lt]
    constructor
    · rintro ⟨session, stands⟩
      have room := List.IsPrefix.length_le stands
      rwa [length_encode] at room
    · intro room
      have length : ((data.drop start.toNat).take size).length = size := by
        rw [List.length_take]
        omega
      obtain ⟨session, whole⟩ := exists_encode length
      exact ⟨session, whole ▸ List.take_prefix _ _⟩

end Session

namespace Envelope

/-- The number of sealed bytes that an envelope at the front of a buffer declares. -/
def declared (rest : Bytes) : Nat :=
  Bytes.ofLittleEndian ((rest.drop 17).take 2)

/-- What can be wrong with an envelope at the front of a buffer. -/
inductive Fault (rest : Bytes) : Prop
  /-- The buffer ends within the fixed fields or within the sealed bytes. -/
  | cutShort (short : rest.length < envelopeOverhead + declared rest)
  | belowTag (small : declared rest < tagSize)

theorem declared_of_standsAt {ticket : Envelope} {place : Nat}
    (stands : ticket.encode.StandsAt data place) :
    declared (data.drop place) = ticket.sealedSize := by
  obtain ⟨-, -, -, length, -⟩ := (standsAt_encode_iff place).mp stands
  rw [Bytes.standsAt_iff_take, Octets.length_toList] at length
  rw [declared, List.drop_drop, length, ofLittleEndian_lengthOctets]

/-- An envelope without a fault is the encoding of an envelope. -/
theorem not_fault_iff {place : Nat} :
    ¬ Fault (data.drop place) ↔ ∃ ticket : Envelope, ticket.encode.StandsAt data place := by
  have behind (n : Nat) : (data.drop place).drop n = data.drop (place + n) := List.drop_drop
  constructor
  · intro sound
    have room : envelopeOverhead + declared (data.drop place) ≤ (data.drop place).length := by
      by_contra short
      exact sound (.cutShort (not_le.mp short))
    have low : tagSize ≤ declared (data.drop place) := by
      by_contra small
      exact sound (.belowTag (not_le.mp small))
    have short : ((data.drop (place + 17)).take 2).length ≤ 2 := List.length_take_le _ _
    have high : declared (data.drop place) ≤ maxSealed := by
      have small := Bytes.ofLittleEndian_lt ((data.drop (place + 17)).take 2)
      have most : Nat.pow 256 ((data.drop (place + 17)).take 2).length ≤ Nat.pow 256 2 :=
        Nat.pow_le_pow_right (by decide) short
      have power : Nat.pow 256 2 = 65536 := rfl
      rw [declared, behind]
      unfold maxSealed
      omega
    rw [List.length_drop, envelopeOverhead] at room
    have part {from' count : Nat} (inside : from' + count ≤ 19 + declared (data.drop place)) :
        ((data.drop (place + from')).take count).length = count := by
      rw [List.length_take, List.length_drop]
      omega
    have first : place < data.length := by omega
    let ticket : Envelope :=
      { header := data[place]
        index := Index.ofOctets ⟨(data.drop (place + 1)).take 8, part (by omega)⟩
        hostData := ⟨(data.drop (place + 9)).take 8, part (by omega)⟩
        sealedBytes := (data.drop (place + 19)).take (declared (data.drop place))
        sealedSize := declared (data.drop place)
        sealedSize_eq := (part (le_refl _)).symm
        tagSize_le := low
        le_maxSealed := high }
    have length : ticket.lengthOctets.toList = (data.drop (place + 17)).take 2 := by
      have back := Bytes.littleEndian_ofLittleEndian ((data.drop (place + 17)).take 2)
      rw [part (by omega)] at back
      show Bytes.littleEndian 2 (declared (data.drop place)) = _
      rw [declared, behind, back]
    refine ⟨ticket, (standsAt_encode_iff place).mpr
      ⟨List.getElem?_eq_getElem first, ?_, ?_, ?_, ?_⟩⟩
    · rw [Index.toOctets_ofOctets]
      exact List.take_prefix _ _
    · exact List.take_prefix _ _
    · rw [length]
      exact List.take_prefix _ _
    · exact List.take_prefix _ _
  · rintro ⟨ticket, stands⟩ fault
    have declares := declared_of_standsAt stands
    have room := List.IsPrefix.length_le stands
    have low := ticket.tagSize_le
    rw [length_encode, size] at room
    cases fault with
    | cutShort short => omega
    | belowTag small => omega

theorem malformed_of_decode_fails (bounded : data.length ≤ maxWord) (v : Error.Variant)
    (fails : FailsAs (decode data start) v) : v = .malformed := by
  unfold decode at fails
  dsimp only at fails
  rcases failsAs_check_iff.mp fails with ⟨-, variant⟩ | ⟨-, fails⟩
  · exact variant
  split at fails
  · simp only [failsAs_bind_iff, failsAs_check_iff, Bytes.field_fails_iff bounded] at fails
    rcases fails with short | ⟨index, -, short | ⟨hostData, -, short | ⟨length, -, fails⟩⟩⟩
    · exact short.1
    · exact short.1
    · exact short.1
    · rcases fails with ⟨-, variant⟩ | ⟨-, fails⟩
      · exact variant
      split at fails
      · rcases failsAs_bind_iff.mp fails with fails | ⟨ticket, -, fails⟩
        · unfold make at fails
          split at fails
          · exact failsAs_error_iff.mp fails
          · split at fails
            · exact failsAs_error_iff.mp fails
            · exact absurd fails not_failsAs_ok
        · exact absurd fails not_failsAs_ok
      · exact failsAs_throw_iff.mp fails
  · exact failsAs_throw_iff.mp fails

/-- Reading an envelope fails exactly if it has a fault, and it is then malformed. -/
theorem decode_fails_iff (bounded : data.length ≤ maxWord) :
    FailsAs (decode data start) v ↔ v = .malformed ∧ Fault (data.drop start.toNat) := by
  refine failsAs_iff_of_only (malformed_of_decode_fails bounded) ?_
  rw [not_fault_iff]
  constructor
  · rintro ⟨⟨ticket, used⟩, decoded⟩
    exact ⟨ticket, standsAt_of_decode bounded decoded⟩
  · rintro ⟨ticket, stands⟩
    exact ⟨_, decode_of_standsAt bounded stands⟩

end Envelope

namespace Packet

variable {kind flags : UInt8} {fields : Bytes}

theorem peek_fails_iff :
    FailsAs (peek data start) v ↔
      v = .malformed ∧ ∀ kind, (data.drop start.toNat).head? ≠ some (Kind.toByte kind) := by
  rw [List.head?_drop]
  refine failsAs_iff_of_only (fun v fails => ?_) ?_
  · unfold peek at fails
    split at fails
    · exact failsAs_error_iff.mp fails
    · split at fails
      · exact absurd fails not_failsAs_ok
      · exact failsAs_error_iff.mp fails
  · simp only [peek_eq_ok_iff, not_forall, not_not]

/-- Either the header of a packet is at the front of a buffer, or there is no room for one. -/
theorem short_or_header (rest : Bytes) :
    rest.length < headerSize ∨ ∃ kind flags fields, rest = kind :: flags :: fields := by
  match rest with
  | [] => exact .inl (Nat.zero_lt_succ 1)
  | [_] => exact .inl (Nat.lt_succ_self 1)
  | kind :: flags :: fields => exact .inr ⟨kind, flags, fields, rfl⟩

/-- The bytes behind the header of a packet stand two further on. -/
theorem behind_header (bounded : data.length ≤ maxWord)
    (there : data.drop start.toNat = kind :: flags :: fields) :
    (start + UInt64.ofNat headerSize).toNat = start.toNat + headerSize ∧
      data.drop (start.toNat + headerSize) = fields ∧
      start.toNat + headerSize + fields.length = data.length := by
  have length := congrArg List.length there
  rw [List.length_drop, List.length_cons, List.length_cons] at length
  refine ⟨Position.toNat_add_of_le ?_, ?_, ?_⟩
  · rw [headerSize]
    omega
  · rw [← List.drop_drop, there]
    rfl
  · rw [headerSize]
    omega

namespace Header

theorem standsAt_iff_of_header (there : data.drop start.toNat = kind :: flags :: fields)
    (header : Header) :
    header.encode.StandsAt data start.toNat ↔ header.kind.toByte = kind ∧ header.flags = flags := by
  unfold Bytes.StandsAt
  rw [there, Header.encode, List.cons_prefix_cons, List.cons_prefix_cons]
  simp

theorem decode_of_short (bounded : data.length ≤ maxWord) (expected : Kind)
    (short : (data.drop start.toNat).length < headerSize) :
    FailsAs (decode data start expected) .malformed := by
  rw [List.length_drop, headerSize] at short
  unfold decode
  dsimp only
  split
  · exact ⟨_, rfl, rfl⟩
  · split
    · next first second =>
      -- The second byte would stand past the end.
      have inside := (List.getElem?_eq_some_iff.mp first).1
      have next : (start + 1).toNat = start.toNat + 1 :=
        Position.toNat_add_of_le (n := 1) (by omega)
      have beyond := (List.getElem?_eq_some_iff.mp second).1
      omega
    · exact ⟨_, rfl, rfl⟩

theorem decode_of_header (bounded : data.length ≤ maxWord) (expected : Kind)
    (there : data.drop start.toNat = kind :: flags :: fields) :
    decode data start expected =
      if kind = expected.toByte then .ok ⟨expected, flags⟩
      else .error (.badPeer (.wrongKind expected kind)) := by
  obtain ⟨-, -, whole⟩ := behind_header bounded there
  rw [headerSize] at whole
  have next : (start + 1).toNat = start.toNat + 1 :=
    Position.toNat_add_of_le (n := 1) (by omega)
  have first : data[start.toNat]? = some kind := by
    rw [← List.head?_drop, there]
    rfl
  have second : data[(start + 1).toNat]? = some flags := by
    rw [next, ← List.head?_drop, ← List.drop_drop, there]
    rfl
  have reach : ¬ data.length < (start.capped headerSize).toNat := by
    rw [Position.toNat_capped, headerSize]
    omega
  simp only [decode, if_neg reach, first, second]

/-- A header fails to be read where it is cut short, which is malformed, and where it is of
another kind, which is the peer's fault. -/
theorem decode_fails_iff (bounded : data.length ≤ maxWord) (expected : Kind) :
    FailsAs (decode data start expected) v ↔
      v = .malformed ∧ (data.drop start.toNat).length < headerSize ∨
      v = .badPeer ∧ ∃ kind flags fields,
        data.drop start.toNat = kind :: flags :: fields ∧ kind ≠ expected.toByte := by
  rcases short_or_header (data.drop start.toNat) with short | ⟨kind, flags, fields, there⟩
  · rw [(decode_of_short bounded expected short).iff]
    refine ⟨fun variant => .inl ⟨variant, short⟩, ?_⟩
    rintro (⟨rfl, -⟩ | ⟨-, kind, flags, fields, there, -⟩)
    · rfl
    · rw [there] at short
      exact absurd short (by simp [headerSize])
  · rw [decode_of_header bounded expected there, there]
    by_cases same : kind = expected.toByte
    · simp [same, headerSize]
    · simp [same, headerSize, Error.variant]

end Header

/-- The header of a packet without flags is there, but it is of another kind or has flags. -/
def Header.Unfit (expected : Kind) : Bytes → Prop
  | kind :: flags :: _ => kind ≠ expected.toByte ∨ flags ≠ 0
  | _ => False

theorem Header.not_unfit_of_short {expected : Kind} (short : rest.length < headerSize) :
    ¬ Unfit expected rest := by
  match rest with
  | [] => exact not_false
  | [_] => exact not_false
  | _ :: _ :: _ => exact absurd short (by simp [headerSize])

/-- A packet without flags fails as its header does, or for its flags, or as what follows
the header. -/
theorem plain_fails_iff (bounded : data.length ≤ maxWord) {α : Type} {expected : Kind}
    {cause : UInt8 → Misfit} {follow : Result α} :
    FailsAs (Header.decode data start expected >>= fun header =>
        if header.flags ≠ 0 then throw (.badPeer (cause header.flags)) >>= fun (_ : PUnit) => follow
        else follow) v ↔
      v = .malformed ∧ (data.drop start.toNat).length < headerSize ∨
      v = .badPeer ∧ Header.Unfit expected (data.drop start.toNat) ∨
      FailsAs follow v ∧ ∃ fields, data.drop start.toNat = expected.toByte :: 0 :: fields := by
  rcases short_or_header (data.drop start.toNat) with short | ⟨kind, flags, fields, there⟩
  · rw [(Header.decode_of_short bounded expected short).bind.iff]
    refine ⟨fun variant => .inl ⟨variant, short⟩, ?_⟩
    rintro (⟨rfl, -⟩ | ⟨-, unfit⟩ | ⟨-, fields, there⟩)
    · rfl
    · exact absurd unfit (Header.not_unfit_of_short short)
    · rw [there] at short
      exact absurd short (by simp [headerSize])
  · have long : ¬ fields.length + 1 + 1 < headerSize := by
      unfold headerSize
      omega
    rw [Header.decode_of_header bounded expected there, there]
    by_cases same : kind = expected.toByte
    · by_cases plain : flags = 0
      · simp [Header.Unfit, long, same, plain, bind, Except.bind]
      · simp [Header.Unfit, long, same, plain, bind, Except.bind, throw, throwThe,
          MonadExceptOf.throw, Error.variant]
    · simp [Header.Unfit, long, same, bind, Except.bind, Error.variant]

/-- A request fails where its header is cut short, which is malformed, and where the header
does not fit, which is the peer's fault. -/
theorem AddressRequest.decode_fails_iff (bounded : data.length ≤ maxWord) :
    FailsAs (AddressRequest.decode data start) v ↔
      v = .malformed ∧ (data.drop start.toNat).length < headerSize ∨
      v = .badPeer ∧ Header.Unfit .a1 (data.drop start.toNat) := by
  unfold AddressRequest.decode
  refine (plain_fails_iff bounded).trans ?_
  simp [pure, Except.pure]

/-- A delivery whose header does not fit is the peer's fault. All else that fails is
malformed, also the ticket that the header promised. -/
theorem Delivery.decode_fails_iff (bounded : data.length ≤ maxWord) :
    FailsAs (Delivery.decode data start) v ↔
      v = .malformed ∧ ((data.drop start.toNat).length < headerSize ∨
        ∃ fields, data.drop start.toNat = Kind.ticketTransfer.toByte :: 0 :: fields ∧
          Envelope.Fault fields) ∨
      v = .badPeer ∧ Header.Unfit .ticketTransfer (data.drop start.toNat) := by
  unfold Delivery.decode
  refine (plain_fails_iff bounded).trans ?_
  have behind {fields : Bytes}
      (there : data.drop start.toNat = Kind.ticketTransfer.toByte :: 0 :: fields) :
      data.drop (start + UInt64.ofNat headerSize).toNat = fields := by
    obtain ⟨place, after, -⟩ := behind_header bounded there
    rw [place, after]
  simp only [failsAs_bind_iff, Envelope.decode_fails_iff bounded]
  constructor
  · rintro (⟨rfl, short⟩ | unfit | ⟨⟨rfl, fault⟩ | ⟨ticket, -, never⟩, fields, there⟩)
    · exact .inl ⟨rfl, .inl short⟩
    · exact .inr unfit
    · rw [behind there] at fault
      exact .inl ⟨rfl, .inr ⟨fields, there, fault⟩⟩
    · exact absurd never not_failsAs_ok
  · rintro (⟨rfl, short | ⟨fields, there, fault⟩⟩ | unfit)
    · exact .inl ⟨rfl, short⟩
    · rw [← behind there] at fault
      exact .inr (.inr ⟨.inl ⟨rfl, fault⟩, fields, there⟩)
    · exact .inr (.inl unfit)

/-! Hellos -/

/-- The bytes of the keys that the flags announce. -/
def HelloFlags.keyBytes (flags : HelloFlags) : Nat :=
  (if flags.has encryptionKeyBit then keySize else 0) +
    (if flags.has signingKeyBit then keySize else 0)

theorem HelloFlags.ofByte_fails_iff :
    FailsAs (ofByte flags) v ↔ v = .badPeer ∧ flags &&& ~~~knownBits ≠ 0 := by
  unfold ofByte
  dsimp only
  split
  · next known => simp [known]
  · next undefined => simp [undefined, Error.variant]

namespace Hello

/-- What can be wrong with a hello whose header is there. -/
inductive Fault : Bytes → Prop
  | wrongKind {kind flags : UInt8} {fields : Bytes} (other : kind ≠ Kind.m1.toByte) :
      Fault (kind :: flags :: fields)
  | undefinedFlags {kind flags : UInt8} {fields : Bytes}
      (undefined : flags &&& ~~~HelloFlags.knownBits ≠ 0) : Fault (kind :: flags :: fields)
  /-- A key that the flags announce is cut short. -/
  | key {kind flags : UInt8} {fields : Bytes}
      (short : fields.length < (⟨flags⟩ : HelloFlags).keyBytes) : Fault (kind :: flags :: fields)
  /-- The ticket that the flags announce is cut short or declares less than a tag. -/
  | ticket {kind flags : UInt8} {fields : Bytes}
      (announced : (⟨flags⟩ : HelloFlags).has HelloFlags.ticketBit)
      (fault : Envelope.Fault (fields.drop (⟨flags⟩ : HelloFlags).keyBytes)) :
      Fault (kind :: flags :: fields)
  /-- The flags announce neither the client's key nor a ticket. -/
  | empty {kind flags : UInt8} {fields : Bytes}
      (keyless : ¬ (⟨flags⟩ : HelloFlags).has HelloFlags.encryptionKeyBit)
      (ticketless : ¬ (⟨flags⟩ : HelloFlags).has HelloFlags.ticketBit) :
      Fault (kind :: flags :: fields)

theorem Fault.headerSize_le (fault : Fault rest) : headerSize ≤ rest.length := by
  cases fault <;> exact Nat.le_add_left _ _

theorem blamePeer_fails_iff {α : Type} {answer : Result α}
    (alone : ∀ v, FailsAs answer v → v = .malformed) :
    FailsAs (answer.mapError blamePeer) v ↔ v = .badPeer ∧ FailsAs answer .malformed := by
  cases answer with
  | ok a => simp
  | error e =>
    have malformed := alone _ ⟨e, rfl, rfl⟩
    cases e <;> simp_all [Error.variant, blamePeer]

section Fields

variable {present : Bool} (bounded : data.length ≤ maxWord)
  (inside : start.toNat + used.toNat ≤ data.length)
include bounded inside

theorem decodeKey_fails_iff (part : Part) :
    FailsAs (decodeKey data start used present part) v ↔
      v = .badPeer ∧ present = true ∧ data.length < start.toNat + used.toNat + keySize := by
  have place : (start + used).toNat = start.toNat + used.toNat :=
    Position.toNat_sum (inside.trans bounded)
  cases present with
  | false => simp [decodeKey]
  | true =>
    have field : FailsAs ((data.field (start + used) keySize part).mapError blamePeer) v ↔ _ :=
      blamePeer_fails_iff fun v fails => ((Bytes.field_fails_iff bounded part).mp fails).1
    unfold decodeKey
    rw [if_pos rfl, failsAs_bind_iff, field, Bytes.field_fails_iff bounded, place]
    simp [pure, Except.pure]

/-- Behind a key that is read, the next field is looked for within the buffer. -/
theorem decodeKey_advances {part : Part} {key : Option (Octets 32)} {next : Position}
    (read : decodeKey data start used present part = .ok (key, next)) :
    key.isSome = present ∧ next.toNat = used.toNat + (if present then keySize else 0) ∧
      start.toNat + next.toNat ≤ data.length := by
  obtain ⟨rfl, size, stands⟩ := (decodeKey_eq_ok_iff bounded inside part key).mp read
  have room := stands.length_le inside
  have length : (key.elim [] Octets.toList).length = if key.isSome then keySize else 0 := by
    cases key <;> simp [keySize]
  rw [length] at size room
  exact ⟨rfl, size, by omega⟩

theorem decodeTicket_fails_iff :
    FailsAs (decodeTicket data start used present) v ↔
      v = .badPeer ∧ present = true ∧
        Envelope.Fault (data.drop (start.toNat + used.toNat)) := by
  have place : (start + used).toNat = start.toNat + used.toNat :=
    Position.toNat_sum (inside.trans bounded)
  cases present with
  | false => simp [decodeTicket]
  | true =>
    have ticket : FailsAs ((Envelope.decode data (start + used)).mapError blamePeer) v ↔ _ :=
      blamePeer_fails_iff (Envelope.malformed_of_decode_fails bounded)
    unfold decodeTicket
    rw [if_pos rfl, failsAs_bind_iff, ticket, Envelope.decode_fails_iff bounded, place]
    simp [pure, Except.pure]

end Fields

theorem ofFields_fails_iff {encryptionKey : Option EncryptionKey}
    {signingKey : Option SigningKey} {ticket : Option Envelope} :
    FailsAs (ofFields encryptionKey signingKey ticket) v ↔
      v = .badPeer ∧ encryptionKey = none ∧ ticket = none := by
  cases ticket <;> cases encryptionKey <;> simp [ofFields, Error.variant]

/-- The flags of a hello have the bits of its fields. -/
theorem has_flags (hello : Hello) :
    hello.flags.has HelloFlags.encryptionKeyBit = hello.encryptionKey?.isSome ∧
      hello.flags.has HelloFlags.signingKeyBit = hello.signingKey?.isSome ∧
      hello.flags.has HelloFlags.ticketBit = hello.ticket?.isSome :=
  HelloFlags.has_announcing _ _ _

theorem keyBytes_flags (hello : Hello) :
    hello.flags.keyBytes = (hello.encryptionKey?.elim [] (·.octets.toList)).length +
      (hello.signingKey?.elim [] (·.octets.toList)).length := by
  obtain ⟨encryption, signing, -⟩ := hello.has_flags
  rw [HelloFlags.keyBytes, encryption, signing]
  cases hello.encryptionKey? <;> cases hello.signingKey? <;> simp [keySize]

/-- A hello that stands somewhere has no fault. -/
theorem not_fault_of_standsAt (bounded : data.length ≤ maxWord) {hello : Hello}
    (stands : hello.encode.StandsAt data start.toNat) : ¬ Fault (data.drop start.toNat) := by
  have room := List.IsPrefix.length_le stands
  rw [length_encode, size_eq, Nat.add_assoc 2, ← keyBytes_flags] at room
  obtain ⟨encryption, -, resumption⟩ := hello.has_flags
  obtain ⟨headerStands, -, -, ticketStands⟩ := (standsAt_encode_iff hello start.toNat).mp stands
  rcases short_or_header (data.drop start.toNat) with short | ⟨kind, flags, fields, there⟩
  · unfold headerSize at short
    omega
  obtain ⟨same, same'⟩ := (Header.standsAt_iff_of_header there _).mp headerStands
  obtain rfl : hello.flags.byte = flags := same'
  obtain ⟨-, after, -⟩ := behind_header bounded there
  rw [there, List.length_cons, List.length_cons] at room
  rw [there]
  intro fault
  cases fault with
  | wrongKind other => exact other same.symm
  | undefinedFlags undefined =>
    have refused := HelloFlags.ofByte_fails_iff.mpr ⟨rfl, undefined⟩
    rw [ofByte_flags] at refused
    exact not_failsAs_ok refused
  | key short =>
    change fields.length < hello.flags.keyBytes at short
    omega
  | ticket announced fault =>
    obtain ⟨ticket, resumed⟩ := Option.isSome_iff_exists.mp (resumption.symm.trans announced)
    rw [resumed, Option.elim_some, Nat.add_assoc (_ + 2), ← keyBytes_flags] at ticketStands
    refine Envelope.not_fault_iff.mpr ⟨ticket, ticketStands⟩ ?_
    rw [← List.drop_drop]
    exact after ▸ fault
  | empty keyless ticketless =>
    rw [show HelloFlags.mk hello.flags.byte = hello.flags from rfl] at keyless ticketless
    rw [encryption] at keyless
    rw [resumption] at ticketless
    cases hello with
    | handshake => exact keyless rfl
    | resume => exact ticketless rfl

/-- A hello that is not read has a fault, unless its header is cut short. -/
theorem fault_of_decode_fails (bounded : data.length ≤ maxWord)
    (fails : FailsAs (decode data start) v) :
    v = .malformed ∧ (data.drop start.toNat).length < headerSize ∨
      v = .badPeer ∧ Fault (data.drop start.toNat) := by
  unfold decode at fails
  rcases short_or_header (data.drop start.toNat) with short | ⟨kind, flags, fields, there⟩
  · exact .inl ⟨(Header.decode_of_short bounded .m1 short).bind.iff.mp fails, short⟩
  have two : (UInt64.ofNat headerSize).toNat = 2 := rfl
  obtain ⟨-, after, whole⟩ := behind_header bounded there
  rw [headerSize] at after whole
  rw [Header.decode_of_header bounded .m1 there] at fails
  rw [there]
  right
  by_cases same : kind = Kind.m1.toByte
  · rw [if_pos same] at fails
    change FailsAs (HelloFlags.ofByte flags >>= _) v at fails
    rcases failsAs_bind_iff.mp fails with undefined | ⟨announced, read, behind⟩
    · obtain ⟨variant, undefined⟩ := HelloFlags.ofByte_fails_iff.mp undefined
      exact ⟨variant, .undefinedFlags undefined⟩
    clear fails
    obtain ⟨rfl, -⟩ := HelloFlags.ofByte_eq_ok_iff.mp read
    -- What the flags announce is read field by field, each behind those before it.
    have bytes : announced.keyBytes = (if announced.has _ then _ else _) + _ := rfl
    rcases failsAs_bind_iff.mp behind with short | ⟨⟨key, used₁⟩, keyRead, behind⟩
    · obtain ⟨variant, present, short⟩ := (decodeKey_fails_iff bounded (by omega) _).mp short
      rw [if_pos present] at bytes
      exact ⟨variant, .key (by show fields.length < announced.keyBytes; omega)⟩
    obtain ⟨key', size₁, inside₁⟩ := decodeKey_advances bounded (by omega) keyRead
    rcases failsAs_bind_iff.mp behind with short | ⟨⟨signing, used₂⟩, signingRead, behind⟩
    · obtain ⟨variant, present, short⟩ := (decodeKey_fails_iff bounded (by omega) _).mp short
      rw [if_pos present] at bytes
      exact ⟨variant, .key (by show fields.length < announced.keyBytes; omega)⟩
    obtain ⟨-, size₂, inside₂⟩ := decodeKey_advances bounded inside₁ signingRead
    rcases failsAs_bind_iff.mp behind with fault | ⟨⟨ticket, used₃⟩, ticketRead, behind⟩
    · obtain ⟨variant, present, fault⟩ := (decodeTicket_fails_iff bounded (by omega)).mp fault
      have place : start.toNat + used₂.toNat = start.toNat + 2 + announced.keyBytes := by omega
      rw [place, ← List.drop_drop, after] at fault
      exact ⟨variant, .ticket present fault⟩
    obtain ⟨ticket', -⟩ := (decodeTicket_eq_ok_iff bounded (by omega) _).mp ticketRead
    rcases failsAs_bind_iff.mp behind with empty | ⟨hello, -, never⟩
    · obtain ⟨variant, keyless, ticketless⟩ := ofFields_fails_iff.mp empty
      refine ⟨variant, .empty ?_ ?_⟩
      · show ¬ announced.has _ = true
        rw [← key', ← Option.isSome_map, keyless]
        exact Bool.false_ne_true
      · show ¬ announced.has _ = true
        rw [← ticket', ticketless]
        exact Bool.false_ne_true
    · exact absurd never not_failsAs_ok
  · rw [if_neg same] at fails
    obtain ⟨e, failed, rfl⟩ := fails
    cases failed
    exact ⟨rfl, .wrongKind same⟩

/-- A hello whose header is cut short is malformed. All else that fails is the peer's
fault. -/
theorem decode_fails_iff (bounded : data.length ≤ maxWord) :
    FailsAs (decode data start) v ↔
      v = .malformed ∧ (data.drop start.toNat).length < headerSize ∨
      v = .badPeer ∧ Fault (data.drop start.toNat) := by
  refine ⟨fault_of_decode_fails bounded, ?_⟩
  rintro (⟨rfl, short⟩ | ⟨rfl, fault⟩)
  · exact (Header.decode_of_short bounded .m1 short).bind
  · have unread (read : Hello × Position) : decode data start ≠ .ok read := fun decoded =>
      not_fault_of_standsAt bounded (standsAt_of_decode bounded decoded).2 fault
    obtain ⟨v, fails⟩ := exists_failsAs unread
    rcases fault_of_decode_fails bounded fails with ⟨-, short⟩ | ⟨rfl, -⟩
    · exact absurd short (not_lt.mpr fault.headerSize_le)
    · exact fails

end Hello

/-! Packets of any kind -/

/-- How a packet of a kind fails: as the reader of that kind does, or as the peer's fault if
the kind belongs to another layer. -/
def FailsOfKind (data : Bytes) (start : Position) (v : Error.Variant) : Kind → Prop
  | .a1 => FailsAs (AddressRequest.decode data start) v
  | .m1 => FailsAs (Hello.decode data start) v
  | .ticketTransfer => FailsAs (Delivery.decode data start) v
  | _ => v = .badPeer

/-- A packet without a known kind is malformed, and any other fails as one of its kind. -/
theorem decode_fails_iff :
    FailsAs (decode data start) v ↔
      v = .malformed ∧ (∀ kind, (data.drop start.toNat).head? ≠ some (Kind.toByte kind)) ∨
      ∃ kind, (data.drop start.toNat).head? = some kind.toByte ∧
        FailsOfKind data start v kind := by
  unfold decode
  rw [failsAs_bind_iff, peek_fails_iff]
  refine or_congr Iff.rfl (exists_congr fun kind => ?_)
  rw [peek_eq_ok_iff, List.head?_drop]
  refine and_congr Iff.rfl ?_
  cases kind <;> simp [FailsOfKind, failsAs_bind_iff, pure, Except.pure, throw, throwThe,
    MonadExceptOf.throw, Error.variant]

/-- How a packet fails depends on the bytes behind its position alone. -/
theorem decode_fails_iff_of_suffix (bounded : data.length ≤ maxWord) :
    FailsAs (decode data start) v ↔ FailsAs (decode (data.drop start.toNat) 0) v := by
  have shorter := Bytes.length_drop_le_maxWord bounded start.toNat
  have whole : (data.drop start.toNat).drop (0 : Position).toNat = data.drop start.toNat := rfl
  rw [decode_fails_iff, decode_fails_iff, whole]
  refine or_congr Iff.rfl (exists_congr fun kind => and_congr Iff.rfl ?_)
  cases kind
  case a1 =>
    show FailsAs _ v ↔ FailsAs _ v
    rw [AddressRequest.decode_fails_iff bounded, AddressRequest.decode_fails_iff shorter, whole]
  case m1 =>
    show FailsAs _ v ↔ FailsAs _ v
    rw [Hello.decode_fails_iff bounded, Hello.decode_fails_iff shorter, whole]
  case ticketTransfer =>
    show FailsAs _ v ↔ FailsAs _ v
    rw [Delivery.decode_fails_iff bounded, Delivery.decode_fails_iff shorter, whole]
  all_goals exact Iff.rfl

/-- Every reader of this layer tells by the variant of its error what is wrong with the
bytes at its position. What is cut short in front of the fields of a packet is malformed.
Behind its header a hello blames the peer for everything, a request and a delivery for the
header itself, and a ticket that comes with a delivery is malformed. No reader fails in any
other way. -/
theorem reading_errors_are_classified (data : Bytes) (bounded : data.length ≤ maxWord)
    (start : Position) (v : Error.Variant) :
    let available := data.drop start.toNat
    (FailsAs (Hello.decode data start) v ↔
      v = .malformed ∧ available.length < headerSize ∨ v = .badPeer ∧ Hello.Fault available) ∧
    (FailsAs (Delivery.decode data start) v ↔
      v = .malformed ∧ (available.length < headerSize ∨
        ∃ fields, available = Kind.ticketTransfer.toByte :: 0 :: fields ∧ Envelope.Fault fields) ∨
      v = .badPeer ∧ Header.Unfit .ticketTransfer available) ∧
    (FailsAs (AddressRequest.decode data start) v ↔
      v = .malformed ∧ available.length < headerSize ∨
      v = .badPeer ∧ Header.Unfit .a1 available) ∧
    (FailsAs (Envelope.decode data start) v ↔ v = .malformed ∧ Envelope.Fault available) ∧
    (FailsAs (decode data start) v ↔
      v = .malformed ∧ (∀ kind, available.head? ≠ some (Kind.toByte kind)) ∨
      ∃ kind, available.head? = some kind.toByte ∧ FailsOfKind data start v kind) ∧
    (FailsAs (decode data start) v → v = .malformed ∨ v = .badPeer) := by
  intro available
  refine ⟨Hello.decode_fails_iff bounded, Delivery.decode_fails_iff bounded,
    AddressRequest.decode_fails_iff bounded, Envelope.decode_fails_iff bounded, decode_fails_iff,
    fun fails => ?_⟩
  rcases decode_fails_iff.mp fails with ⟨variant, -⟩ | ⟨kind, -, fails⟩
  · exact .inl variant
  cases kind
  case a1 => exact ((AddressRequest.decode_fails_iff bounded).mp fails).imp And.left And.left
  case m1 => exact ((Hello.decode_fails_iff bounded).mp fails).imp And.left And.left
  case ticketTransfer => exact ((Delivery.decode_fails_iff bounded).mp fails).imp And.left And.left
  all_goals exact .inr fails

/-- A ticket that declares a byte less than a tag, behind other bytes: in a hello it is the
peer's fault, in a delivery it is malformed. -/
theorem reading_errors_are_classified_below_tag :
    let ticket : Bytes := List.replicate 17 0 ++ [15, 0] ++ List.replicate 15 0
    FailsAs (Hello.decode (9 :: 1 :: 4 :: ticket) 1) .badPeer ∧
      FailsAs (decode (9 :: 10 :: 0 :: ticket) 1) .malformed := by
  intro ticket
  have fault : Envelope.Fault ticket := .belowTag (by decide)
  obtain ⟨hello, -⟩ :=
    reading_errors_are_classified (9 :: 1 :: 4 :: ticket) (by decide) 1 .badPeer
  obtain ⟨-, delivery, -, -, packet, -⟩ :=
    reading_errors_are_classified (9 :: 10 :: 0 :: ticket) (by decide) 1 .malformed
  refine ⟨hello.mpr (.inr ⟨rfl, .ticket (by decide) fault⟩),
    packet.mpr (.inr ⟨.ticketTransfer, rfl, ?_⟩)⟩
  exact delivery.mpr (.inl ⟨rfl, .inr ⟨ticket, rfl, fault⟩⟩)

end Packet
end Resumption
