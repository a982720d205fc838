import Resumption.Proofs.FrameExactness
import Resumption.Proofs.TicketTransport

/-! Which packets fit a frame. The length of a sealed ticket and the size of a frame have
limits of their own, and the first leaves no room for what stands around the ticket in a
packet, so the longest tickets are admissible and do not fit the usual frame. -/
namespace Resumption

namespace Packet

/-- The number of keys that come along in a packet. -/
def keyCount : Packet → Nat
  | hello greeting =>
    (if greeting.encryptionKey?.isSome then 1 else 0) +
      (if greeting.signingKey?.isSome then 1 else 0)
  | _ => 0

theorem keyCount_le (packet : Packet) : packet.keyCount ≤ 2 := by
  cases packet with
  | hello greeting =>
    show (if _ then 1 else 0) + (if _ then 1 else 0) ≤ 2
    split <;> split <;> omega
  | _ => exact Nat.zero_le 2

/-- A packet is its header, its keys and its ticket. -/
theorem size_eq_sum (packet : Packet) :
    packet.size = headerSize + keySize * packet.keyCount + packet.ticket?.elim 0 Envelope.size := by
  cases packet with
  | addressRequest request => rfl
  | hello greeting =>
    show greeting.size = headerSize + keySize * ((if _ then 1 else 0) + (if _ then 1 else 0)) +
      greeting.ticket?.elim 0 Envelope.size
    unfold Hello.size
    split <;> split <;> omega
  | delivery transfer => rfl

/-- Whether a packet is longer than a header and two keys depends on its ticket alone. -/
theorem size_le_iff (packet : Packet) {limit : Nat} (room : headerSize + keySize * 2 ≤ limit) :
    packet.size ≤ limit ↔ ∀ ticket, packet.ticket? = some ticket →
      headerSize + keySize * packet.keyCount + envelopeOverhead + ticket.sealedBytes.length ≤
        limit := by
  have keys := Nat.mul_le_mul_left keySize packet.keyCount_le
  rw [size_eq_sum]
  cases packet.ticket? with
  | none =>
    simp only [Option.elim_none, reduceCtorEq, false_implies, implies_true, iff_true]
    omega
  | some ticket =>
    have sized := ticket.sealedSize_eq
    simp only [Option.elim_some, Option.some.injEq, forall_eq', Envelope.size]
    omega

end Packet

/-- There are tickets of every length that an envelope admits. -/
theorem Envelope.exists_of_length {n : Nat} (least : tagSize ≤ n) (most : n ≤ maxSealed) :
    ∃ ticket, make 1 0 ⟨List.replicate 8 0, rfl⟩ (List.replicate n 0) = .ok ticket ∧
      ticket.sealedBytes.length = n := by
  obtain ⟨ticket, made⟩ : ∃ ticket,
      make 1 0 ⟨List.replicate 8 0, rfl⟩ (List.replicate n 0) = .ok ticket := by
    refine ⟨_, (dif_neg ?_).trans (dif_neg ?_)⟩ <;>
      rw [List.length_replicate] <;> omega
  refine ⟨ticket, made, ?_⟩
  rw [← ((make_eq_ok_iff _ _ _ _ _).mp made).2.2.2, List.length_replicate]

namespace FrameCodec

/-- Exactly the packets whose ticket leaves room in a frame for the ticket's own fields,
the header and the keys travel in the usual frames: the packet is written, frame and
packet are read back, and no byte is left over. Packets without a ticket always do. A
packet that does not fit is refused with its size, and a codec whose limit is not below
that size carries it. -/
theorem packets_fit_frames_exactly (packet : Packet) :
    let fits := ∀ ticket, packet.ticket? = some ticket →
      headerSize + keySize * packet.keyCount + envelopeOverhead + ticket.sealedBytes.length ≤
        defaultFrameLimit
    (fits → ∃ whole used, standard.encode packet.encode = .ok whole ∧
      standard.decode whole = .ok (packet.encode, whole.length) ∧
      Packet.decode packet.encode 0 = .ok (packet, used) ∧
      used.toNat = packet.encode.length) ∧
    (¬ fits → standard.encode packet.encode =
      .error (.frameTooLarge packet.size defaultFrameLimit)) ∧
    ∀ limit, packet.size ≤ limit → (withLimit limit).carry packet = some packet := by
  intro fits
  have room : packet.size ≤ defaultFrameLimit ↔ fits := packet.size_le_iff (by decide)
  refine ⟨fun fit => exists_trip (room.mpr fit), fun large => ?_, fun limit within => ?_⟩
  · have length := packet.length_encode
    refine encode_eq_error_iff.mpr ⟨?_, by rw [length]; rfl⟩
    rw [length]
    exact not_le.mp (mt room.mp large)
  · have small := packet.size_lt
    refine carry_eq_some (le_min within ?_)
    unfold maxFrameLimit
    omega

/-- With both keys, the longest ticket that fits, and one that is a byte longer and needs
a codec with a greater limit. -/
theorem packets_fit_frames_exactly_at_limit :
    let key : Octets 32 := ⟨List.replicate 32 7, rfl⟩
    let greeting (ticket : Envelope) : Packet :=
      .hello (.resume ticket (some ⟨key⟩) (some ⟨key⟩))
    ∃ fitting longer : Envelope,
      fitting.sealedBytes.length = 65450 ∧ longer.sealedBytes.length = 65451 ∧
      (∃ whole, standard.encode (greeting fitting).encode = .ok whole ∧
        standard.decode whole = .ok ((greeting fitting).encode, whole.length)) ∧
      standard.encode (greeting longer).encode =
        .error (.frameTooLarge (greeting longer).size defaultFrameLimit) ∧
      (greeting longer).size ≤ 65536 ∧
      (withLimit 65536).carry (greeting longer) = some (greeting longer) := by
  intro key greeting
  obtain ⟨fitting, -, shorter⟩ := Envelope.exists_of_length (n := 65450) (by decide) (by decide)
  obtain ⟨longer, -, more⟩ := Envelope.exists_of_length (n := 65451) (by decide) (by decide)
  have keys (ticket : Envelope) : (greeting ticket).keyCount = 2 := rfl
  have parts (ticket carried : Envelope) (same : (greeting ticket).ticket? = some carried) :
      carried = ticket := (Option.some.inj same).symm
  obtain ⟨travels, -⟩ := packets_fit_frames_exactly (greeting fitting)
  obtain ⟨-, refused, carried⟩ := packets_fit_frames_exactly (greeting longer)
  have size : (greeting longer).size ≤ 65536 := by
    refine ((greeting longer).size_le_iff (by decide)).mpr fun ticket same => ?_
    rw [parts _ _ same, more, keys]
    decide
  refine ⟨fitting, longer, shorter, more, ?_, refused fun fits => ?_, size, carried _ size⟩
  · obtain ⟨whole, -, written, read, -⟩ := travels fun ticket same => by
      rw [parts _ _ same, shorter, keys]
      decide
    exact ⟨whole, written, read⟩
  · have beyond := fits longer rfl
    rw [more, keys] at beyond
    exact absurd beyond (by decide)

/-- A ticket of admissible length whose delivery is one byte too long for the usual
frame. -/
theorem admissible_ticket_exceeds_frame :
    ∃ ticket, Envelope.make 1 0 ⟨List.replicate 8 0, rfl⟩ (List.replicate 65515 0) = .ok ticket ∧
      standard.encode (Packet.delivery ⟨ticket⟩).encode = .error (.frameTooLarge 65536 65535) := by
  obtain ⟨ticket, made, sealedLength⟩ :=
    Envelope.exists_of_length (n := 65515) (by decide) (by decide)
  have length : (Packet.delivery ⟨ticket⟩).encode.length = 65536 := by
    rw [Packet.length_encode]
    show 2 + (19 + ticket.sealedSize) = 65536
    rw [ticket.sealedSize_eq, sealedLength]
  refine ⟨ticket, made, ?_⟩
  rw [encode_eq_error_iff, length]
  exact ⟨by decide, rfl⟩

end FrameCodec
end Resumption
