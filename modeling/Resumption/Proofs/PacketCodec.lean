import Resumption.Packet
import Resumption.Proofs.HelloCodec

/-! Reading accepts exactly what writing produces, for every packet of this layer
and at every position of a buffer. -/
namespace Resumption.Packet

variable {data : Bytes} {start used : Position}

theorem AddressRequest.decode_eq_ok_iff (bounded : data.length ≤ maxWord)
    (request : AddressRequest) :
    AddressRequest.decode data start = .ok (request, used) ↔
      used.toNat = request.size ∧ request.encode.StandsAt data start.toNat := by
  unfold AddressRequest.decode
  simp only [bind_eq_ok_iff, check_eq_ok_iff, Header.decode_eq_ok_iff bounded]
  constructor
  · rintro ⟨⟨kind, flags⟩, ⟨rfl, stands⟩, plain, same⟩
    obtain ⟨-, rfl⟩ := Prod.mk.inj (Except.ok.inj same)
    obtain rfl : flags = 0 := not_not.mp plain
    exact ⟨rfl, stands⟩
  · rintro ⟨taken, stands⟩
    have same : used = UInt64.ofNat headerSize := UInt64.toNat_inj.mp taken
    exact ⟨⟨.a1, 0⟩, ⟨rfl, stands⟩, by simp, by rw [same]; rfl⟩

namespace Delivery

theorem length_encode (delivery : Delivery) : delivery.encode.length = delivery.size := by
  rw [encode, List.length_append, Header.length_encode, Envelope.length_encode, size]

theorem size_pos (delivery : Delivery) : 0 < delivery.size := by
  rw [size, headerSize]
  omega

theorem decode_eq_ok_iff (bounded : data.length ≤ maxWord) (delivery : Delivery) :
    decode data start = .ok (delivery, used) ↔
      used.toNat = delivery.size ∧ delivery.encode.StandsAt data start.toNat := by
  obtain ⟨ticket⟩ := delivery
  have small := ticket.size_lt
  have header : (UInt64.ofNat headerSize).toNat = 2 := rfl
  have whole : (⟨ticket⟩ : Delivery).size = 2 + ticket.size := rfl
  have behind (stands : (Header.encode ⟨.ticketTransfer, 0⟩).StandsAt data start.toNat) :
      (start + UInt64.ofNat headerSize).toNat = start.toNat + headerSize := by
    have inside := stands.le_of_pos (by decide)
    rw [Header.length_encode] at inside
    exact Position.toNat_add_of_le (by omega)
  unfold decode
  simp only [bind_eq_ok_iff, check_eq_ok_iff, Header.decode_eq_ok_iff bounded, Prod.exists,
    Envelope.decode_eq_ok_iff bounded]
  constructor
  · rintro ⟨⟨kind, flags⟩, ⟨rfl, stands⟩, plain, ticket', behindHeader, ⟨size, rest⟩, same⟩
    obtain ⟨⟨rfl⟩, rfl⟩ := Prod.mk.inj (Except.ok.inj same)
    obtain rfl : flags = 0 := not_not.mp plain
    rw [behind stands] at rest
    refine ⟨?_, by rw [encode, Bytes.standsAt_append]; exact ⟨stands, rest⟩⟩
    rw [UInt64.toNat_add, header, size, whole]
    omega
  · rintro ⟨taken, stands⟩
    rw [encode, Bytes.standsAt_append] at stands
    refine ⟨⟨.ticketTransfer, 0⟩, ⟨rfl, stands.1⟩, by simp, ticket, UInt64.ofNat ticket.size,
      ⟨?_, ?_⟩, ?_⟩
    · rw [UInt64.toNat_ofNat']
      omega
    · rw [behind stands.1]
      exact stands.2
    · have same : UInt64.ofNat headerSize + UInt64.ofNat ticket.size = used := by
        apply UInt64.toNat_inj.mp
        rw [UInt64.toNat_add, header, UInt64.toNat_ofNat', taken, whole]
        omega
      rw [same]
      rfl

end Delivery

theorem length_encode (packet : Packet) : packet.encode.length = packet.size := by
  cases packet with
  | addressRequest => rfl
  | hello greeting => exact greeting.length_encode
  | delivery transfer => exact transfer.length_encode

theorem size_pos (packet : Packet) : 0 < packet.size := by
  cases packet with
  | addressRequest => exact Nat.succ_pos 1
  | hello greeting => exact greeting.size_pos
  | delivery transfer => exact transfer.size_pos

/-- No packet is shorter than its header. -/
theorem headerSize_le_size (packet : Packet) : headerSize ≤ packet.size := by
  cases packet with
  | addressRequest => exact le_refl _
  | hello greeting =>
    show 2 ≤ greeting.size
    rw [greeting.size_eq]
    omega
  | delivery transfer => exact Nat.le_add_right _ _

theorem size_lt (packet : Packet) : packet.size < 65700 := by
  cases packet with
  | addressRequest =>
    show 2 < 65700
    decide
  | hello greeting => exact greeting.size_lt
  | delivery transfer =>
    have ticket := transfer.ticket.size_lt
    show 2 + transfer.ticket.size < 65700
    omega

theorem toNat_ofNat_size (packet : Packet) : (UInt64.ofNat packet.size).toNat = packet.size := by
  have small := packet.size_lt
  rw [UInt64.toNat_ofNat']
  omega

/-- What stands somewhere is announced by its first byte. -/
theorem peek_of_standsAt {packet : Packet} (stands : packet.encode.StandsAt data start.toNat) :
    peek data start = .ok packet.kind := by
  rw [peek_eq_ok_iff]
  cases packet <;>
    exact ((Bytes.standsAt_cons _ _ _ _).mp stands).1

theorem decode_eq_ok_iff (bounded : data.length ≤ maxWord) (packet : Packet) :
    decode data start = .ok (packet, used) ↔
      used.toNat = packet.size ∧ packet.encode.StandsAt data start.toNat := by
  constructor
  · intro decoded
    unfold decode at decoded
    obtain ⟨kind, -, decoded⟩ := bind_eq_ok_iff.mp decoded
    cases kind <;> simp only [bind_eq_ok_iff, Prod.exists] at decoded
    case a1 =>
      obtain ⟨request, used', read, same⟩ := decoded
      cases same
      exact (AddressRequest.decode_eq_ok_iff bounded request).mp read
    case m1 =>
      obtain ⟨greeting, used', read, same⟩ := decoded
      cases same
      exact (Hello.decode_eq_ok_iff bounded greeting).mp read
    case ticketTransfer =>
      obtain ⟨transfer, used', read, same⟩ := decoded
      cases same
      exact (Delivery.decode_eq_ok_iff bounded transfer).mp read
    all_goals cases decoded
  · intro stands
    unfold decode
    rw [peek_of_standsAt stands.2]
    cases packet with
    | addressRequest request =>
      have read := (AddressRequest.decode_eq_ok_iff bounded request).mpr stands
      simp only [kind, read, bind, Except.bind, pure, Except.pure]
    | hello greeting =>
      have read := (Hello.decode_eq_ok_iff bounded greeting).mpr stands
      simp only [kind, read, bind, Except.bind, pure, Except.pure]
    | delivery transfer =>
      have read := (Delivery.decode_eq_ok_iff bounded transfer).mpr stands
      simp only [kind, read, bind, Except.bind, pure, Except.pure]

end Resumption.Packet

namespace Resumption

/-- What a reader accepts are the encodings of its items and nothing else, at
whatever position of a buffer whose length is a machine word. -/
def AcceptsEncodings {α : Type} (decode : Bytes → Position → Result (α × Position))
    (encode : α → Bytes) (size : α → Nat) : Prop :=
  ∀ data : Bytes, data.length ≤ maxWord → ∀ (start used : Position) (item : α),
    decode data start = .ok (item, used) ↔
      used.toNat = size item ∧ start.toNat + used.toNat ≤ data.length ∧
        (data.drop start.toNat).take used.toNat = encode item

namespace AcceptsEncodings

variable {α : Type} {decode : Bytes → Position → Result (α × Position)} {encode : α → Bytes}
  {size : α → Nat}

theorem of_standsAt (sized : ∀ item, (encode item).length = size item)
    (positive : ∀ item, 0 < size item)
    (reads : ∀ {data : Bytes} {start used : Position}, data.length ≤ maxWord → ∀ item : α,
      decode data start = .ok (item, used) ↔
        used.toNat = size item ∧ (encode item).StandsAt data start.toNat) :
    AcceptsEncodings decode encode size := by
  intro data bounded start used item
  rw [reads bounded, Bytes.standsAt_iff_take, sized]
  constructor
  · rintro ⟨taken, stands⟩
    have inside := (Bytes.standsAt_iff_take.mpr (by rw [sized]; exact stands)).le_of_pos
      (by rw [sized]; exact positive item)
    rw [sized] at inside
    exact ⟨taken, by omega, by rw [taken]; exact stands⟩
  · rintro ⟨taken, -, stands⟩
    exact ⟨taken, by rw [← taken]; exact stands⟩

/-- A reader that accepts encodings reads back what was written, wherever it was
written and whatever stands behind it. -/
theorem decode_encode (accepts : AcceptsEncodings decode encode size)
    (sized : ∀ item, (encode item).length = size item) (item : α) (before behind : Bytes)
    (bounded : (before ++ (encode item ++ behind)).length ≤ maxWord) :
    decode (before ++ (encode item ++ behind)) (UInt64.ofNat before.length) =
      .ok (item, UInt64.ofNat (size item)) := by
  have whole := bounded
  simp only [List.length_append, sized] at whole
  unfold maxWord at whole
  have place : (UInt64.ofNat before.length).toNat = before.length := by
    rw [UInt64.toNat_ofNat']
    omega
  have taken : (UInt64.ofNat (size item)).toNat = size item := by
    rw [UInt64.toNat_ofNat']
    omega
  rw [accepts _ bounded, place, taken, List.drop_left, ← sized, List.take_left]
  refine ⟨rfl, ?_, rfl⟩
  simp only [List.length_append]
  omega

end AcceptsEncodings

theorem Envelope.acceptsEncodings :
    AcceptsEncodings Envelope.decode Envelope.encode Envelope.size :=
  .of_standsAt Envelope.length_encode
    (fun ticket => by simp only [Envelope.size, envelopeOverhead]; omega)
    fun bounded _ => Envelope.decode_eq_ok_iff bounded

namespace Packet

theorem AddressRequest.acceptsEncodings :
    AcceptsEncodings AddressRequest.decode AddressRequest.encode AddressRequest.size :=
  .of_standsAt (fun _ => rfl) (fun _ => Nat.succ_pos 1) AddressRequest.decode_eq_ok_iff

theorem Hello.acceptsEncodings : AcceptsEncodings Hello.decode Hello.encode Hello.size :=
  .of_standsAt Hello.length_encode Hello.size_pos Hello.decode_eq_ok_iff

theorem Delivery.acceptsEncodings :
    AcceptsEncodings Delivery.decode Delivery.encode Delivery.size :=
  .of_standsAt Delivery.length_encode Delivery.size_pos Delivery.decode_eq_ok_iff

theorem acceptsEncodings : AcceptsEncodings decode encode size :=
  .of_standsAt length_encode size_pos decode_eq_ok_iff

/-- Every reader of this layer accepts exactly the encodings, so that it undoes
writing and nothing it accepts is written differently. A hello that has to fill
the data fills it with its encoding. -/
theorem readers_accept_exactly_encodings :
    AcceptsEncodings decode encode size ∧
      AcceptsEncodings AddressRequest.decode AddressRequest.encode AddressRequest.size ∧
      AcceptsEncodings Hello.decode Hello.encode Hello.size ∧
      AcceptsEncodings Delivery.decode Delivery.encode Delivery.size ∧
      AcceptsEncodings Envelope.decode Envelope.encode Envelope.size ∧
      (∀ data hello, Hello.ofBytes data = .ok hello ↔ data = hello.encode) ∧
      ∀ (packet : Packet) (before behind : Bytes),
        (before ++ (packet.encode ++ behind)).length ≤ maxWord →
          decode (before ++ (packet.encode ++ behind)) (UInt64.ofNat before.length) =
            .ok (packet, UInt64.ofNat packet.size) :=
  ⟨acceptsEncodings, AddressRequest.acceptsEncodings, Hello.acceptsEncodings,
    Delivery.acceptsEncodings, Envelope.acceptsEncodings, Hello.ofBytes_eq_ok_iff,
    acceptsEncodings.decode_encode length_encode⟩

/-- A resumption with a signing key and the shortest ticket, between other bytes. -/
theorem readers_accept_exactly_encodings_between_bytes :
    let ticket : Envelope := ⟨7, -2, ⟨[1, 2, 3, 4, 5, 6, 7, 8], rfl⟩, List.replicate 16 9, 16,
      rfl, by decide, by decide⟩
    let greeting : Packet := .hello (.resume ticket none (some ⟨List.replicate 32 3, rfl⟩))
    decode ([1, 5, 10] ++ (greeting.encode ++ [4, 4])) 3 = .ok (greeting, 69) ∧
      ¬ decode ([1, 5, 10] ++ (greeting.encode ++ [4, 4])) 2 = .ok (greeting, 69) := by
  intro ticket greeting
  obtain ⟨accepts, -, -, -, -, -, undoes⟩ := readers_accept_exactly_encodings
  refine ⟨undoes greeting [1, 5, 10] [4, 4] (by decide +kernel), ?_⟩
  rw [accepts _ (by decide +kernel)]
  decide +kernel

end Packet
end Resumption
