import Resumption.Proofs.FrameReading
import Resumption.Proofs.OfficeSealing
import Resumption.Proofs.PacketCodec

/-! Tickets on their way over the wire: in an envelope, in a packet, in a frame.
What arrives is what was sent, so an office answers a ticket that travelled as it
answers the ticket itself. -/
namespace Resumption

/-- The ticket that a packet carries. -/
def Packet.ticket? : Packet → Option Envelope
  | addressRequest _ => none
  | hello greeting => greeting.ticket?
  | delivery transfer => some transfer.ticket

namespace FrameCodec

/-- The packet that arrives when a packet is sent in a frame, if the other side
can read frame and packet and no byte of either is left over. -/
def carry (codec : FrameCodec) (packet : Packet) : Option Packet := do
  let whole ← (codec.encode packet.encode).toOption
  let (payload, used) ← (codec.decode whole).toOption
  let (arrived, taken) ← (Packet.decode payload 0).toOption
  if used = whole.length ∧ taken.toNat = payload.length then some arrived else none

/-- A packet that the codec's limit allows for is written, and its frame and the packet
itself are read back to the last byte. -/
theorem exists_trip {codec : FrameCodec} {packet : Packet} (fits : packet.size ≤ codec.limit) :
    ∃ whole used, codec.encode packet.encode = .ok whole ∧
      codec.decode whole = .ok (packet.encode, whole.length) ∧
      Packet.decode packet.encode 0 = .ok (packet, used) ∧
      used.toNat = packet.encode.length := by
  have small := packet.size_lt
  have length := packet.length_encode
  have within : packet.encode.length ≤ codec.limit := length.le.trans fits
  have bounded : packet.encode.length ≤ maxWord := by
    unfold maxWord
    omega
  have unframed : codec.decode (frame packet.encode) =
      .ok (packet.encode, (frame packet.encode).length) := by
    simpa using decode_frame within []
  have read : Packet.decode packet.encode 0 = .ok (packet, UInt64.ofNat packet.size) :=
    (Packet.decode_eq_ok_iff bounded packet).mpr ⟨packet.toNat_ofNat_size, List.prefix_rfl⟩
  refine ⟨_, _, encode_eq_ok_iff.mpr ⟨within, rfl⟩, unframed, read, ?_⟩
  rw [packet.toNat_ofNat_size, length]

/-- Packets that the codec's limit allows for arrive as they were sent. -/
theorem carry_eq_some {codec : FrameCodec} {packet : Packet} (fits : packet.size ≤ codec.limit) :
    codec.carry packet = some packet := by
  obtain ⟨whole, used, written, unframed, read, taken⟩ := exists_trip fits
  simp only [carry, written, unframed, read, Except.toOption, Option.bind_eq_bind,
    Option.bind_some, taken, and_self, if_true]

end FrameCodec

namespace Office

variable {office : Office} {session : Session} {hostData : HostData} {ticket : Envelope}

/-- A fresh ticket of a faithful cipher resumes its session, and only once. -/
theorem check_issued (faithful : office.cipher.Faithful) (more : office.window.next ≠ Index.last)
    (wrapped : office.wrap session hostData office.window.next = .ok ticket) :
    ∃ issued spent, office.issue session hostData = (.ok ticket, issued) ∧
      issued.check ticket = (.ok session, spent) ∧
      spent.check ticket = (.error .invalidTicket, spent) := by
  obtain ⟨own, index, -, -⟩ := (wrap_eq_ok_iff _).mp wrapped
  have valid : office.window.advance.isOutstanding ticket.index = true := by
    rw [index]
    exact Window.isOutstanding_advance more
  have decrypts : office.cipher.decrypt ticket.index ticket.context ticket.sealedBytes =
      .ok session.encode := faithful _ _ _ _ (encrypt_of_wrap wrapped)
  refine ⟨_, _, issue_of_wrap more wrapped, check_of_decrypts own valid decrypts,
    check_of_not_outstanding ?_⟩
  show ¬ (office.window.advance.clear ticket.index).isOutstanding ticket.index = true
  rw [Window.isOutstanding_clear valid]
  simp

/-- The wire does not change what becomes of a ticket. A ticket in a delivery or
in a hello, through any codec whose limit allows for the packet, arrives as it was
sent with every byte read, so that every office gives the same answer and goes on
in the same way. With the service's own cipher, a fresh ticket that is delivered
and then presented through the usual codec resumes its session, and a second time
it is invalid. -/
theorem tickets_cross_the_wire :
    (∀ (codec : FrameCodec) (packet : Packet) (ticket : Envelope),
      packet.ticket? = some ticket → packet.size ≤ codec.limit →
        codec.carry packet = some packet ∧
          ∀ received, (codec.carry packet).bind Packet.ticket? = some received →
            received = ticket ∧ ∀ office : Office, office.check received = office.check ticket) ∧
      ∀ (key : TicketKey) (header : UInt8) (window : Window) (session : Session)
        (hostData : HostData) (encryptionKey : Option EncryptionKey)
        (signingKey : Option SigningKey), window.next ≠ Index.last →
          ∃ ticket issued held presented spent,
            issue ⟨Cipher.chacha key, window, header⟩ session hostData = (.ok ticket, issued) ∧
            (FrameCodec.standard.carry (.delivery ⟨ticket⟩)).bind Packet.ticket? = some held ∧
            (FrameCodec.standard.carry (.hello (.resume held encryptionKey signingKey))).bind
              Packet.ticket? = some presented ∧
            issued.check presented = (.ok session, spent) ∧
            spent.check presented = (.error .invalidTicket, spent) := by
  constructor
  · intro codec packet ticket carries fits
    have arrives := FrameCodec.carry_eq_some fits
    refine ⟨arrives, fun received taken => ?_⟩
    rw [arrives, Option.bind_some, carries] at taken
    obtain rfl := Option.some.inj taken
    exact ⟨rfl, fun _ => rfl⟩
  · intro key header window session hostData encryptionKey signingKey more
    obtain ⟨ticket, wrapped, sealedSize⟩ := wrap_chacha
      ⟨Cipher.chacha key, window, header⟩ rfl session hostData window.next
    obtain ⟨issued, spent, issues, accepted, refused⟩ :=
      check_issued (Cipher.chacha_faithful key) more wrapped
    have envelope : ticket.size = 99 := by
      rw [Envelope.size, sealedSize]
      rfl
    have delivery : (Packet.delivery ⟨ticket⟩).size ≤ FrameCodec.standard.limit := by
      show 2 + ticket.size ≤ 65535
      omega
    have hello : (Packet.hello (.resume ticket encryptionKey signingKey)).size ≤
        FrameCodec.standard.limit := by
      show Packet.Hello.size _ ≤ 65535
      simp only [Packet.Hello.size, Packet.Hello.ticket?, Option.elim_some, headerSize, keySize]
      split <;> split <;> omega
    refine ⟨ticket, issued, ticket, ticket, spent, issues, ?_, ?_, accepted, refused⟩
    · rw [FrameCodec.carry_eq_some delivery]
      rfl
    · rw [FrameCodec.carry_eq_some hello]
      rfl

/-- The shortest ticket in a frame that the limit just allows for, and a ticket
of a window of one before it is presented with a signing key. -/
theorem tickets_cross_the_wire_at_limit :
    let key : TicketKey := ⟨⟨List.replicate 32 7, rfl⟩⟩
    let session : Session :=
      ⟨⟨⟨List.replicate 32 4, rfl⟩⟩, ⟨⟨List.replicate 32 9, rfl⟩⟩⟩
    let hostData : HostData := ⟨List.replicate 8 0, rfl⟩
    let shortest : Envelope :=
      ⟨1, -3, hostData, List.replicate 16 5, 16, rfl, by decide, by decide⟩
    let packet : Packet := .delivery ⟨shortest⟩
    packet.ticket? = some shortest ∧ packet.size ≤ (FrameCodec.withLimit 37).limit ∧
      (FrameCodec.withLimit 37).carry packet = some packet ∧
      ∃ window, Window.new 9 1 = .ok window ∧ window.next ≠ Index.last ∧
        ∃ ticket issued held presented spent,
          issue ⟨Cipher.chacha key, window, 1⟩ session hostData = (.ok ticket, issued) ∧
          (FrameCodec.standard.carry (.delivery ⟨ticket⟩)).bind Packet.ticket? = some held ∧
          (FrameCodec.standard.carry (.hello (.resume held none (some session.clientKey)))).bind
            Packet.ticket? = some presented ∧
          issued.check presented = (.ok session, spent) ∧
          spent.check presented = (.error .invalidTicket, spent) := by
  intro key session hostData shortest packet
  have fits : packet.size ≤ (FrameCodec.withLimit 37).limit := by decide
  obtain ⟨arrives, resumes⟩ := tickets_cross_the_wire
  refine ⟨rfl, fits, (arrives _ packet shortest rfl fits).1, _, rfl, by decide, ?_⟩
  exact resumes key 1 _ session hostData none (some session.clientKey) (by decide)

end Office
end Resumption
