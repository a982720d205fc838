import Resumption.Packet.Header
import Resumption.Ticket.Envelope

/-!
The delivery of a fresh ticket to the client: a header without flags and the envelope.
-/

namespace Resumption.Packet

/-- A ticket on its way to the client. -/
structure Delivery where
  ticket : Envelope
deriving DecidableEq

namespace Delivery

def size (delivery : Delivery) : Nat :=
  headerSize + delivery.ticket.size

def encode (delivery : Delivery) : Bytes :=
  Header.encode ⟨.ticketTransfer, 0⟩ ++ delivery.ticket.encode

/-- The delivery at a position and the number of bytes it takes. -/
def decode (data : Bytes) (start : Position) : Result (Delivery × Position) := do
  let header ← Header.decode data start .ticketTransfer
  if header.flags ≠ 0 then throw (.badPeer (.deliveryFlags header.flags))
  let (ticket, used) ← Envelope.decode data (start + UInt64.ofNat headerSize)
  return (⟨ticket⟩, UInt64.ofNat headerSize + used)

end Delivery
end Resumption.Packet
