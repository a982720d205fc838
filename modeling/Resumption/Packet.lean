import Resumption.Packet.AddressRequest
import Resumption.Packet.Delivery
import Resumption.Packet.Hello

/-!
The packets this layer handles, and packets one after another in a buffer. A reader looks at the
kind first and leaves the rest to the packet of that kind; a known kind that belongs to another
layer is the peer's fault.
-/

namespace Resumption

/-- A packet of this layer. -/
inductive Packet
  | addressRequest (request : Packet.AddressRequest)
  | hello (greeting : Packet.Hello)
  | delivery (transfer : Packet.Delivery)
deriving DecidableEq

namespace Packet

def kind : Packet → Kind
  | addressRequest _ => .a1
  | hello _ => .m1
  | delivery _ => .ticketTransfer

/-- The number of bytes of the encoded packet. -/
def size : Packet → Nat
  | addressRequest request => request.size
  | hello greeting => greeting.size
  | delivery transfer => transfer.size

def encode : Packet → Bytes
  | addressRequest request => request.encode
  | hello greeting => greeting.encode
  | delivery transfer => transfer.encode

/-- The packet at a position and the number of bytes it takes. -/
def decode (data : Bytes) (start : Position) : Result (Packet × Position) := do
  match ← peek data start with
  | .a1 =>
    let (request, used) ← AddressRequest.decode data start
    return (addressRequest request, used)
  | .m1 =>
    let (greeting, used) ← Hello.decode data start
    return (hello greeting, used)
  | .ticketTransfer =>
    let (transfer, used) ← Delivery.decode data start
    return (delivery transfer, used)
  | other => throw (.badPeer (.unexpectedKind other))

/-- What reading packets one after another gives: the packets with the bytes each takes, the error
that ended the reading unless the buffer did, and the position reached. -/
structure Run where
  packets : List (Packet × Position)
  failure : Option Error
  stop : Position

/-- The packets from a position to the end of the buffer, at most `fuel` of them. -/
def readUpTo (data : Bytes) : (fuel : Nat) → (start : Position) → Run
  | 0, start => ⟨[], none, start⟩
  | fuel + 1, start =>
    if data.length ≤ start.toNat then ⟨[], none, start⟩
    else match decode data start with
      | .error e => ⟨[], some e, start⟩
      | .ok (packet, used) =>
        let rest := readUpTo data fuel (start + used)
        { rest with packets := (packet, used) :: rest.packets }

/-- The packets from a position to the end of the buffer. Every packet takes at least one byte, so
there are no more of them than bytes. -/
def readAll (data : Bytes) (start : Position) : Run :=
  readUpTo data data.length start

end Packet
end Resumption
