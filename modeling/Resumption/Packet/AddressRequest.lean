import Resumption.Packet.Header

/-!
The address negotiation request. Its header is the whole packet and defines no flags.
-/

namespace Resumption.Packet

/-- An address negotiation request, which has no content. -/
structure AddressRequest where
deriving DecidableEq, Repr

namespace AddressRequest

def size (_ : AddressRequest) : Nat :=
  headerSize

def encode (_ : AddressRequest) : Bytes :=
  Header.encode ⟨.a1, 0⟩

/-- The request at a position and the number of bytes it takes. -/
def decode (data : Bytes) (start : Position) : Result (AddressRequest × Position) := do
  let header ← Header.decode data start .a1
  if header.flags ≠ 0 then throw (.badPeer (.requestFlags header.flags))
  return (⟨⟩, UInt64.ofNat headerSize)

end AddressRequest
end Resumption.Packet
