import Resumption.Key
import Resumption.Ticket.Index

/-!
The envelope in which a sealed session travels: a format byte, the index, eight bytes of the host's
own, the length of the sealed bytes and the sealed bytes. All but the sealed bytes is readable, and
all but the length is bound to the seal as its context. The length is kept beside the sealed bytes;
it always equals their number, which lies between the size of a tag and what two bytes can hold.
-/

namespace Resumption

/-- Bytes that the host attaches to a ticket in the clear. -/
abbrev HostData := Octets 8

/-- A sealed ticket as the client holds it. -/
structure Envelope where
  header : UInt8
  index : Index
  hostData : HostData
  sealedBytes : Bytes
  sealedSize : Nat
  sealedSize_eq : sealedSize = sealedBytes.length
  tagSize_le : tagSize ≤ sealedSize
  le_maxSealed : sealedSize ≤ maxSealed
deriving DecidableEq

/-- What a seal vouches for besides the sealed text: format byte, index and host data. -/
def sealContext (header : UInt8) (index : Index) (hostData : HostData) : Bytes :=
  header :: index.toOctets.toList ++ hostData.toList

namespace Envelope

/-- The envelope with the given content, if the sealed bytes have an admissible length. -/
def make (header : UInt8) (index : Index) (hostData : HostData) (sealedBytes : Bytes) :
    Result Envelope :=
  if short : sealedBytes.length < tagSize then
    .error (.malformed (.sealedTooShort sealedBytes.length))
  else if long : maxSealed < sealedBytes.length then
    .error (.malformed (.sealedTooLong sealedBytes.length))
  else
    .ok ⟨header, index, hostData, sealedBytes, sealedBytes.length, rfl, by omega, by omega⟩

/-- The outcome of replacing the sealed bytes, and the envelope afterwards: the old one if the new
bytes have no admissible length. -/
def replaceSealed (envelope : Envelope) (sealedBytes : Bytes) : Result Unit × Envelope :=
  match make envelope.header envelope.index envelope.hostData sealedBytes with
  | .ok changed => (.ok (), changed)
  | .error e => (.error e, envelope)

/-- The number of bytes of the encoded envelope. -/
def size (envelope : Envelope) : Nat :=
  envelopeOverhead + envelope.sealedSize

/-- What the envelope's seal has to vouch for. -/
def context (envelope : Envelope) : Bytes :=
  sealContext envelope.header envelope.index envelope.hostData

/-- The fields in order, the length in two little-endian bytes. -/
def encode (envelope : Envelope) : Bytes :=
  envelope.context ++
    (Bytes.littleEndian 2 (UInt16.ofNat envelope.sealedSize).toNat ++ envelope.sealedBytes)

/-- The envelope at a position and the number of bytes it takes. -/
def decode (data : Bytes) (start : Position) : Result (Envelope × Position) := do
  let fixedEnd := start.capped envelopeOverhead
  let missing := Error.truncated .ticketEnvelope fixedEnd.toNat data.length
  if data.length < fixedEnd.toNat then throw missing
  let some header := data[start.toNat]? | throw missing
  let index ← data.field (start + 1) 8 .ticketIndex
  let hostData ← data.field (start + 9) 8 .ticketHostData
  let length ← data.field (start + 17) 2 .ticketLength
  let sealedSize := Bytes.ofLittleEndian length.toList
  if sealedSize < tagSize then throw (.malformed (.sealedTooShort sealedSize))
  let sealedStart := start + 19
  let stop := sealedStart + UInt64.ofNat sealedSize
  let some sealedBytes := data.slice? sealedStart.toNat stop.toNat
    | throw (.truncated .ticketCiphertext stop.toNat data.length)
  let envelope ← make header (Index.ofOctets index) hostData sealedBytes
  return (envelope, stop - start)

end Envelope
end Resumption
