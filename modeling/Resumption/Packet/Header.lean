import Resumption.Error
import Resumption.Wire.Position

/-!
The two bytes in front of every packet: its kind and its flags. Reading the kind alone consumes
nothing and tells which packet to expect; reading a header requires the kind that is expected.
-/

namespace Resumption.Packet

/-- The kind at a position, without a look at what follows. -/
def peek (data : Bytes) (start : Position) : Result Kind :=
  match data[start.toNat]? with
  | none => .error (.truncated .packetType (start.capped 1).toNat data.length)
  | some byte =>
    match Kind.ofByte? byte with
    | some kind => .ok kind
    | none => .error (.malformed (.unknownKind byte))

/-- A packet's kind and its flag byte, whose meaning depends on the kind. -/
structure Header where
  kind : Kind
  flags : UInt8 := 0
deriving DecidableEq, Repr

namespace Header

def encode (header : Header) : Bytes :=
  [header.kind.toByte, header.flags]

/-- The header at a position, which has to be of the expected kind. It takes `headerSize` bytes. -/
def decode (data : Bytes) (start : Position) (expected : Kind) : Result Header :=
  let stop := start.capped headerSize
  let missing := Error.truncated .packetHeader stop.toNat data.length
  if data.length < stop.toNat then .error missing
  else match data[start.toNat]?, data[(start + 1).toNat]? with
    | some byte, some flags =>
      if byte = expected.toByte then .ok ⟨expected, flags⟩
      else .error (.badPeer (.wrongKind expected byte))
    | _, _ => .error missing

end Header
end Resumption.Packet
