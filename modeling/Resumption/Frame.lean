import Resumption.Error

/-!
Frames carry packets over a byte stream: the payload's length in four little-endian bytes, then the
payload. A codec has a limit, which applies to what it writes and to the lengths it reads, so an
oversized frame is refused as soon as its length is known. Whoever receives a stream in chunks keeps
the bytes that are not yet a whole frame.
-/

namespace Resumption

/-- Writes and reads frames with payloads up to a limit. -/
structure FrameCodec where
  limit : Nat
  limit_le : limit ≤ maxFrameLimit
deriving DecidableEq, Repr

namespace FrameCodec

/-- The codec with the default limit. -/
def standard : FrameCodec where
  limit := defaultFrameLimit
  limit_le := by decide

/-- The codec with the given limit, or the largest that a length field can carry if that is less. -/
def withLimit (limit : Nat) : FrameCodec where
  limit := min limit maxFrameLimit
  limit_le := Nat.min_le_right ..

/-- Refuses a payload size above the limit. -/
def checkSize (codec : FrameCodec) (size : Nat) : Result Unit :=
  if codec.limit < size then .error (.frameTooLarge size codec.limit) else .ok ()

/-- The frame of a payload. -/
def encode (codec : FrameCodec) (payload : Bytes) : Result Bytes := do
  codec.checkSize payload.length
  return Bytes.littleEndian frameHeaderSize (UInt32.ofNat payload.length).toNat ++ payload

/-- The admissible length that the data begins with, or nothing while the length is incomplete. -/
def readLength (codec : FrameCodec) (data : Bytes) : Result (Option Nat) :=
  match data.slice? 0 frameHeaderSize with
  | none => .ok none
  | some field => do
    let length := Bytes.ofLittleEndian field
    codec.checkSize length
    return some length

/-- The payload of the frame that the data begins with and the number of bytes the frame takes. -/
def decode (codec : FrameCodec) (data : Bytes) : Result (Bytes × Nat) := do
  let some length ← codec.readLength data
    | throw (.truncated .frameHeader frameHeaderSize data.length)
  let stop := frameHeaderSize + length
  let some payload := data.slice? frameHeaderSize stop
    | throw (.truncated .frame stop data.length)
  return (payload, stop)

/-- As `decode`, but nothing while the frame is incomplete. An oversized frame is an error at once,
since no further data can mend it. -/
def tryDecode (codec : FrameCodec) (data : Bytes) : Result (Option (Bytes × Nat)) := do
  let some length ← codec.readLength data | return none
  if frameHeaderSize + length ≤ data.length then return some (← codec.decode data)
  return none

/-- What the reading of all whole frames of a buffer gives: their payloads with the bytes each frame
takes, the bytes that are left, and the error that ended the reading if there was one. -/
structure Drained where
  frames : List (Bytes × Nat)
  rest : Bytes
  failure : Option Error
deriving DecidableEq, Repr

/-- Takes whole frames off the front of a buffer, at most `fuel` of them. -/
def drainUpTo (codec : FrameCodec) : (fuel : Nat) → (buffer : Bytes) → Drained
  | 0, buffer => ⟨[], buffer, none⟩
  | fuel + 1, buffer =>
    match codec.tryDecode buffer with
    | .error e => ⟨[], buffer, some e⟩
    | .ok none => ⟨[], buffer, none⟩
    | .ok (some (payload, used)) =>
      let later := drainUpTo codec fuel (buffer.drop used)
      { later with frames := (payload, used) :: later.frames }

/-- Takes whole frames off the front of a buffer until it holds none or begins with an oversized
one. A frame takes at least four bytes, so one step more than there are bytes is enough. -/
def drain (codec : FrameCodec) (buffer : Bytes) : Drained :=
  codec.drainUpTo (buffer.length + 1) buffer

/-- What each chunk of a stream gives when it is appended to the bytes left over so far. Nothing is
read after an error. -/
def receive (codec : FrameCodec) (buffer : Bytes) : (chunks : List Bytes) → List Drained
  | [] => []
  | chunk :: chunks =>
    let now := codec.drain (buffer ++ chunk)
    match now.failure with
    | some _ => [now]
    | none => now :: receive codec now.rest chunks

end FrameCodec
end Resumption
