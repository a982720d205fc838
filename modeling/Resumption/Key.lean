import Resumption.Curve
import Resumption.Digest
import Resumption.Error
import Resumption.Wire.Position

/-!
The keys that packets and tickets carry, the key that seals tickets, and the fingerprints by which
keys are named to people. A secret key shows its fingerprint at most.
-/

namespace Resumption

/-- Sixteen hexadecimal digits in groups of four, from the digest of the bytes. -/
def fingerprint (bytes : Bytes) : String :=
  let digits := (Digest.sha256 bytes).take 8 |>.map Bytes.hexByte
  let pairs := [digits.take 2, (digits.drop 2).take 2, (digits.drop 4).take 2, digits.drop 6]
  ":".intercalate (pairs.map String.join)

/-- A peer's long-term signing key, not checked to be a point of the curve. -/
structure SigningKey where
  octets : Octets 32
deriving DecidableEq

/-- A client's key for one handshake. -/
structure EncryptionKey where
  octets : Octets 32
deriving DecidableEq

/-- The secret that both ends share after a handshake. -/
structure SessionKey where
  octets : Octets 32
deriving DecidableEq

/-- The host's secret that seals and opens tickets. -/
structure TicketKey where
  octets : Octets 32
deriving DecidableEq

namespace SigningKey

/-- The key of a signing seed. -/
def ofSeed (seed : Octets 32) : SigningKey :=
  ⟨Curve.publicKey (Digest.sha512 seed.toList)⟩

def fingerprint (key : SigningKey) : String :=
  Resumption.fingerprint key.octets.toList

/-- The key, if it is a point of the curve. -/
def verify (key : SigningKey) : Result SigningKey :=
  if Curve.isKey key.octets then .ok key else .error (.invalidKey .offCurve)

def describe (key : SigningKey) : String :=
  s!"SigKey([{Bytes.decimalList key.octets.toList}])"

end SigningKey

/-- What is shown of a session key. -/
def SessionKey.describe (_ : SessionKey) : String :=
  "SessionKey([REDACTED])"

namespace TicketKey

def fingerprint (key : TicketKey) : String :=
  Resumption.fingerprint key.octets.toList

/-- What is shown of a ticket key: its fingerprint. -/
def describe (key : TicketKey) : String :=
  "TicketKey \x7b fingerprint: " ++ Text.quote key.fingerprint ++ ", key: \"[REDACTED]\" \x7d"

end TicketKey

/-- The `n` bytes of a part that begins at a position, or why they are not there. -/
def Bytes.field (data : Bytes) (start : Position) (n : Nat) (part : Part) : Result (Octets n) :=
  match start.plus? n with
  | none => .error (.malformed (.unreachable part))
  | some stop =>
    match (data.slice? start.toNat stop.toNat).bind (Octets.ofList? n) with
    | some octets => .ok octets
    | none => .error (.truncated part stop.toNat data.length)

end Resumption
