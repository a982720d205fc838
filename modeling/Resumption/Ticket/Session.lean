import Resumption.Key

/-!
What a ticket keeps secret: the client's signing key and the session key, 64 bytes in a fixed
layout. It exists in the host's memory only, between the opening of a ticket and the handshake.
-/

namespace Resumption

/-- The session that a ticket resumes. -/
structure Session where
  clientKey : SigningKey
  sessionKey : SessionKey
deriving DecidableEq

namespace Session

/-- The bytes every encoded session takes. -/
def size : Nat := 64

/-- Signing key, then session key. -/
def encode (session : Session) : Bytes :=
  session.clientKey.octets.toList ++ session.sessionKey.octets.toList

/-- The session at a position. It takes `size` bytes. -/
def decode (data : Bytes) (start : Position) : Result Session := do
  let clientKey ← data.field start keySize .ticketClientKey
  let sessionKey ← data.field (start.capped keySize) keySize .ticketSessionKey
  return ⟨⟨clientKey⟩, ⟨sessionKey⟩⟩

@[simp] theorem length_encode (session : Session) : session.encode.length = size := by
  simp [encode, size]

/-- What is shown of a session: the client's key. -/
def describe (session : Session) : String :=
  "TicketData \x7b client_sig_key: " ++ session.clientKey.describe ++ ", session_key: " ++
    session.sessionKey.describe ++ " \x7d"

end Session
end Resumption
