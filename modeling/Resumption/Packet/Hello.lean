import Resumption.Packet.Header
import Resumption.Ticket.Envelope

/-!
The client's hello. It starts a full handshake with an encryption key, or resumes a session with a
ticket; the server's signing key, and in a resumption the encryption key, may come along. The header
flags say which fields follow, always in the same order. Once the header has been read, whatever
does not fit it is the peer's fault.
-/

namespace Resumption.Packet

/-- The fields that follow the header of a hello, as bits of a byte. -/
structure HelloFlags where
  byte : UInt8
deriving DecidableEq, Repr

namespace HelloFlags

/-- The client's encryption key follows. -/
def encryptionKeyBit : UInt8 := 1

/-- The signing key that the client expects of the server follows. -/
def signingKeyBit : UInt8 := 2

/-- A ticket follows. -/
def ticketBit : UInt8 := 4

/-- Every bit with a meaning. -/
def knownBits : UInt8 := encryptionKeyBit ||| signingKeyBit ||| ticketBit

/-- No field follows. -/
def none : HelloFlags := ⟨0⟩

/-- The flags in a byte, if it has no other bits. -/
def ofByte (byte : UInt8) : Result HelloFlags :=
  let undefined := byte &&& ~~~knownBits
  if undefined = 0 then .ok ⟨byte⟩ else .error (.badPeer (.helloFlags undefined))

/-- Whether a bit is set. -/
def has (flags : HelloFlags) (bit : UInt8) : Bool :=
  flags.byte &&& bit ≠ 0

/-- The flags with a bit set or cleared. -/
def set (flags : HelloFlags) (bit : UInt8) (present : Bool) : HelloFlags :=
  if present then ⟨flags.byte ||| bit⟩ else ⟨flags.byte &&& ~~~bit⟩

end HelloFlags

/-- The first packet of a client. -/
inductive Hello
  /-- A full handshake. -/
  | handshake (encryptionKey : EncryptionKey) (signingKey : Option SigningKey)
  /-- A resumption. -/
  | resume (ticket : Envelope) (encryptionKey : Option EncryptionKey)
      (signingKey : Option SigningKey)
deriving DecidableEq

namespace Hello

/-- The client's encryption key, if it comes along. -/
def encryptionKey? : Hello → Option EncryptionKey
  | handshake key _ => some key
  | resume _ key _ => key

/-- The signing key that the client expects of the server, if it names one. -/
def signingKey? : Hello → Option SigningKey
  | handshake _ key => key
  | resume _ _ key => key

/-- The presented ticket, if there is one. -/
def ticket? : Hello → Option Envelope
  | handshake _ _ => none
  | resume ticket _ _ => some ticket

/-- The flags that announce the fields of the hello. -/
def flags (hello : Hello) : HelloFlags :=
  HelloFlags.none
    |>.set HelloFlags.encryptionKeyBit hello.encryptionKey?.isSome
    |>.set HelloFlags.signingKeyBit hello.signingKey?.isSome
    |>.set HelloFlags.ticketBit hello.ticket?.isSome

/-- The number of bytes of the encoded hello. -/
def size (hello : Hello) : Nat :=
  headerSize + (if hello.encryptionKey?.isSome then keySize else 0) +
    (if hello.signingKey?.isSome then keySize else 0) +
    (hello.ticket?.elim 0 Envelope.size)

/-- Header, encryption key, signing key, ticket; an absent field takes no bytes. -/
def encode (hello : Hello) : Bytes :=
  Header.encode ⟨.m1, hello.flags.byte⟩ ++
    (hello.encryptionKey?.elim [] (·.octets.toList) ++
      (hello.signingKey?.elim [] (·.octets.toList) ++
        hello.ticket?.elim [] Envelope.encode))

/-- Content that the header promised and that is malformed is the peer's fault. -/
def blamePeer : Error → Error
  | .malformed cause => .badPeer (.malformed cause)
  | e => e

/-- The hello with the given fields, unless both the key and the ticket are missing. -/
def ofFields (encryptionKey : Option EncryptionKey) (signingKey : Option SigningKey)
    (ticket : Option Envelope) : Result Hello :=
  match ticket, encryptionKey with
  | some ticket, encryptionKey => .ok (resume ticket encryptionKey signingKey)
  | none, some encryptionKey => .ok (handshake encryptionKey signingKey)
  | none, none => .error (.badPeer .emptyHello)

/-- A key that follows if its flag is set, and the number of bytes used up to its end. -/
def decodeKey (data : Bytes) (start used : Position) (present : Bool) (part : Part) :
    Result (Option (Octets 32) × Position) :=
  if present then do
    let key ← (data.field (start + used) keySize part).mapError blamePeer
    return (some key, used + UInt64.ofNat keySize)
  else .ok (none, used)

/-- A ticket that follows if its flag is set, and the number of bytes used up to its end. -/
def decodeTicket (data : Bytes) (start used : Position) (present : Bool) :
    Result (Option Envelope × Position) :=
  if present then do
    let (ticket, size) ← (Envelope.decode data (start + used)).mapError blamePeer
    return (some ticket, used + size)
  else .ok (none, used)

/-- The hello at a position and the number of bytes it takes. -/
def decode (data : Bytes) (start : Position) : Result (Hello × Position) := do
  let header ← Header.decode data start .m1
  let flags ← HelloFlags.ofByte header.flags
  let (encryptionKey, used) ← decodeKey data start (UInt64.ofNat headerSize)
    (flags.has HelloFlags.encryptionKeyBit) .clientEncryptionKey
  let (signingKey, used) ← decodeKey data start used
    (flags.has HelloFlags.signingKeyBit) .serverSigningKey
  let (ticket, used) ← decodeTicket data start used (flags.has HelloFlags.ticketBit)
  let hello ← ofFields (encryptionKey.map EncryptionKey.mk) (signingKey.map SigningKey.mk) ticket
  return (hello, used)

/-- The hello that the whole buffer holds. -/
def ofBytes (data : Bytes) : Result Hello := do
  let (hello, used) ← decode data 0
  if used.toNat ≠ data.length then throw (.badPeer (.trailing (data.length - used.toNat)))
  return hello

end Hello
end Resumption.Packet
