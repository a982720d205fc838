import Resumption.Limits
import Resumption.Packet.Kind
import Resumption.Text.Quoted
import Resumption.Wire.Octets

/-!
Why a packet, a ticket, a frame or a setting is refused. Each error names its cause; the wording is
in `message`, and `describe` is the form shown to developers. A rejected ticket carries no cause at
all, so that a peer cannot tell an unknown ticket from a used or a forged one.
-/

namespace Resumption

/-- The parts of a message that may be cut short. -/
inductive Part
  | packetType
  | packetHeader
  | clientEncryptionKey
  | serverSigningKey
  | ticketClientKey
  | ticketSessionKey
  | ticketEnvelope
  | ticketIndex
  | ticketHostData
  | ticketLength
  | ticketCiphertext
  | frameHeader
  | frame
deriving DecidableEq, Repr

/-- The part's name in messages. -/
def Part.name : Part → String
  | packetType => "packet type"
  | packetHeader => "packet header"
  | clientEncryptionKey => "M1 client encryption key"
  | serverSigningKey => "M1 server signing key"
  | ticketClientKey => "ticket client key"
  | ticketSessionKey => "ticket session key"
  | ticketEnvelope => "ticket envelope"
  | ticketIndex => "ticket index"
  | ticketHostData => "ticket host data"
  | ticketLength => "ticket length"
  | ticketCiphertext => "ticket ciphertext"
  | frameHeader => "frame header"
  | frame => "frame"

/-- Wire bytes that are cut short or inconsistent in themselves. -/
inductive Malformed
  /-- The part would end at `needed`, but only `present` bytes are there. -/
  | truncated (part : Part) (needed present : Nat)
  /-- The part would end past the largest position. -/
  | unreachable (part : Part)
  | unknownKind (byte : UInt8)
  | sealedTooShort (length : Nat)
  | sealedTooLong (length : Nat)
  /-- A reason given in words. -/
  | stated (reason : String)
deriving DecidableEq, Repr

def Malformed.reason : Malformed → String
  | truncated part needed present =>
    s!"insufficient data for {part.name}: need {needed} bytes, have {present}"
  | unreachable part => s!"{part.name} offset overflows"
  | unknownKind byte => s!"unknown packet type 0x{Bytes.hexByte byte}"
  | sealedTooShort length =>
    s!"ticket ciphertext too short: {length} bytes, tag alone is {tagSize}"
  | sealedTooLong length =>
    s!"ticket ciphertext too long: {length} bytes exceeds maximum of {maxSealed}"
  | stated reason => reason

/-- A peer that sends what does not fit the current step. -/
inductive Misfit
  /-- Content that its own header promised is malformed. -/
  | malformed (cause : Malformed)
  | wrongKind (expected : Packet.Kind) (found : UInt8)
  | unexpectedKind (found : Packet.Kind)
  | requestFlags (flags : UInt8)
  | deliveryFlags (flags : UInt8)
  /-- Flag bits of a hello that have no meaning. -/
  | helloFlags (undefined : UInt8)
  /-- A hello that can neither start a handshake nor resume a session. -/
  | emptyHello
  | trailing (count : Nat)
  /-- A reason given in words. -/
  | stated (reason : String)
deriving DecidableEq, Repr

def Misfit.reason : Misfit → String
  | malformed cause => cause.reason
  | wrongKind expected found =>
    s!"expected packet type {expected.name} (0x{Bytes.hexByte expected.toByte}), " ++
      s!"got 0x{Bytes.hexByte found}"
  | unexpectedKind found => s!"unexpected packet type {found.name}"
  | requestFlags flags => s!"A1 defines no flags, got 0x{Bytes.hexByte flags}"
  | deliveryFlags flags => s!"TicketTransfer defines no flags, got 0x{Bytes.hexByte flags}"
  | helloFlags undefined => s!"M1 has undefined flag bits 0x{Bytes.hexByte undefined}"
  | emptyHello => "M1 carries neither an encryption key nor a resume ticket"
  | trailing count => s!"M1 followed by {count} unexpected bytes"
  | stated reason => reason

/-- Settings out of range. -/
inductive BadSetting
  /-- The number of tracked indices that a window was asked for. -/
  | windowCapacity (found : Nat)
  /-- The number of tracked indices that the settings give. -/
  | capacity (found : Nat)
  | noIndexLeft
  /-- A reason given in words. -/
  | stated (reason : String)
deriving DecidableEq, Repr

def BadSetting.reason : BadSetting → String
  | windowCapacity found => s!"ticket capacity must be between 1 and {maxCapacity}, got {found}"
  | capacity found => s!"capacity must be between 1 and {maxCapacity}, got {found}"
  | noIndexLeft => "first_ticket_index leaves no index to issue"
  | stated reason => reason

/-- A signing key that is no key. -/
inductive BadKey
  /-- The bytes give no point of the curve. -/
  | offCurve
  /-- A reason given in words. -/
  | stated (reason : String)
deriving DecidableEq, Repr

def BadKey.reason : BadKey → String
  | offCurve => "signature error: Cannot decompress Edwards point"
  | stated reason => reason

/-- Why an operation of the protocol fails. -/
inductive Error
  | malformed (cause : Malformed)
  | badPeer (cause : Misfit)
  /-- A presented ticket was rejected, for whatever reason. -/
  | invalidTicket
  /-- Every index has been issued. -/
  | exhausted
  | encryption (reason : String)
  | invalidKey (cause : BadKey)
  | invalidSetting (cause : BadSetting)
  | frameTooLarge (size limit : Nat)
deriving DecidableEq, Repr

namespace Error

/-- The error in words. -/
def message : Error → String
  | malformed cause => s!"malformed input: {cause.reason}"
  | badPeer cause => s!"bad peer: {cause.reason}"
  | invalidTicket => "invalid ticket"
  | exhausted => "ticket index space exhausted"
  | encryption reason => s!"encryption failed: {reason}"
  | invalidKey cause => s!"invalid public key: {cause.reason}"
  | invalidSetting cause => s!"invalid configuration: {cause.reason}"
  | frameTooLarge size limit => s!"frame too large: {size} bytes exceeds maximum of {limit} bytes"

/-- The error as developers see it: its kind, and its cause as quoted text. -/
def describe : Error → String
  | malformed cause => s!"MalformedInput({Text.quote cause.reason})"
  | badPeer cause => s!"BadPeer({Text.quote cause.reason})"
  | invalidTicket => "InvalidTicket"
  | exhausted => "TicketIndexExhausted"
  | encryption reason => s!"Encryption({Text.quote reason})"
  | invalidKey cause => s!"InvalidPublicKey({Text.quote cause.reason})"
  | invalidSetting cause => s!"InvalidConfig({Text.quote cause.reason})"
  | frameTooLarge size limit =>
    "FrameTooLarge \x7b " ++ s!"size: {size}, max: {limit}" ++ " \x7d"

/-- A part that ends at `needed` where only `present` bytes are. -/
def truncated (part : Part) (needed present : Nat) : Error :=
  malformed (.truncated part needed present)

end Error

/-- An answer or the reason why there is none. -/
abbrev Result (α : Type) := Except Error α

end Resumption
