import Resumption.Proofs.DecodingErrors
import Resumption.Proofs.EnvelopeRepresentation

/-! Readers in checked steps. Some of the sums in a reader stop at the largest word, some
are refused if they do not fit, and the plain ones are right because of what other readers
checked before. None of them ever wraps, and no byte is looked for outside the buffer. What
a reader gives depends on the bytes behind its position alone. -/
namespace Resumption

/-- The envelope with the fields, if they keep its promise. -/
def RawEnvelope.envelope? (e : RawEnvelope) : Option Envelope :=
  if kept : e.sealedSize = e.sealedBytes.length ∧ tagSize ≤ e.sealedSize ∧
      e.sealedSize ≤ maxSealed then
    some ⟨e.header, e.index, e.hostData, e.sealedBytes, e.sealedSize, kept.1, kept.2.1, kept.2.2⟩
  else none

namespace Checked

open Packet

/-- The kind at a position. The byte is looked up, so there is nothing to check. -/
def peek (data : Bytes) (start : Position) : Checked Kind :=
  unchecked (Packet.peek data start)

def header (data : Bytes) (start : Position) (expected : Kind) : Checked Header := do
  let stop := start.capped headerSize
  if data.length < stop.toNat then throw (.truncated .packetHeader stop.toNat data.length)
  let byte ← byteAt data start
  if byte ≠ expected.toByte then throw (.badPeer (.wrongKind expected byte))
  let flags ← byteAt data (← sum start 1)
  return ⟨expected, flags⟩

def session (data : Bytes) (start : Position) : Checked Session := do
  let clientKey ← field data start keySize .ticketClientKey
  let sessionKey ← field data (start.capped keySize) keySize .ticketSessionKey
  return ⟨⟨clientKey⟩, ⟨sessionKey⟩⟩

/-- The envelope at a position. That its fields keep the promise is checked as well. -/
def envelope (data : Bytes) (start : Position) : Checked (Envelope × Position) := do
  let (fields, used) ← RawEnvelope.read data start
  return (← demand fields.envelope?, used)

def request (data : Bytes) (start : Position) : Checked (AddressRequest × Position) := do
  let header ← header data start .a1
  if header.flags ≠ 0 then throw (.badPeer (.requestFlags header.flags))
  return (⟨⟩, UInt64.ofNat headerSize)

def delivery (data : Bytes) (start : Position) : Checked (Delivery × Position) := do
  let header ← header data start .ticketTransfer
  if header.flags ≠ 0 then throw (.badPeer (.deliveryFlags header.flags))
  let (ticket, used) ← envelope data (← sum start (UInt64.ofNat headerSize))
  return (⟨ticket⟩, ← sum (UInt64.ofNat headerSize) used)

/-- A key that follows if its flag is set, and the number of bytes used up to its end. -/
def key (data : Bytes) (start used : Position) (present : Bool) (part : Part) :
    Checked (Option (Octets 32) × Position) :=
  if present then do
    let place ← sum start used
    let key ← (field data place keySize part).adapt Hello.blamePeer
    return (some key, ← sum used (UInt64.ofNat keySize))
  else return (none, used)

/-- A ticket that follows if its flag is set, and the number of bytes used up to its end. -/
def ticket (data : Bytes) (start used : Position) (present : Bool) :
    Checked (Option Envelope × Position) :=
  if present then do
    let place ← sum start used
    let (ticket, size) ← (envelope data place).adapt Hello.blamePeer
    return (some ticket, ← sum used size)
  else return (none, used)

def hello (data : Bytes) (start : Position) : Checked (Hello × Position) := do
  let header ← header data start .m1
  let flags ← unchecked (HelloFlags.ofByte header.flags)
  let (encryptionKey, used) ← key data start (UInt64.ofNat headerSize)
    (flags.has HelloFlags.encryptionKeyBit) .clientEncryptionKey
  let (signingKey, used) ← key data start used
    (flags.has HelloFlags.signingKeyBit) .serverSigningKey
  let (ticket, used) ← ticket data start used (flags.has HelloFlags.ticketBit)
  let hello ← unchecked (Hello.ofFields (encryptionKey.map EncryptionKey.mk)
    (signingKey.map SigningKey.mk) ticket)
  return (hello, used)

def packet (data : Bytes) (start : Position) : Checked (Packet × Position) := do
  match ← peek data start with
  | .a1 =>
    let (request, used) ← request data start
    return (.addressRequest request, used)
  | .m1 =>
    let (greeting, used) ← hello data start
    return (.hello greeting, used)
  | .ticketTransfer =>
    let (transfer, used) ← delivery data start
    return (.delivery transfer, used)
  | other => throw (.badPeer (.unexpectedKind other))

variable {data : Bytes} {start used : Position} {present : Bool}

section Tracking

variable (bounded : data.length ≤ maxLength)
include bounded

theorem le_maxWord : data.length ≤ maxWord :=
  bounded.trans (by decide)

/-- What stands within a buffer ends at a word. -/
theorem fits_word {n : Nat} (inside : n ≤ data.length) : n ≤ maxWord :=
  inside.trans (le_maxWord bounded)

theorem header_tracks (expected : Kind) :
    Tracks (· = ·) (header data start expected) (Header.decode data start expected) := by
  unfold header
  dsimp only
  by_cases short : data.length < (start.capped headerSize).toNat
  · rw [if_pos short, Header.decode, if_pos short]
    exact rfl
  rw [if_neg short]
  rcases short_or_header (data.drop start.toNat) with few | ⟨kind, flags, fields, there⟩
  · unfold maxLength at bounded
    rw [Position.toNat_capped] at short
    rw [List.length_drop] at few
    unfold maxWord at short
    omega
  obtain ⟨-, -, whole⟩ := behind_header (le_maxWord bounded) there
  have second : start.toNat + 1 ≤ data.length := by
    rw [headerSize] at whole
    omega
  have byte : data[start.toNat]? = some kind := by
    rw [← List.head?_drop, there]
    rfl
  have next : (start + 1).toNat = start.toNat + 1 :=
    Position.toNat_add_of_le (n := 1) (fits_word bounded second)
  have flag : data[(start + 1).toNat]? = some flags := by
    rw [next, ← List.head?_drop, ← List.drop_drop, there]
    rfl
  rw [Header.decode_of_header (le_maxWord bounded) expected there]
  refine .after (run_byteAt byte) ?_
  by_cases same : kind = expected.toByte
  · rw [if_neg (not_not.mpr same), if_pos same]
    refine .after (run_sum (fits_word bounded second)) (.after (run_byteAt flag) ?_)
    exact tracks_pure rfl
  · rw [if_pos same, if_neg same]
    exact rfl

omit bounded in
theorem session_tracks (start : Position) :
    Tracks (· = ·) (session data start) (Session.decode data start) := by
  unfold session Session.decode
  refine .bind (tracks_field ..) ?_
  rintro clientKey _ rfl -
  refine .bind (tracks_field ..) ?_
  rintro sessionKey _ rfl -
  exact tracks_pure rfl

theorem envelope_tracks (start : Position) :
    Tracks (· = ·) (envelope data start) (Envelope.decode data start) := by
  rw [← bind_pure (Envelope.decode data start)]
  refine .bind (RawEnvelope.read_tracks bounded) ?_
  rintro _ ⟨ticket, used⟩ rfl -
  have kept : ticket.raw.envelope? = some ticket :=
    dif_pos ⟨ticket.sealedSize_eq, ticket.tagSize_le, ticket.le_maxSealed⟩
  refine .after (run_demand kept) ?_
  exact tracks_pure rfl

theorem request_tracks (start : Position) :
    Tracks (· = ·) (request data start) (AddressRequest.decode data start) := by
  refine .bind (header_tracks bounded .a1) ?_
  rintro header _ rfl -
  refine tracks_refuse fun _ => ?_
  exact tracks_pure rfl

/-- An envelope that is read ends within the buffer. -/
theorem inside_of_envelope {ticket : Envelope}
    (decoded : Envelope.decode data start = .ok (ticket, used)) :
    start.toNat + used.toNat ≤ data.length := by
  obtain ⟨taken, stands⟩ := (Envelope.decode_eq_ok_iff (le_maxWord bounded)).mp decoded
  have inside := stands.le_of_pos (by rw [Envelope.encode_eq]; exact Nat.succ_pos _)
  rwa [taken, ← Envelope.length_encode]

theorem delivery_tracks (start : Position) :
    Tracks (· = ·) (delivery data start) (Delivery.decode data start) := by
  refine .bind (header_tracks bounded .ticketTransfer) ?_
  rintro header _ rfl decoded
  obtain ⟨-, stands⟩ := (Header.decode_eq_ok_iff (le_maxWord bounded) _ _).mp decoded
  have inside := stands.le_of_pos (Nat.succ_pos _)
  rw [Header.length_encode] at inside
  refine tracks_refuse fun _ => ?_
  refine .after (run_sum (fits_word bounded inside)) ?_
  refine .bind (envelope_tracks bounded _) ?_
  rintro ⟨ticket, used⟩ _ rfl decoded
  have ends := inside_of_envelope bounded decoded
  rw [Position.toNat_add_of_le (fits_word bounded inside)] at ends
  refine .after (run_sum (fits_word bounded (n := headerSize + used.toNat) (by omega))) ?_
  exact tracks_pure rfl

variable (inside : start.toNat + used.toNat ≤ data.length)
include inside

theorem key_tracks (part : Part) :
    Tracks (· = ·) (key data start used present part)
      (Hello.decodeKey data start used present part) := by
  cases present with
  | false => exact tracks_pure rfl
  | true =>
    refine .after (run_sum (fits_word bounded inside)) ?_
    refine .bind ((tracks_field ..).adapt _) ?_
    rintro key _ rfl decoded
    have ends := ((Bytes.field_eq_ok_iff ..).mp (mapError_eq_ok_iff.mp decoded)).2.1
    rw [Position.toNat_sum (fits_word bounded inside)] at ends
    refine .after (run_sum (fits_word bounded (n := used.toNat + keySize) (by omega))) ?_
    exact tracks_pure rfl

theorem ticket_tracks :
    Tracks (· = ·) (ticket data start used present)
      (Hello.decodeTicket data start used present) := by
  cases present with
  | false => exact tracks_pure rfl
  | true =>
    refine .after (run_sum (fits_word bounded inside)) ?_
    refine .bind ((envelope_tracks bounded _).adapt _) ?_
    rintro ⟨ticket, size⟩ _ rfl decoded
    have ends := inside_of_envelope bounded (mapError_eq_ok_iff.mp decoded)
    rw [Position.toNat_sum (fits_word bounded inside)] at ends
    refine .after (run_sum (fits_word bounded (n := used.toNat + size.toNat) (by omega))) ?_
    exact tracks_pure rfl

omit inside

theorem hello_tracks (start : Position) :
    Tracks (· = ·) (hello data start) (Hello.decode data start) := by
  have word := le_maxWord bounded
  refine .bind (header_tracks bounded .m1) ?_
  rintro header _ rfl decoded
  have inside := ((Header.decode_eq_ok_iff word _ _).mp decoded).2.le_of_pos (Nat.succ_pos _)
  refine .bind (tracks_unchecked _) ?_
  rintro flags _ rfl -
  refine .bind (key_tracks bounded inside _) ?_
  rintro ⟨key, used₁⟩ _ rfl decoded
  obtain ⟨-, -, inside₁⟩ := Hello.decodeKey_advances word inside decoded
  refine .bind (key_tracks bounded inside₁ _) ?_
  rintro ⟨signing, used₂⟩ _ rfl decoded
  obtain ⟨-, -, inside₂⟩ := Hello.decodeKey_advances word inside₁ decoded
  refine .bind (ticket_tracks bounded inside₂) ?_
  rintro ⟨ticket, used₃⟩ _ rfl -
  refine .bind (tracks_unchecked _) ?_
  rintro greeting _ rfl -
  exact tracks_pure rfl

theorem packet_tracks (start : Position) :
    Tracks (· = ·) (packet data start) (Packet.decode data start) := by
  refine .bind (tracks_unchecked _) ?_
  rintro kind _ rfl -
  cases kind
  case a1 =>
    refine .bind (request_tracks bounded start) ?_
    rintro ⟨request, used⟩ _ rfl -
    exact tracks_pure rfl
  case m1 =>
    refine .bind (hello_tracks bounded start) ?_
    rintro ⟨greeting, used⟩ _ rfl -
    exact tracks_pure rfl
  case ticketTransfer =>
    refine .bind (delivery_tracks bounded start) ?_
    rintro ⟨transfer, used⟩ _ rfl -
    exact tracks_pure rfl
  all_goals exact tracks_throw _

end Tracking

end Checked

/-- What a reader keeps at a position of a buffer: none of its checks fails, nothing is read
past the end, what it takes lies within the buffer, and it gives what it would give for the
bytes behind the position alone. -/
structure ReadsSafely {α : Type} (checked : Bytes → Position → Checked α)
    (decode : Bytes → Position → Result α) (used : α → Nat) (data : Bytes) (start : Position) :
    Prop where
  checks_pass : (checked data start).run = some (decode data start)
  malformed_past_end : data.length ≤ start.toNat → FailsAs (decode data start) .malformed
  within : ∀ a, decode data start = .ok a → start.toNat + used a ≤ data.length
  of_suffix : byVariant (decode data start) = byVariant (decode (data.drop start.toNat) 0)

namespace ReadsSafely

variable {α : Type} {checked : Bytes → Position → Checked α}
  {decode : Bytes → Position → Result α} {used : α → Nat} {data : Bytes} {start : Position}

/-- A reader is safe if the bytes behind its position tell what it gives. -/
theorem of_available (accepts : Bytes → α → Prop) (fails : Bytes → Error.Variant → Prop)
    (bounded : data.length ≤ maxLength)
    (tracks : Checked.Tracks (· = ·) (checked data start) (decode data start))
    (reads : ∀ {data start}, data.length ≤ maxWord → ∀ a,
      decode data start = .ok a ↔ accepts (data.drop start.toNat) a)
    (refuses : ∀ {data start v}, data.length ≤ maxWord →
      (FailsAs (decode data start) v ↔ fails (data.drop start.toNat) v))
    (room : ∀ {rest a}, accepts rest a → used a ≤ rest.length) (empty : fails [] .malformed) :
    ReadsSafely checked decode used data start := by
  have word := Checked.le_maxWord bounded
  have past (beyond : data.length ≤ start.toNat) : FailsAs (decode data start) .malformed := by
    rw [refuses word, List.drop_of_length_le beyond]
    exact empty
  have shorter := Bytes.length_drop_le_maxWord word start.toNat
  have whole : (data.drop start.toNat).drop (0 : Position).toNat = data.drop start.toNat := rfl
  refine ⟨tracks.run_eq, past, fun a found => ?_, byVariant_congr (fun a => ?_) fun v => ?_⟩
  · have fits := room ((reads word a).mp found)
    have before : start.toNat < data.length := by
      by_contra beyond
      exact (past (not_lt.mp beyond)).ne_ok a found
    rw [List.length_drop] at fits
    omega
  · rw [reads word, reads shorter, whole]
  · rw [refuses word, refuses shorter, whole]

/-- A reader of what has encodings accepts those that stand at its position. -/
theorem of_encodings {checked : Bytes → Position → Checked (α × Position)}
    {decode : Bytes → Position → Result (α × Position)} {encode : α → Bytes} {size : α → Nat}
    (fails : Bytes → Error.Variant → Prop) (bounded : data.length ≤ maxLength)
    (tracks : Checked.Tracks (· = ·) (checked data start) (decode data start))
    (sized : ∀ item, (encode item).length = size item)
    (reads : ∀ {data start used}, data.length ≤ maxWord → ∀ item,
      decode data start = .ok (item, used) ↔
        used.toNat = size item ∧ (encode item).StandsAt data start.toNat)
    (refuses : ∀ {data start v}, data.length ≤ maxWord →
      (FailsAs (decode data start) v ↔ fails (data.drop start.toNat) v))
    (empty : fails [] .malformed) :
    ReadsSafely checked decode (·.2.toNat) data start := by
  refine of_available (fun rest found => found.2.toNat = size found.1 ∧ encode found.1 <+: rest)
    fails bounded tracks (fun word found => reads word found.1) refuses ?_ empty
  rintro rest ⟨item, used⟩ ⟨taken, stands⟩
  rw [taken, ← sized]
  exact List.IsPrefix.length_le stands

end ReadsSafely

section Readers

open Packet

variable {data : Bytes} {start : Position} (bounded : data.length ≤ maxLength)
include bounded

theorem peek_readsSafely : ReadsSafely Checked.peek peek (fun _ => 1) data start := by
  refine .of_available (fun rest kind => rest.head? = some kind.toByte)
    (fun rest v => v = .malformed ∧ ∀ kind : Kind, rest.head? ≠ some kind.toByte) bounded
    (Checked.tracks_unchecked _) (fun _ kind => ?_) (fun _ => peek_fails_iff) ?_ ?_
  · rw [peek_eq_ok_iff, List.head?_drop]
  · intro rest kind first
    cases rest with
    | nil => cases first
    | cons => exact Nat.succ_pos _
  · exact ⟨rfl, fun kind => nofun⟩

theorem header_readsSafely (expected : Kind) :
    ReadsSafely (Checked.header · · expected) (Header.decode · · expected)
      (fun _ => headerSize) data start := by
  refine .of_available (fun rest header => header.kind = expected ∧ header.encode <+: rest)
    (fun rest v => v = .malformed ∧ rest.length < headerSize ∨ v = .badPeer ∧
      ∃ kind flags fields, rest = kind :: flags :: fields ∧ kind ≠ expected.toByte)
    bounded (Checked.header_tracks bounded expected)
    (fun word header => Header.decode_eq_ok_iff word expected header)
    (fun word => Header.decode_fails_iff word expected) ?_ ?_
  · rintro rest header ⟨-, stands⟩
    exact List.IsPrefix.length_le stands
  · exact .inl ⟨rfl, Nat.succ_pos _⟩

theorem envelope_readsSafely :
    ReadsSafely Checked.envelope Envelope.decode (·.2.toNat) data start :=
  .of_encodings (fun rest v => v = .malformed ∧ Envelope.Fault rest) bounded
    (Checked.envelope_tracks bounded start) Envelope.length_encode
    (fun word _ => Envelope.decode_eq_ok_iff word) Envelope.decode_fails_iff
    ⟨rfl, .cutShort (Nat.succ_pos _)⟩

theorem request_readsSafely :
    ReadsSafely Checked.request AddressRequest.decode (·.2.toNat) data start :=
  .of_encodings (fun rest v => v = .malformed ∧ rest.length < headerSize ∨
      v = .badPeer ∧ Header.Unfit .a1 rest) bounded
    (Checked.request_tracks bounded start)
    (fun request => (rfl : request.encode.length = request.size))
    AddressRequest.decode_eq_ok_iff AddressRequest.decode_fails_iff (.inl ⟨rfl, Nat.succ_pos _⟩)

theorem delivery_readsSafely :
    ReadsSafely Checked.delivery Delivery.decode (·.2.toNat) data start :=
  .of_encodings (fun rest v => v = .malformed ∧ (rest.length < headerSize ∨
        ∃ fields, rest = Kind.ticketTransfer.toByte :: 0 :: fields ∧ Envelope.Fault fields) ∨
      v = .badPeer ∧ Header.Unfit .ticketTransfer rest) bounded
    (Checked.delivery_tracks bounded start) Delivery.length_encode
    Delivery.decode_eq_ok_iff Delivery.decode_fails_iff (.inl ⟨rfl, .inl (Nat.succ_pos _)⟩)

theorem hello_readsSafely :
    ReadsSafely Checked.hello Hello.decode (·.2.toNat) data start :=
  .of_encodings (fun rest v => v = .malformed ∧ rest.length < headerSize ∨
      v = .badPeer ∧ Hello.Fault rest) bounded
    (Checked.hello_tracks bounded start) Hello.length_encode
    Hello.decode_eq_ok_iff Hello.decode_fails_iff (.inl ⟨rfl, Nat.succ_pos _⟩)

theorem packet_readsSafely :
    ReadsSafely Checked.packet Packet.decode (·.2.toNat) data start :=
  .of_encodings (fun rest v => FailsAs (Packet.decode rest 0) v) bounded
    (Checked.packet_tracks bounded start) Packet.length_encode Packet.decode_eq_ok_iff
    Packet.decode_fails_iff_of_suffix (Packet.decode_fails_iff.mpr (.inl ⟨rfl, fun _ => nofun⟩))

theorem session_readsSafely :
    ReadsSafely Checked.session Session.decode (fun _ => Session.size) data start := by
  refine .of_available (fun rest session => session.encode <+: rest)
    (fun rest v => v = .malformed ∧ rest.length < Session.size) bounded
    (Checked.session_tracks start) Session.decode_eq_ok_iff_standsAt Session.decode_fails_iff
    ?_ ⟨rfl, Nat.succ_pos _⟩
  intro rest session stands
  rw [← session.length_encode]
  exact List.IsPrefix.length_le stands

end Readers

/-- Every reader is safe at every position of every buffer. -/
theorem readers_are_safe_everywhere (data : Bytes) (bounded : data.length ≤ maxLength)
    (start : Position) :
    ReadsSafely Checked.peek Packet.peek (fun _ => 1) data start ∧
    (∀ expected, ReadsSafely (Checked.header · · expected) (Packet.Header.decode · · expected)
      (fun _ => headerSize) data start) ∧
    ReadsSafely Checked.packet Packet.decode (·.2.toNat) data start ∧
    ReadsSafely Checked.hello Packet.Hello.decode (·.2.toNat) data start ∧
    ReadsSafely Checked.delivery Packet.Delivery.decode (·.2.toNat) data start ∧
    ReadsSafely Checked.request Packet.AddressRequest.decode (·.2.toNat) data start ∧
    ReadsSafely Checked.envelope Envelope.decode (·.2.toNat) data start ∧
    ReadsSafely Checked.session Session.decode (fun _ => Session.size) data start :=
  ⟨peek_readsSafely bounded, header_readsSafely bounded, packet_readsSafely bounded,
    hello_readsSafely bounded, delivery_readsSafely bounded, request_readsSafely bounded,
    envelope_readsSafely bounded, session_readsSafely bounded⟩

/-- A request behind another byte is read in checked steps, and at the last position there
is nothing to be read, which no step finds by wrapping around. -/
theorem readers_are_safe_everywhere_at_last_position :
    let data : Bytes := 9 :: (⟨⟩ : Packet.AddressRequest).encode
    (Checked.packet data 1).run = some (.ok (.addressRequest ⟨⟩, 2)) ∧
      (Checked.packet data (UInt64.ofNat maxWord)).run =
        some (Packet.decode data (UInt64.ofNat maxWord)) ∧
      FailsAs (Packet.decode data (UInt64.ofNat maxWord)) .malformed := by
  intro data
  obtain ⟨-, -, behind, -⟩ := readers_are_safe_everywhere data (by decide) 1
  obtain ⟨-, -, last, -⟩ := readers_are_safe_everywhere data (by decide) (UInt64.ofNat maxWord)
  exact ⟨behind.checks_pass, last.checks_pass, last.malformed_past_end (by decide)⟩

end Resumption
