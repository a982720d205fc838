/-!
The kinds of packets a peer may send and the byte that names each on the wire. Bytes and kinds
correspond one to one; bytes without a kind are refused by every reader.
-/

namespace Resumption.Packet

/-- What a packet is, as its first byte says. -/
inductive Kind
  /-- Client hello, which may carry a resume ticket. -/
  | m1
  /-- Server hello. -/
  | m2
  /-- Server authentication. -/
  | m3
  /-- Client authentication. -/
  | m4
  /-- Application data. -/
  | app
  /-- A packet inside an encrypted wrapper. -/
  | encrypted
  /-- Address negotiation request. -/
  | a1
  /-- Address negotiation response. -/
  | a2
  /-- Delivery of a ticket to the client. -/
  | ticketTransfer
  /-- Several application messages in one packet. -/
  | multiApp
deriving DecidableEq, Repr

namespace Kind

/-- The byte that names the kind. -/
def toByte : Kind → UInt8
  | m1 => 1
  | m2 => 2
  | m3 => 3
  | m4 => 4
  | app => 5
  | encrypted => 6
  | a1 => 8
  | a2 => 9
  | ticketTransfer => 10
  | multiApp => 11

/-- The kind a byte names, if it names one. -/
def ofByte? (b : UInt8) : Option Kind :=
  match b.toNat with
  | 1 => some m1
  | 2 => some m2
  | 3 => some m3
  | 4 => some m4
  | 5 => some app
  | 6 => some encrypted
  | 8 => some a1
  | 9 => some a2
  | 10 => some ticketTransfer
  | 11 => some multiApp
  | _ => none

/-- The kind's name in messages. -/
def name : Kind → String
  | m1 => "M1"
  | m2 => "M2"
  | m3 => "M3"
  | m4 => "M4"
  | app => "App"
  | encrypted => "Encrypted"
  | a1 => "A1"
  | a2 => "A2"
  | ticketTransfer => "TicketTransfer"
  | multiApp => "MultiApp"

theorem ofByte?_toByte (k : Kind) : ofByte? k.toByte = some k := by
  cases k <;> rfl

theorem ofByte?_eq_some_iff {b : UInt8} {k : Kind} : ofByte? b = some k ↔ b = k.toByte := by
  constructor
  · intro found
    unfold ofByte? at found
    apply UInt8.toNat_inj.mp
    split at found <;> first | (cases found; assumption) | cases found
  · rintro rfl
    exact ofByte?_toByte k

end Kind
end Resumption.Packet
