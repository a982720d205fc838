import Resumption.Cipher
import Resumption.Settings.Tickets
import Resumption.Ticket.Envelope
import Resumption.Ticket.Session
import Resumption.Window

/-!
The ticket office of a host: it issues tickets for sessions and redeems each of them at most once.
An index is taken only if the session could be sealed under it, and given up only if the presented
ticket opens to a session. Every ticket that is turned away is turned away with the same error and
leaves the office as it was.
-/

namespace Resumption

/-- A cipher, the window of its issued indices and the format byte of its envelopes. -/
structure Office where
  cipher : Cipher
  window : Window
  header : UInt8

namespace Office

/-- An office with the service's own cipher and the usual format byte. -/
def start (key : TicketKey) (first : Index) (capacity : Nat) : Result Office := do
  return ⟨Cipher.chacha key, ← Window.new first capacity, 1⟩

/-- An office as the settings describe it. -/
def ofSettings (key : TicketKey) (settings : TicketSettings) : Result Office := do
  settings.validate
  let office ← start key settings.first settings.capacity.toNat
  return { office with header := settings.header }

/-- The envelope that holds a session under an index. -/
def wrap (office : Office) (session : Session) (hostData : HostData) (i : Index) :
    Result Envelope := do
  let sealedBytes ←
    office.cipher.encrypt i (sealContext office.header i hostData) session.encode
  Envelope.make office.header i hostData sealedBytes

/-- The session in an envelope. Whatever goes wrong, the ticket is invalid. -/
def unwrap (office : Office) (ticket : Envelope) : Result Session :=
  match office.cipher.decrypt ticket.index ticket.context ticket.sealedBytes with
  | .error _ => .error .invalidTicket
  | .ok text =>
    if text.length = Session.size then
      match Session.decode text 0 with
      | .error _ => .error .invalidTicket
      | .ok session => .ok session
    else .error .invalidTicket

/-- Issues a ticket for a session under the next index. -/
def issue (office : Office) (session : Session) (hostData : HostData) :
    Result Envelope × Office :=
  let (answer, window) := office.window.issueWith (office.wrap session hostData)
  (answer, { office with window })

/-- Checks a presented ticket and redeems it. -/
def check (office : Office) (ticket : Envelope) : Result Session × Office :=
  if ticket.header = office.header then
    let (answer, window) := office.window.redeemWith ticket.index fun _ => office.unwrap ticket
    (answer, { office with window })
  else (.error .invalidTicket, office)

/-- The office as developers see it. -/
def describe (office : Office) : String :=
  "ResumeHandler \x7b " ++ s!"ticket_header: {office.header.toNat}, " ++
    "allocator: " ++ office.window.describe ++ " \x7d"

end Office
end Resumption
