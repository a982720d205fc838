import Resumption.Host.KeyFile
import Resumption.Host.Watermark
import Resumption.Office

/-!
A host that stops and starts again. It keeps its ticket key and a watermark in its data directory,
and reserves indices there in blocks before it issues them: whatever happens, the watermark on disk
is above every index that was issued, and no later host on the directory issues one of them again.
Tickets of an earlier host are not redeemed by a later one.
-/

namespace Resumption

/-- A host at work. -/
structure Host where
  office : Office
  /-- Where the watermark is kept. -/
  watermark : Path
  /-- The first index that is not reserved. -/
  reservedUntil : Index
  /-- How many indices are reserved at a time. -/
  reserveBlock : Index
  keyFingerprint : String

namespace Host

/-- An index raised by a number of indices, up to the last index. -/
def raise (i block : Index) : Index :=
  Index.clamp (i.toInt + block.toInt)

/-- Starts a host: at the watermark of the last one or at the first index of the settings, whichever
is higher. -/
def start (settings : Settings) : Work Host := do
  Work.within .checkSettings do
    if let .error e := settings.validate then throw (.settings e)
  let directory := Path.ofText settings.dataDir
  Work.step (.makeDataDirectory directory) (Script.makeDirectories directory)
  let key ← KeyFile.load (directory.child KeyFile.name)
  let watermark := directory.child Watermark.name
  let first := match ← Watermark.load watermark with
    | some kept => if settings.tickets.first < kept then kept else settings.tickets.first
    | none => settings.tickets.first
  let reserveBlock := Index.clamp settings.reserveBlock.toNat
  let reservedUntil := raise first reserveBlock
  Watermark.save watermark reservedUntil
  match Office.ofSettings key { settings.tickets with first } with
  | .ok office =>
    return { office, watermark, reservedUntil, reserveBlock, keyFingerprint := key.fingerprint }
  | .error e => throw (.during .startOffice (.protocol e))

/-- The host with the next index reserved. A reservation that reaches to the last index is never
extended. -/
def reserve (host : Host) : Work Host := do
  let next := host.office.window.next
  if host.reservedUntil ≤ next ∧ host.reservedUntil < Index.last then
    let extended := raise next host.reserveBlock
    Work.within .extendReservation (Watermark.save host.watermark extended)
    return { host with reservedUntil := extended }
  else return host

/-- Issues a ticket for a session. Its index is reserved on disk first. -/
def issue (host : Host) (session : Session) (hostData : HostData) :
    Script (Except HostError Envelope × Host) := do
  match ← host.reserve.run with
  | .error e => return (.error e, host)
  | .ok host =>
    let (answer, office) := host.office.issue session hostData
    return (answer.mapError fun e => .during .issueTicket (.protocol e), { host with office })

/-- Checks a presented ticket and redeems it. -/
def check (host : Host) (ticket : Envelope) : Result Session × Host :=
  let (answer, office) := host.office.check ticket
  (answer, { host with office })

/-- Whether an index was issued by this host and can still be redeemed. -/
def isOutstanding (host : Host) (i : Index) : Bool :=
  host.office.window.isOutstanding i

/-- The host as developers see it. -/
def describe (host : Host) : String :=
  "ResumeHost \x7b handler: " ++ host.office.describe ++
    ", watermark: WatermarkStore \x7b path: " ++ Text.quote host.watermark.text ++
    " \x7d, reserved_until: Mutex \x7b data: " ++ host.reservedUntil.text ++
    ", poisoned: false, .. \x7d, reserve_block: " ++ host.reserveBlock.text ++
    ", key_fingerprint: " ++ Text.quote host.keyFingerprint ++ " \x7d"

end Host
end Resumption
