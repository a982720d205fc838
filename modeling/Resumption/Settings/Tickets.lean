import Resumption.Error
import Resumption.Ticket.Index

/-!
The settings of the ticket office: where its indices begin, how many of them stay redeemable and
the format byte of its envelopes.
-/

namespace Resumption

/-- Settings of a ticket office. -/
structure TicketSettings where
  /-- The first index to issue. -/
  first : Index := 0
  /-- How many of the latest tickets stay redeemable. -/
  capacity : UInt64 := 10000
  /-- The format byte of every envelope. -/
  header : UInt8 := 1
deriving DecidableEq, Repr

/-- Refuses a capacity no window has, then a first index that leaves none to issue. -/
def TicketSettings.validate (settings : TicketSettings) : Result Unit :=
  if settings.capacity.toNat = 0 ∨ maxCapacity < settings.capacity.toNat then
    .error (.invalidSetting (.capacity settings.capacity.toNat))
  else if settings.first = Index.last then .error (.invalidSetting .noIndexLeft)
  else .ok ()

end Resumption
