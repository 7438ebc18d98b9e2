import Helpdesk.Ticket

/-!
# Helpdesk.Handoff.Outbox — notifications on their way.

A step of a workflow does not wait for the team to be told: it puts a delivery into the outbox, and
deliveries are made afterwards, one after another. A record is *in flight* from the moment when its
delivery is put into the outbox until that delivery has ended, well or badly. A record in flight is
not put into the outbox again, so at most one delivery of a record is on its way.
-/
namespace Helpdesk.Handoff

/-- A notification of a handoff on a channel. -/
structure Delivery where
  /-- The number of the record. -/
  id : Int
  record : HandoffRecord
  ticket : Ticket
  channel : String

structure Outbox where
  /-- The numbers of the records in flight. -/
  inFlight : List Int
  /-- The deliveries that have not ended, the oldest first. -/
  pending : List Delivery

namespace Outbox

def empty : Outbox := ⟨[], []⟩

/-- Whether a record is in flight. -/
def isInFlight (o : Outbox) (id : Option Int) : Bool :=
  id.any o.inFlight.contains

/-- Puts a delivery into the outbox; nothing for a record without a number or in flight. -/
def dispatch? (o : Outbox) (record : HandoffRecord) (ticket : Ticket) (channel : String) :
    Option Outbox :=
  match record.id with
  | none => none
  | some id =>
    if o.inFlight.contains id then none
    else some ⟨o.inFlight ++ [id], o.pending ++ [⟨id, record, ticket, channel⟩]⟩

/-- The outbox after the delivery of a record has ended. -/
def finish (o : Outbox) (id : Int) : Outbox :=
  ⟨o.inFlight.filter (· != id), o.pending.filter (·.id != id)⟩

end Outbox

end Helpdesk.Handoff
