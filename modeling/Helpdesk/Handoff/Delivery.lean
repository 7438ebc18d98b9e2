import Helpdesk.Office

/-!
# Helpdesk.Handoff.Delivery — telling the team.

A delivery that its channel takes is marked on the record; one that fails is noted on the record
with what was said. Either way the record is in flight no longer afterwards.
-/
namespace Helpdesk.Handoff

variable {σ : Type}

/-- Puts a delivery into the outbox; whether it was put there. -/
def dispatch (record : HandoffRecord) (ticket : Ticket) (channel : String) : Duty σ Bool := do
  match (← get).outbox.dispatch? record ticket channel with
  | some outbox =>
    modify fun o => { o with outbox := outbox }
    return true
  | none => return false

/-- What belongs to every notice about a delivery. -/
def Delivery.noticeFields (d : Delivery) : Entries :=
  [("record_id", .int d.id), ("ticket_id", .text d.ticket.id), ("channel", .text d.channel)]

/-- Tells the team on the channel of a delivery. -/
def tell (sv : Services σ) (d : Delivery) : Task σ Unit :=
  match sv.channels.get? d.channel with
  | none => throw (.refused ("Unknown notification channel: " ++ d.channel))
  | some channel => Task.ofAttempt (Attempt.ask (channel d.record d.ticket))

/-- Tells the team and marks the record. -/
def tellAndMark (sv : Services σ) (d : Delivery) : Task σ Unit := do
  tell sv d
  Task.inBook sv fun b => do return ((), ← b.markSent d.id)

/-- Notes on a record what went wrong. -/
def noteFailure (sv : Services σ) (d : Delivery) (fault : Fault) : Duty σ Unit := do
  Duty.note (.error "handoff_notification_failed"
    (d.noticeFields ++ [("error", .text fault.message)]))
  match ← Duty.outcome (Task.inBook sv fun b => do
      return ((), ← b.markFailed d.id fault.message)) with
  | .ok _ => return ()
  | .error unsaved =>
    Duty.note (.error "handoff_notification_error_not_saved"
      (d.noticeFields ++ [("error", .text unsaved.message)]))

/-- Makes a delivery. -/
def deliver (sv : Services σ) (d : Delivery) : Duty σ Unit := do
  match ← Duty.outcome (tellAndMark sv d) with
  | .ok _ => pure ()
  | .error fault => noteFailure sv d fault
  modify fun o => { o with outbox := o.outbox.finish d.id }

/-- Makes all deliveries. -/
def settle (sv : Services σ) : Duty σ Unit := do
  (← get).outbox.pending.forM (deliver sv)

end Helpdesk.Handoff
