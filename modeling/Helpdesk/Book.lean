import Helpdesk.Conversation.Turn
import Helpdesk.Fault
import Helpdesk.Keyed
import Helpdesk.Notice

/-!
# Helpdesk.Book — tickets, messages and handoff records.

The book holds the tickets and messages of production and, apart from them, those of workflow tests.
It holds at most one handoff record for a ticket; records get increasing numbers and keep everything
but the state of their notification.
-/
namespace Helpdesk

structure Book where
  tickets : Keyed Ticket
  testTickets : Keyed Ticket
  messages : List Message
  testMessages : List Message
  /-- Handoff records under the identifiers of their tickets, in the order of creation. -/
  records : Keyed HandoffRecord
  /-- The number of the next record. -/
  nextId : Int

namespace Book

/-- A book of tickets and messages without handoff records. -/
def ofLists (tickets : List Ticket) (messages : List Message) (testTickets : List Ticket)
    (testMessages : List Message) : Book :=
  ⟨.ofList Ticket.id tickets, .ofList Ticket.id testTickets, messages, testMessages, [], 1⟩

/-- A book with nothing in it. -/
def empty : Book := ofLists [] [] [] []

/-- The tickets of production or of tests. -/
def ticketsOf (b : Book) (isTest : Bool) : Keyed Ticket :=
  if isTest then b.testTickets else b.tickets

/-- A ticket of production or of tests. -/
def ticket? (b : Book) (isTest : Bool) (id : String) : Option Ticket :=
  (b.ticketsOf isTest).get? id

/-- Adds a ticket, in the place of one with its identifier. -/
def addTicket (b : Book) (isTest : Bool) (t : Ticket) : Book :=
  if isTest then { b with testTickets := b.testTickets.put t.id t }
  else { b with tickets := b.tickets.put t.id t }

/-- Adds a message. -/
def addMessage (b : Book) (isTest : Bool) (m : Message) : Book :=
  if isTest then { b with testMessages := b.testMessages ++ [m] }
  else { b with messages := b.messages ++ [m] }

/-- The visible messages of a ticket, from the oldest to the newest. -/
def conversation (b : Book) (isTest : Bool) (id : String) : Except Fault (List Message) :=
  let all := if isTest then b.testMessages else b.messages
  match Conversation.chronological (all.filter fun m => m.ticketId = id && m.isVisible) with
  | some messages => .ok messages
  | none => .error .mixedClocks

/-! ## Handoff records -/

/-- The handoff record of a ticket. -/
def record? (b : Book) (ticketId : String) : Option HandoffRecord :=
  b.records.get? ticketId

/-- Adds a handoff record under a new number, unless its ticket has one; the record that is in the
book then, and whether it is new. -/
def addRecord (b : Book) (r : HandoffRecord) : (HandoffRecord × Bool) × Book :=
  match b.record? r.ticketId with
  | some existing => ((existing, false), b)
  | none =>
    let stored := { r with id := some b.nextId }
    ((stored, true),
      { b with records := b.records.put r.ticketId stored, nextId := b.nextId + 1 })

/-- The handoff record of a number. -/
def recordOfId? (b : Book) (id : Int) : Option HandoffRecord :=
  b.records.entries.find? fun r => r.id = some id

/-- Changes the handoff record of a number. -/
def changeRecord (b : Book) (id : Int) (change : HandoffRecord → HandoffRecord) :
    Except Fault Book :=
  match b.recordOfId? id with
  | some r => .ok { b with records := b.records.put r.ticketId (change r) }
  | none => .error (.missing ("handoff record " ++ decimal id ++ " not found"))

/-- Notes that the notification of a record was sent. -/
def markSent (b : Book) (id : Int) : Except Fault Book :=
  b.changeRecord id fun r => { r with notificationSent := true, notificationError := none }

/-- Notes what went wrong with the notification of a record. -/
def markFailed (b : Book) (id : Int) (said : String) : Except Fault Book :=
  b.changeRecord id fun r => { r with notificationError := some said }

/-- Moves a ticket of production to a status. -/
def setStatus (b : Book) (id : String) (status : TicketStatus) : Except Fault Book :=
  match b.tickets.get? id with
  | some t => .ok { b with tickets := b.tickets.put id { t with status := status } }
  | none => .error (.missing ("ticket " ++ id ++ " not found"))

end Book

end Helpdesk
