import Helpdesk.Book
import Helpdesk.Json.Reader

/-!
# Helpdesk.Book.File — books that are stored as a file.

A file holds an object with lists of tickets and messages; each of them may be missing. A file that
does not exist stands for an empty book.
-/
namespace Helpdesk.Book

/-- The members of a stored object. -/
def membersOf (text : String) : Except Fault Entries :=
  match Json.read text with
  | .error e => .error (.ofReadError e)
  | .ok (.object entries) => .ok entries
  | .ok v => .error (.misfit (.noMember v.kind "get"))

/-- The items of a list in a stored object; a missing list has none. -/
def itemsOf (name : String) (members : Entries) : Except Fault (List Value) :=
  Fault.ofMisfit ((Entries.value? name members).getD (.list [])).elements

/-- The records of a list in a stored object. -/
def recordsOf {α : Type} (model : String) (shape : Shape α) (name : String) (members : Entries) :
    Except Fault (List α) := do
  (← itemsOf name members).mapM fun v => Fault.ofChecked model (shape v)

/-- The book in a stored object. -/
def ofMembers (members : Entries) : Except Fault Book := do
  let tickets ← recordsOf "Ticket" Ticket.shape "tickets" members
  let messages ← recordsOf "ChatMessage" Message.shape "messages" members
  let testTickets ← recordsOf "Ticket" Ticket.shape "test_tickets" members
  let testMessages ← recordsOf "ChatMessage" Message.shape "test_messages" members
  return ofLists tickets messages testTickets testMessages

/-- The book that a text holds. -/
def ofText (text : String) : Except Fault Book := do
  ofMembers (← membersOf text)

/-- The book of a file that may be missing, and what is noted about it. -/
def ofFile (text : Option String) : List Notice × Except Fault Book :=
  match text with
  | none => ([.warning "ticket_data_missing" []], .ok empty)
  | some s => ([], ofText s)

end Helpdesk.Book
