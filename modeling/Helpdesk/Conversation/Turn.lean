import Helpdesk.RichText
import Helpdesk.Ticket

/-!
# Helpdesk.Conversation.Turn — the conversation as a workflow sees it.

A conversation is a list of turns, oldest first. Prompts get the last few of them as numbered lines;
the last turn of the customer is what a workflow answers to.
-/
namespace Helpdesk.Conversation

structure Turn where
  /-- The platform role of the sender. -/
  role : Value
  /-- Text or a list of parts; nothing when the turn has no body at all. -/
  body : Option Value
  /-- When the turn was written, for those who read the state. -/
  createdAt : Option Value

namespace Turn

/-- The turn of a stored message. -/
def ofMessage (m : Message) : Except Misfit Turn := do
  let body ← RichText.messageBody m.content
  return ⟨.text (if m.senderRole = some "" then "user" else m.senderRole.getD "user"), some body,
    some (.text m.createdAt.text)⟩

/-- The turn that a record holds. -/
def ofValue (v : Value) : Turn :=
  let e := (v.entries?).getD []
  ⟨(Entries.value? "role" e).getD .null, Entries.value? "content" e, Entries.value? "created_at" e⟩

/-- A turn as a record. -/
def toValue (t : Turn) : Value :=
  .object ([("role", t.role)] ++ (t.body.map fun v => ("content", v)).toList ++
    (t.createdAt.map fun v => ("created_at", v)).toList)

/-- The role in lower case; `otherwise` stands for a role that does not count. -/
def roleName (otherwise : String) (t : Turn) : Except Misfit String :=
  match t.role with
  | .text s => return Text.lower (if s.isEmpty then otherwise else s)
  | v => if v.counts then throw (.noMember v.kind "lower") else return otherwise

/-- Whether a turn is the customer's. -/
def isCustomers (t : Turn) : Except Misfit Bool :=
  (t.roleName "").map (· == "customer")

end Turn

/-- The first of some turns that is the customer's. -/
def firstOfCustomer : List Turn → Except Misfit (Option Turn)
  | [] => return none
  | t :: rest => do if ← t.isCustomers then return some t else firstOfCustomer rest

/-- The last turn of the customer. -/
def lastOfCustomer (turns : List Turn) : Except Misfit (Option Turn) :=
  firstOfCustomer turns.reverse

/-! ## Order of messages -/

/-- Whether one message was written before another; nothing when their clocks cannot be compared. -/
def before? (a b : Message) : Option Bool :=
  if a.createdAt.comparable b.createdAt then
    let s := a.createdAt.instant
    let t := b.createdAt.instant
    some (decide (s < t ∨ (s = t ∧ a.id ≤ b.id)))
  else none

/-- Messages from the oldest to the newest, those of one moment by number. Nothing when some clocks
cannot be compared. -/
def chronological (messages : List Message) : Option (List Message) :=
  match messages with
  | [] => some []
  | m :: rest =>
    if rest.all fun other => m.createdAt.comparable other.createdAt then
      some (messages.mergeSort fun a b => (before? a b).getD true)
    else none

/-! ## History -/

/-- The number of turns that prompts get. -/
def historyTurns : Nat := 8

/-- The characters of history that prompts get. -/
def historyLimit : Int := 8000

/-- How senders are called in the history. -/
def roleLabels : List (String × String) :=
  [("ai", "AI"), ("agent", "客服"), ("technician", "技术")]

/-- The line of a turn. -/
def historyLine (number : Nat) (t : Turn) : Except Misfit String := do
  let role ← t.roleName "user"
  let text ← RichText.bodyText (t.body.getD (.text ""))
  return decimal number ++ ". " ++ (roleLabels.lookup role).getD "用户" ++ ": " ++ text

/-- The lines of turns that are numbered from `number` on. -/
def historyLines (number : Nat) : List Turn → Except Misfit (List String)
  | [] => return []
  | t :: rest => do
    let line ← historyLine number t
    return line :: (← historyLines (number + 1) rest)

/-- The most recent turns as numbered lines, cut to a limit. -/
def history (turns : List Turn) (limit : Int) : Except Misfit String := do
  let lines ← historyLines 1 (Text.lastItems historyTurns turns)
  return String.ofList (Text.upTo (Text.join "\n" lines).toList limit)

end Helpdesk.Conversation
