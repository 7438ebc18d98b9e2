import Helpdesk.RichText
import Helpdesk.Ticket

/-!
# Helpdesk.Knowledge.Transcript — conversations as numbered lines.

A transcript holds one line for each message that a customer may see, with its number, the time, the
sender and the text. The text has its white space folded, so that a message never takes more than
its own line.
-/
namespace Helpdesk.Knowledge

/-- The characters of a message that a transcript holds. -/
def messageLimit : Int := 5000

/-- Text cut to a limit, an ellipsis in place of its last character when something was cut. -/
def truncate (limit : Int) (s : String) : String :=
  if s.length ≤ limit then s
  else if s.isEmpty then ""
  else Text.take (limit - 1).toNat s ++ "…"

/-- Characters that take no room and mark no blank. -/
def isZeroWidth (c : Char) : Bool :=
  (0x200b ≤ c.toNat && c.toNat ≤ 0x200d) || c.toNat == 0xfeff

/-- Text on one line, without characters of zero width. -/
def onOneLine (s : String) : String :=
  Text.trim (Text.foldBlanks (String.ofList (s.toList.filter fun c => !isZeroWidth c)))

/-- Who sent a message. A role that is not known is the customer's if the sender is the customer. -/
def senderLabel (role : Option String) (sender customer : Option Int) : String :=
  let role := Text.lower (role.getD "")
  if role = "ai" then "AI"
  else if role = "agent" then "客服"
  else if role = "technician" then "技术"
  else if role = "customer" ∨ role = "user" then "用户"
  else if sender.isSome ∧ sender = customer then "用户"
  else "客服"

/-- The line of a message. -/
def transcriptLine (customer : Option Int) (limit : Int) (number : Nat) (m : Message) :
    Except Misfit String := do
  let text ← RichText.textWithImages m.content
  return decimal number ++ ". [" ++ m.createdAt.stamp ++ "] " ++
    senderLabel m.senderRole m.senderId customer ++ ": " ++ truncate limit (onOneLine text)

/-- The lines of messages that are numbered from `number` on. -/
def transcriptLines (customer : Option Int) (limit : Int) (number : Nat) :
    List Message → Except Misfit (List String)
  | [] => return []
  | m :: rest => do
    let line ← transcriptLine customer limit number m
    return line :: (← transcriptLines customer limit (number + 1) rest)

/-- The transcript of a conversation. -/
def transcript (messages : List Message) (customer : Option Int) (limit : Int) :
    Except Misfit String := do
  let lines ← transcriptLines customer limit 1 (messages.filter Message.isVisible)
  return Text.join "\n" lines

end Helpdesk.Knowledge
