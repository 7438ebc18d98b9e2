import Helpdesk.Http
import Helpdesk.RichText
import Helpdesk.Ticket

/-!
# Helpdesk.Handoff.Card — the card that tells a team of a handoff.

A handoff is announced by a card in the team's chat: a header in the colour of the ticket's
priority, the facts, the beginning of the description, and a button that opens the ticket. The chat
answers with a record whose code is zero when it took the card.
-/
namespace Helpdesk.Handoff

/-- The colours of ticket priorities. -/
def themes : List (String × String) :=
  [("urgent", "red"), ("high", "red"), ("medium", "orange"), ("low", "indigo")]

/-- The colour of any other priority. -/
def defaultTheme : String := "blue"

/-- The characters of a description that a card shows. -/
def cardDescriptionLimit : Nat := 200

/-- A text, or a dash when it is missing or empty. -/
def orDash (s : Option String) : String :=
  (s.filter (!·.isEmpty)).getD "-"

/-- The facts of a handoff, one to a line. -/
def facts (now : Moment) (r : HandoffRecord) (t : Ticket) : String :=
  Text.join "\n" [
    "**模块**: " ++ orDash t.module,
    "**区域**: " ++ orDash t.area,
    "**优先级**: " ++ r.priority.name,
    "**原因**: " ++ r.reason,
    "**时间**: " ++ now.stamp]

/-- A part of a card that shows marked-up text. -/
def block (text : String) : Value :=
  .object [("tag", .text "div"),
    ("text", .object [("tag", .text "lark_md"), ("content", .text text)])]

/-- Plain text on a card. -/
def plain (text : String) : Value :=
  .object [("tag", .text "plain_text"), ("content", .text text)]

/-- The button that opens a ticket. -/
def button (url : String) : Value :=
  .object [("tag", .text "action"), ("actions", .list [.object [
    ("tag", .text "button"),
    ("text", plain "查看工单"),
    ("url", .text url),
    ("type", .text "primary")]])]

/-- The address of a ticket in the application. -/
def ticketUrl (appUrl : String) (t : Ticket) : String :=
  String.ofList (Text.dropTrailing (· == '/') appUrl.toList) ++ "/staff/tickets/" ++ t.id

/-- The card of a handoff. -/
def card (appUrl : String) (now : Moment) (r : HandoffRecord) (t : Ticket) :
    Except Misfit Value := do
  let description := Text.take cardDescriptionLimit (← RichText.text t.description)
  let header : Value := .object [
    ("title", plain ("转人工: " ++ t.title)),
    ("template", .text ((themes.lookup (t.priority.getD "")).getD defaultTheme))]
  let elements : Value := .list [
    block (facts now r t),
    block (orDash (some description)),
    button (ticketUrl appUrl t)]
  return .object [("msg_type", .text "interactive"),
    ("card", .object [("header", header), ("elements", elements)])]

/-- Whether a code says that a card was taken. -/
def isAccepted : Value → Bool
  | .int n => n = 0
  | .float x => x == 0.0
  | .bool b => !b
  | _ => false

/-- Reads what the chat says about a card. -/
def readReply : Http.Reply → Except Fault Unit
  | .unreachable said => throw (.unreachable said)
  | .answered status body => do
    if !Http.isSuccess status then throw (.badStatus status)
    match ← Http.record body with
    | .object entries =>
      if isAccepted ((Entries.value? "code" entries).getD (.int 0)) then return ()
      else
        let said := ((Entries.value? "msg" entries).getD .null).plainText
        throw (.rejected ("Feishu webhook rejected message: " ++ said))
    | _ => return ()

end Helpdesk.Handoff
