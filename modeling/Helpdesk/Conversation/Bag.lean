import Helpdesk.Conversation.State
import Helpdesk.Number

/-!
# Helpdesk.Conversation.Bag — the variables that prompts and conditions see.

Templates and conditions see a flat bag of names. It is derived from the state: the author's own
variables come first and the derived names are written over them, so nobody can shadow what the
engine knows. User messages to models also carry images, of which only the latest few are sent.
-/
namespace Helpdesk.Conversation

/-- Characters of a ticket description that prompts get. -/
def descriptionLimit : Nat := 4000

/-- Characters of a ticket title that prompts get. -/
def titleLimit : Nat := 1000

/-- Images that a message to a model carries at most. -/
def imageLimit : Nat := 6

/-- What stands for a part of the ticket that is not given. -/
def notGiven : String := "无"

/-- How an answer should sound for a sentiment. -/
def style : Sentiment → String
  | .neutral => "专业简洁"
  | .frustrated => "耐心安抚"
  | .angry => "冷静礼貌"
  | .confused => "通俗易懂"
  | .anxious => "快速直接"
  | .requestAgent => "礼貌引导"
  | .abusive => "冷静专业"
  | .satisfied => "友好热情"

/-- How an answer should sound for whatever is noted as the sentiment. -/
def styleOf : Value → String
  | .text name => ((Sentiment.names.lookup name).map style).getD "友善自然"
  | _ => "友善自然"

/-- How the sources of hits are called in prompts. -/
def contextLabel (hit : Knowledge.Hit) : String :=
  match Knowledge.SourceType.names.lookup hit.sourceType with
  | some .favoritedConversation => "精选案例"
  | some .historicalTicket => "历史工单"
  | _ => "通用知识"

/-- The paragraphs of hits that are numbered from `number` on. -/
def contextParagraphs (number : Nat) : List Knowledge.Hit → List String
  | [] => []
  | hit :: rest =>
    (decimal number ++ ". [" ++ contextLabel hit ++ "]\n内容: " ++ hit.content) ::
      contextParagraphs (number + 1) rest

/-- Hits as the context of a prompt. -/
def contextText (hits : List Knowledge.Hit) : String :=
  Text.join "\n\n" (contextParagraphs 1 hits)

/-- The text of the customer's last turn; what the ticket is about when there is none. -/
def customerText (turns : List Turn) (ticket : Entries) : Except Misfit String := do
  let text ← match ← lastOfCustomer turns with
    | some t =>
      match t.body with
      | some body => RichText.bodyText body
      | none => throw (.missingEntry "content")
    | none => pure ""
  if !text.isEmpty then return text
  else
    let found := fun name => ((Entries.value? name ticket).getD .null).plainText
    return "问题: " ++ found "title" ++ "，发生模块 " ++ found "module"

/-- The text of a ticket description, cut to its limit. -/
def descriptionText (description : Value) : Except Misfit String :=
  if description.counts then
    (RichText.textWithImages description).map (Text.clip descriptionLimit)
  else return ""

/-- The title of a ticket, cut to its limit. -/
def titleText (title : Value) : Except Misfit Value :=
  match title.orElse (.text notGiven) with
  | .text s => return .text (Text.clip titleLimit s)
  | .list items => return .list items
  | .object entries => return .object entries
  | v => throw (.noLength v.kind)

/-- The names that are derived from a state. -/
def derived (s : State) : Except Misfit Entries := do
  let f := s.fields
  let ticket := fun name => (Entries.value? name s.ticket).getD .null
  let hits := f.context.getD []
  let sentiment := f.sentiment.getD (.text Sentiment.neutral.name)
  let lastText ← customerText s.turns s.ticket
  let description ← descriptionText (ticket "description")
  let title ← titleText (ticket "title")
  let history ← history s.turns historyLimit
  let queries ← ((f.searchQueries.getD .null).orElse (.list [])).elements
  return [
    ("sentiment", sentiment),
    ("stylePrompt", .text (styleOf sentiment)),
    ("handoffReason", f.handoffReason.getD (.text "")),
    ("handoffPriority", f.handoffPriority.getD .null),
    ("handoffRequired", f.handoffRequired.getD (.bool false)),
    ("proposeEscalation", f.proposeEscalation.getD (.bool false)),
    ("escalationReason", f.escalationReason.getD (.text "")),
    ("retrievedContext", .list (hits.map Knowledge.Hit.toValue)),
    ("retrievedContextCount", .int hits.length),
    ("retrievedContextString", .text (contextText hits)),
    ("hasRetrievedContext", .bool (!hits.isEmpty)),
    ("ticketDescription", .text description),
    ("ticketModule", (ticket "module").orElse (.text notGiven)),
    ("ticketCategory", (ticket "category").orElse (.text notGiven)),
    ("ticketTitle", title),
    ("currentTicket", if s.ticket.isEmpty then .null else .object s.ticket),
    ("lastCustomerMessage", .text lastText),
    ("historyMessages", .text history),
    ("userQuery", f.userQuery.getD (.text "")),
    ("searchQueries", .list queries)]

/-- The bag of a state. -/
def bag (s : State) : Except Misfit Entries := do
  return Entries.putAll (s.fields.vars.getD []) (← derived s)

/-! ## Images -/

/-- The number that a value counts as when it is looked up by. -/
def keyNumber? : Value → Option Number
  | .bool b => some (.int (if b then 1 else 0))
  | .int n => some (.int n)
  | .float x => some (.float x)
  | _ => none

/-- Whether two values are the same when they are looked up by. -/
def sameKey (a b : Value) : Bool :=
  match a, b with
  | .null, .null => true
  | .text s, .text t => s = t
  | a, b =>
    match keyNumber? a, keyNumber? b with
    | some m, some n => Number.equal m n
    | _, _ => false

/-- Values without later repetitions; lists and objects cannot be looked up by. -/
def distinctKeys (values : List Value) : Except Misfit (List Value) :=
  values.foldlM (fun seen v =>
    match v with
    | .list _ => .error (.notKey v.kind)
    | .object _ => .error (.notKey v.kind)
    | v => .ok (if seen.any (sameKey v) then seen else seen ++ [v])) []

/-- The image that a part of a message shows. -/
def partImage (part : Value) : Except Misfit (List Value) :=
  match part with
  | .object entries =>
    if (Entries.value? "type" entries).any (·.isText "image_url") then do
      let url ← ((Entries.value? "image_url" entries).getD .null).member "url"
      return if url.counts then [url] else []
    else return []
  | v => throw (.noMember v.kind "get")

/-- The images in the body of a turn. -/
def bodyImages (body : Value) : Except Misfit (List Value) :=
  match body with
  | .text _ => return []
  | .list parts => do return (← parts.mapM partImage).flatten
  | .object entries => if entries.isEmpty then return [] else throw (.noMember .text "get")
  | v => if v.counts then throw (.notIterable v.kind) else return []

/-- The images of the ticket, when they are wanted, and of the customer's last turn. -/
def sharedImages (s : State) (ofTicket : Bool) : Except Misfit (List Value) := do
  let description := (Entries.value? "description" s.ticket).getD .null
  let fromTicket ← if ofTicket && description.counts then RichText.images description else pure []
  let fromTurn ← match ← lastOfCustomer s.turns with
    | some t => bodyImages (t.body.getD .null)
    | none => pure []
  return fromTicket ++ fromTurn

/-- A prompt with the latest images of a conversation, each of them once. -/
def promptParts (prompt : String) (s : State) (ofTicket : Bool) : Except Misfit Value := do
  let images ← distinctKeys (← sharedImages s ofTicket)
  return .list
    (RichText.textPart prompt :: (Text.lastItems imageLimit images).map RichText.imagePart)

end Helpdesk.Conversation
