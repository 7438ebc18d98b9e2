import Helpdesk.Handoff.Card
import Helpdesk.Keyed
import Helpdesk.Settings
import Helpdesk.World

/-!
# Helpdesk.Handoff.Channel — ways to tell a team of a handoff.

A channel is told of a handoff and either takes it or fails. The team's chat is reached through an
address that it gives out; without an address there is nobody to tell, which is no failure. The
other channels have no service behind them.
-/
namespace Helpdesk.Handoff

/-- A way to tell a team of a handoff. -/
abbrev Channel (σ : Type) := HandoffRecord → Ticket → Ask σ Unit

/-- How records are posted to an address, and the clock on the wall. -/
structure Post (σ : Type) where
  send : String → Value → StateM σ Http.Reply
  now : StateM σ Moment

namespace Channel

variable {σ : Type}

/-- The team's chat. -/
def chat (post : Post σ) (webhook : Option String) (appUrl : String) : Channel σ :=
  fun record ticket =>
    match webhook.filter (!·.isEmpty) with
    | none => pure ()
    | some url => do
      let now ← ExceptT.lift post.now
      let card ← ExceptT.mk (pure (Fault.ofMisfit (card appUrl now record ticket)))
      let reply ← ExceptT.lift (post.send url card)
      ExceptT.mk (pure (readReply reply))

/-- A channel without a service. -/
def unserved : Channel σ := fun _ _ => pure ()

/-- The names of the channels of every installation. -/
def names : List String :=
  ["feishu", "email", "sms"]

/-- The channels of an installation. -/
def ofSettings (post : Post σ) (s : Settings) : Keyed (Channel σ) :=
  [("feishu", chat post s.feishuWebhookUrl s.appUrl), ("email", unserved), ("sms", unserved)]

theorem names_ofSettings (post : Post σ) (s : Settings) : (ofSettings post s).names = names :=
  rfl

end Channel

end Helpdesk.Handoff
