import Helpdesk.Proofs.Answering
import Helpdesk.Proofs.Workflow.Desk

/-!
# Helpdesk.Proofs.Answering.Production — answers that production does not notice.

Whether a run is a test is not known to its steps. A handoff finds out by looking its ticket up among
the tickets of production and among those of tests, and hands over what production has. So the answer
to a ticket that production does not have changes nothing at the desk, and neither does an answer by a
workflow without handoffs. Deliveries that were on their way before go out all the same, and they are
the only ones: where none was, it makes no difference which channels there are.

A ticket of tests with the identifier of a ticket of production is handed over as that ticket.
-/
namespace Helpdesk

open Conversation Workflow

variable {σ : Type}

/-- Services with other channels. -/
def Services.withChannels (sv : Services σ) (channels : Keyed (Handoff.Channel σ)) : Services σ :=
  { sv with channels := channels }

/-- Steps that hand over no ticket of production of that identifier, for want of a handoff or of such
a ticket. -/
def Book.SparedBy (b : Book) (id : String) (steps : List Step) : Prop :=
  b.ticket? false id = none ∨ ∀ step ∈ steps, ¬ step.action.HandsOver

variable (sv : Services σ) (channels : Keyed (Handoff.Channel σ))

/-- What happens to an office while a ticket is answered: nothing but that deliveries which were on
their way go out. -/
def Office.Spared (sv : Services σ) (o after : Office σ) : Prop :=
  o.SameDesk after ∨ ∃ before, o.SameDesk before ∧ ((Handoff.settle sv).run before).2.SameDesk after

namespace Office.Spared

variable {sv} {o after : Office σ}

theorem tickets (h : o.Spared sv after) : after.book.tickets = o.book.tickets := by
  rcases h with h | ⟨before, hbefore, h⟩
  · rw [h.book]
  · rw [h.book, (Handoff.settle_spec sv before).2.1, hbefore.book]

theorem mem_pending (h : o.Spared sv after) {d : Handoff.Delivery} (hd : d ∈ after.outbox.pending) :
    d ∈ o.outbox.pending := by
  rcases h with h | ⟨before, -, h⟩
  · rw [h.outbox] at hd
    exact hd
  · rw [h.outbox, (Handoff.settle_spec sv before).1] at hd
    cases hd

theorem between {mid last : Office σ} (hbefore : o.SameDesk after) (h : after.Spared sv mid)
    (hlast : mid.SameDesk last) : o.Spared sv last := by
  rcases h with h | ⟨before, hsame, h⟩
  · exact Or.inl ((hbefore.trans h).trans hlast)
  · exact Or.inr ⟨before, hbefore.trans hsame, h.trans hlast⟩

end Office.Spared

/-! ## Runs -/

namespace Workflow

theorem decide_withChannels {α : Type} (llm : Option ModelChoice) (form : Model.Form α)
    (prompts : List Model.Prompt) :
    decide (sv.withChannels channels) llm form prompts = decide sv llm form prompts :=
  rfl

/-- Steps have no use for channels; deliveries do. -/
theorem perform_withChannels (s : State) (a : Action) :
    a.perform (sv.withChannels channels) s = a.perform sv s := by
  cases a with
  | emotionDetector c =>
    unfold Action.perform detectMood
    simp only [decide_withChannels]
  | rag c => rfl
  | smartChat c => rfl
  | escalationOffer c => rfl
  | handoff c => rfl

namespace Run

/-- A run on a ticket in an office where nothing is on its way. -/
structure Quiet (r : Run σ) (id : String) : Prop where
  pending : r.office.outbox.pending = []
  ticketId : r.state.ticketId = .text id

/-- A run that went on without changing the desk. -/
structure WentOn (r after : Run σ) (id : String) : Prop where
  desk : r.office.SameDesk after.office
  ticketId : after.state.ticketId = .text id

theorem Quiet.of_wentOn {r after : Run σ} {id : String} (h : r.Quiet id) (hwent : r.WentOn after id) :
    after.Quiet id :=
  ⟨by rw [hwent.desk.outbox, h.pending], hwent.ticketId⟩

theorem wentOn_refl {r : Run σ} {id : String} (h : r.Quiet id) : r.WentOn r id :=
  ⟨.refl _, h.ticketId⟩

theorem wentOn_leave {r : Run σ} {id : String} (h : r.Quiet id) (step : Step) {o : Office σ}
    (ho : r.office.SameDesk o) (result : Except Fault Fields) :
    r.WentOn (r.leave step o result) id := by
  rcases result with fault | update
  · exact ⟨ho, h.ticketId⟩
  · exact ⟨ho.trans ⟨_, rfl⟩, h.ticketId⟩

variable {r : Run σ} {id : String}

/-- **One step**: a step that spares production changes nothing at the desk, and nothing is delivered
after it. -/
theorem visit_spared (h : r.Quiet id) {step : Step}
    (hsafe : step.action.HandsOver → r.office.book.ticket? false id = none) :
    r.visit (sv.withChannels channels) step = r.visit sv step ∧
      r.WentOn (r.visit sv step) id := by
  have hdesk := leavesDesk_perform sv h.ticketId step.action r.office hsafe
  unfold visit
  rw [perform_withChannels]
  rcases hrun : (step.action.perform sv r.state).run.run r.office with ⟨result, after⟩
  rw [hrun] at hdesk
  have hpending : after.outbox.pending = [] := by rw [hdesk.outbox, h.pending]
  simp only [Handoff.run_settle_of_pending_eq_nil _ hpending]
  exact ⟨trivial, wentOn_leave h step hdesk result⟩

theorem advance_spared {w : Compiled} (h : r.Quiet id)
    (hspared : r.office.book.SparedBy id w.steps) :
    r.advance (sv.withChannels channels) w = r.advance sv w ∧ r.WentOn (r.advance sv w) id := by
  unfold advance
  rcases r.next with fault | next | _
  · exact ⟨rfl, wentOn_refl h⟩
  · rcases hstep : w.step? next with _ | step
    · exact ⟨by simp only [hstep], by simp only [hstep]; exact ⟨.refl _, h.ticketId⟩⟩
    · simp only [hstep]
      refine visit_spared sv channels h fun hover => ?_
      exact hspared.resolve_right fun hnone =>
        hnone step (List.mem_of_find?_eq_some hstep) hover
  · exact ⟨rfl, wentOn_refl h⟩

/-- **Any number of steps.** -/
theorem advanceAll_spared {w : Compiled} (steps : Nat) (h : r.Quiet id)
    (hspared : r.office.book.SparedBy id w.steps) :
    advanceAll (sv.withChannels channels) w steps r = advanceAll sv w steps r ∧
      r.WentOn (advanceAll sv w steps r) id := by
  induction steps generalizing r with
  | zero => exact ⟨rfl, wentOn_refl h⟩
  | succ steps ih =>
    unfold advanceAll
    rcases r.hasNext with _ | _
    · exact ⟨rfl, wentOn_refl h⟩
    · obtain ⟨hsame, hfirst⟩ := advance_spared sv channels h hspared
      obtain ⟨hrest, hlast⟩ := ih (h.of_wentOn hfirst) (hfirst.desk.book ▸ hspared)
      simp only [if_true]
      exact ⟨by rw [hsame, hrest], hfirst.desk.trans hlast.desk, hlast.ticketId⟩

end Run

/-- A whole run in an office where nothing is on its way. -/
theorem Compiled.run_spared (w : Compiled) {o : Office σ} {s : State} {id : String}
    (hpending : o.outbox.pending = []) (hid : s.ticketId = .text id)
    (hspared : o.book.SparedBy id w.steps) :
    w.run (sv.withChannels channels) o s = w.run sv o s ∧ o.SameDesk (w.run sv o s).office := by
  obtain ⟨hsame, hwent⟩ := Run.advanceAll_spared sv channels w.stepLimit.toNat
    (r := .start w o s) ⟨hpending, hid⟩ hspared
  unfold Compiled.run
  rw [Handoff.run_settle_of_pending_eq_nil _ hpending, Handoff.run_settle_of_pending_eq_nil _ hpending]
  simp only
  split
  · exact ⟨rfl, .refl o⟩
  · rw [hsame]
    refine ⟨rfl, hwent.desk.trans ?_⟩
    unfold Run.stop
    rcases (Run.advanceAll sv w w.stepLimit.toNat (.start w o s)).next with fault | target
    · exact .refl _
    · simp only
      split <;> exact .refl _

/-- A run starts by making the deliveries that are on their way. -/
theorem Compiled.run_settle (w : Compiled) (o : Office σ) (s : State) :
    w.run sv ((Handoff.settle sv).run o).2 s = w.run sv o s := by
  unfold Compiled.run
  rw [Handoff.run_settle_of_pending_eq_nil sv (Handoff.settle_spec sv o).1]
  rcases (Handoff.settle sv).run o with ⟨_, settled⟩
  rfl

end Workflow

/-! ## Attempts -/

/-- Attempts in an office where nothing is on its way. -/
theorem firstReply_spared {w : Compiled} {t : Ticket} (turns : List Turn) (attempt attempts : Nat)
    {o : Office σ} (hpending : o.outbox.pending = []) (hspared : o.book.SparedBy t.id w.steps) :
    (firstReply (sv.withChannels channels) w t turns attempt attempts).run o =
        (firstReply sv w t turns attempt attempts).run o ∧
      o.SameDesk ((firstReply sv w t turns attempt attempts).run o).2 := by
  -- An attempt and the notice after it leave the desk as it was, so the next one starts no worse.
  induction attempts generalizing attempt o with
  | zero => exact ⟨rfl, .refl o⟩
  | succ attempts ih =>
    obtain ⟨hsame, hdesk⟩ := w.run_spared sv channels (s := .start turns t.summary []) hpending rfl
      hspared
    have hinvoke : (w.invoke (sv.withChannels channels) (.start turns t.summary [])).run.run o =
        (w.invoke sv (.start turns t.summary [])).run.run o := by
      show (Run.result (w.run _ o _), Run.office (w.run _ o _)) = _
      rw [hsame]
      rfl
    have hafter : o.SameDesk ((w.invoke sv (.start turns t.summary [])).run.run o).2 := hdesk
    unfold firstReply
    rw [Duty.run_bind, Duty.run_bind, Duty.run_outcome, Duty.run_outcome, hinvoke]
    rcases hrun : (w.invoke sv (.start turns t.summary [])).run.run o with ⟨result, after⟩
    rw [hrun] at hafter
    rcases replied? result with _ | text
    · simp only
      rw [Duty.run_bind, Duty.run_bind, Duty.run_note]
      have hnoted : o.SameDesk { after with
          world := ((Work.note (attemptNotice w t attempt result)).run after.world).2 } :=
        hafter.trans ⟨_, rfl⟩
      obtain ⟨hrest, hlast⟩ := ih (attempt + 1) (hnoted.outbox ▸ hpending) (hnoted.book ▸ hspared)
      exact ⟨hrest, hnoted.trans hlast⟩
    · exact ⟨rfl, hafter⟩

/-- Attempts start by making the deliveries that are on their way, unless there is no attempt. -/
theorem firstReply_settle (w : Compiled) (t : Ticket) (turns : List Turn) (attempt attempts : Nat)
    (o : Office σ) :
    (firstReply sv w t turns attempt (attempts + 1)).run ((Handoff.settle sv).run o).2 =
      (firstReply sv w t turns attempt (attempts + 1)).run o := by
  have hinvoke : (w.invoke sv (.start turns t.summary [])).run.run ((Handoff.settle sv).run o).2 =
      (w.invoke sv (.start turns t.summary [])).run.run o := by
    show (Run.result (w.run sv _ _), Run.office (w.run sv _ _)) = _
    rw [w.run_settle sv]
    rfl
  unfold firstReply
  rw [Duty.run_bind, Duty.run_bind, Duty.run_outcome, Duty.run_outcome, hinvoke]

/-- Attempts in any office. -/
theorem spared_firstReply {w : Compiled} {t : Ticket} (turns : List Turn) (attempt attempts : Nat)
    {o : Office σ} (hspared : o.book.SparedBy t.id w.steps) :
    o.Spared sv ((firstReply sv w t turns attempt attempts).run o).2 := by
  rcases attempts with _ | attempts
  · exact Or.inl (.refl o)
  · obtain ⟨hpending, htickets, -⟩ := Handoff.settle_spec sv o
    have hsettled : ((Handoff.settle sv).run o).2.book.SparedBy t.id w.steps := by
      refine hspared.imp_left fun hnone => ?_
      show ((Handoff.settle sv).run o).2.book.tickets.get? t.id = none
      rw [htickets]
      exact hnone
    -- The first attempt makes the deliveries, so it may as well start where they have been made.
    obtain ⟨-, hdesk⟩ := firstReply_spared sv sv.channels turns attempt (attempts + 1) hpending
      hsettled
    rw [firstReply_settle] at hdesk
    exact Or.inr ⟨o, .refl o, hdesk⟩

/-! ## Answers -/

/-- The workflow that a ticket is answered by. -/
def Office.workflowOf (o : Office σ) (sv : Services σ) (t : Ticket) : Option Compiled :=
  (o.workflows.workflow? t.module).or (o.workflows.workflow? (some sv.settings.fallbackScope))

theorem workflowFor_cases (t : Ticket) (o : Office σ) :
    ∃ result after, (workflowFor sv t).run.run o = (result, after) ∧ o.SameDesk after ∧
      ∀ w, result = .ok w → o.workflowOf sv t = some w := by
  obtain ⟨more, hrun⟩ := workflowFor_run sv t o
  refine ⟨_, _, hrun, ⟨_, rfl⟩, ?_⟩
  change ∀ w, (o.workflowOf sv t).elim _ _ = _ → _
  rcases o.workflowOf sv t with _ | found <;> intro w hw <;> cases hw
  rfl

theorem conversationOf_sameDesk (t : Ticket) (isTest : Bool) (o : Office σ) :
    o.SameDesk ((conversationOf sv t isTest).run.run o).2 := by
  unfold conversationOf
  rw [Task.run_bind]
  rcases Task.run_inBook_cases sv (fun b => do return (← b.conversation isTest t.id, b)) o with
    ⟨fault, world, hrun⟩ | ⟨messages, book, world, hlook, hrun⟩
  · rw [hrun]
    exact ⟨world, rfl⟩
  · rw [hrun]
    rcases hconversation : o.book.conversation isTest t.id with fault | found <;>
      rw [hconversation] at hlook <;> cases hlook
    exact ⟨world, rfl⟩

/-- The end of an answer, after its attempts. -/
def conclude (t : Ticket) : Option String → Task σ String
  | some text => return text
  | none => do
    Task.note (.warning "ai_response_exhausted" [("ticket_id", .text t.id)])
    return ""

theorem sameDesk_conclude (t : Ticket) (reply : Option String) (o : Office σ) :
    o.SameDesk ((conclude t reply).run.run o).2 := by
  rcases reply with _ | text
  · exact ⟨_, rfl⟩
  · exact .refl o

/-- An answer ends before its attempts, in a complaint, or after them. Up to its attempts nothing
happens at the desk, and channels do not matter. -/
theorem answer_cases (t : Ticket) (isTest : Bool) (o : Office σ) :
    (∃ fault after, o.SameDesk after ∧
      ∀ channels, (answer (sv.withChannels channels) t isTest).run.run o = (.error fault, after)) ∨
    ∃ w turns before, o.workflowOf sv t = some w ∧ o.SameDesk before ∧ ∀ channels,
      (answer (sv.withChannels channels) t isTest).run.run o =
        let attempts := (firstReply (sv.withChannels channels) w t turns 0
          (sv.settings.runtimeMaxRetries + 1).toNat).run before
        (conclude t attempts.1).run.run attempts.2 := by
  have hconversation := conversationOf_sameDesk sv t isTest o
  have hanswer : ∀ channels, (answer (sv.withChannels channels) t isTest).run.run o =
      (conversationOf sv t isTest >>= fun turns => workflowFor sv t >>= fun w =>
        Task.sure (firstReply (sv.withChannels channels) w t turns 0
          (sv.settings.runtimeMaxRetries + 1).toNat) >>= conclude t : Task σ String).run.run o :=
    fun channels => rfl
  rcases hturns : (conversationOf sv t isTest).run.run o with ⟨fault | turns, read⟩
  · rw [hturns] at hconversation
    exact Or.inl ⟨fault, read, hconversation, fun channels => by rw [hanswer, Task.run_bind, hturns]⟩
  rw [hturns] at hconversation
  obtain ⟨result, before, hw, hsame, hfound⟩ := workflowFor_cases sv t read
  rcases result with fault | w
  · refine Or.inl ⟨fault, before, hconversation.trans hsame, fun channels => ?_⟩
    rw [hanswer, Task.run_bind, hturns]
    simp only
    rw [Task.run_bind, hw]
  · refine Or.inr ⟨w, turns, before, ?_, hconversation.trans hsame, fun channels => ?_⟩
    · rw [← hfound w rfl, Office.workflowOf, Office.workflowOf, hconversation.workflows]
    · rw [hanswer, Task.run_bind, hturns]
      simp only
      rw [Task.run_bind, hw]
      simp only
      rw [Task.run_bind, Task.run_sure]

/-- **Answers spare production.** Let a ticket be answered by a workflow, as a test or not, and let
production have no ticket with its identifier, or let the workflow have no handoff. Then the tickets
of production stay as they are, nothing is put into the outbox, and the only thing that happens at the
desk is that deliveries which were on their way before go out. When there were none, book and outbox
are the same afterwards, and nobody is told anything: the answer and everything that it leaves are the
same whatever channels there are. -/
theorem answers_spare_production (t : Ticket) (isTest : Bool) (o : Office σ)
    (hspared : ∀ w, o.workflowOf sv t = some w → o.book.SparedBy t.id w.steps) :
    let after := ((answer sv t isTest).run.run o).2
    after.book.tickets = o.book.tickets ∧
      (∀ d ∈ after.outbox.pending, d ∈ o.outbox.pending) ∧
      o.Spared sv after ∧
      (o.outbox.pending = [] → after.book = o.book ∧ after.outbox = o.outbox ∧
        ∀ channels, (answer (sv.withChannels channels) t isTest).run.run o =
          (answer sv t isTest).run.run o) := by
  intro after
  have hdone : o.Spared sv after ∧ (o.outbox.pending = [] → o.SameDesk after ∧
      ∀ channels, (answer (sv.withChannels channels) t isTest).run.run o =
        (answer sv t isTest).run.run o) := by
    rcases answer_cases sv t isTest o with
      ⟨fault, last, hlast, hrun⟩ | ⟨w, turns, before, hw, hbefore, hrun⟩
    · have hafter : after = last := congrArg Prod.snd (hrun sv.channels)
      rw [hafter]
      exact ⟨Or.inl hlast, fun _ => ⟨hlast, fun channels => by rw [hrun, ← hrun sv.channels]; rfl⟩⟩
    · have hsafe : before.book.SparedBy t.id w.steps := hbefore.book ▸ hspared w hw
      let attempts := (firstReply sv w t turns 0 (sv.settings.runtimeMaxRetries + 1).toNat).run before
      have hafter : after = ((conclude t attempts.1).run.run attempts.2).2 :=
        congrArg Prod.snd (hrun sv.channels)
      have hend : attempts.2.SameDesk after := hafter ▸ sameDesk_conclude t attempts.1 attempts.2
      refine ⟨.between hbefore (spared_firstReply sv turns 0 _ hsafe) hend, fun hpending => ?_⟩
      have hquiet := fun channels => firstReply_spared sv channels turns 0
        (sv.settings.runtimeMaxRetries + 1).toNat (hbefore.outbox ▸ hpending) hsafe
      refine ⟨hbefore.trans ((hquiet sv.channels).2.trans hend), fun channels => ?_⟩
      rw [hrun, (hquiet channels).1]
      exact (hrun sv.channels).symm
  obtain ⟨hdesk, hquiet⟩ := hdone
  refine ⟨hdesk.tickets, fun d hd => hdesk.mem_pending hd, hdesk, fun hpending => ?_⟩
  obtain ⟨hsame, hchannels⟩ := hquiet hpending
  exact ⟨hsame.book, hsame.outbox, hchannels⟩

/-- A workflow that hands every ticket over. -/
def handoffWorkflow : Compiled :=
  ⟨"handoff", "", .node "human", [⟨"human", .handoff ⟨"one moment", "email"⟩, .direct .finish⟩], [],
    false, 2⟩

/-- An office with some tickets of production and of tests, all answered by that workflow. -/
def handoffOffice (scope : String) (tickets testTickets : List Ticket) : Office Unit :=
  ⟨⟨(), [], []⟩, .ofLists tickets [] testTickets [], .empty,
    ⟨[("handoff", handoffWorkflow)], [(scope, ⟨1, "handoff"⟩)]⟩⟩

theorem answers_spare_production_unshared :
    ∃ settings, Settings.shape (.object []) = .valid settings ∧
      let sv := Shift.quietServices settings
      let o := handoffOffice settings.fallbackScope [{ Shift.openTicket with id := "T2" }]
        [Shift.openTicket]
      o.book.ticket? true "T1" = some Shift.openTicket ∧
        (o.workflowOf sv Shift.openTicket).isSome = true ∧
        ((answer sv Shift.openTicket true).run.run o).2.book = o.book := by
  obtain ⟨settings, hsettings, hscope⟩ : ∃ settings,
      Settings.shape (.object []) = .valid settings ∧ settings.fallbackScope = "default_all" :=
    ⟨_, rfl, rfl⟩
  refine ⟨settings, hsettings, ?_⟩
  intro sv o
  have hfound : o.workflowOf sv Shift.openTicket = some handoffWorkflow := by
    show (o.workflows.workflow? none).or (o.workflows.workflow? (some settings.fallbackScope)) = _
    simp only [o, hscope]
    rfl
  have hspared := answers_spare_production sv Shift.openTicket true o fun w hw => Or.inl rfl
  refine ⟨rfl, ?_, (hspared.2.2.2 rfl).1⟩
  rw [hfound]
  rfl

/-- A ticket of tests that has the identifier of a ticket of production is handed over: a record is
written, the team is told, and the ticket of production waits for a human. -/
theorem shared_ticket_is_handed_over :
    ∃ settings, Settings.shape (.object []) = .valid settings ∧
      let sv := Shift.quietServices settings
      let o := handoffOffice settings.fallbackScope [Shift.openTicket] [Shift.openTicket]
      let after := ((answer sv Shift.openTicket true).run.run o).2
      o.book.ticket? true "T1" = some Shift.openTicket ∧
        (o.book.ticket? false "T1").map Ticket.status = some .inProgress ∧ o.book.record? "T1" = none ∧
        (after.book.ticket? false "T1").map Ticket.status = some .pending ∧
        (after.book.record? "T1").map HandoffRecord.notificationSent = some true :=
  ⟨_, rfl, rfl, rfl, rfl, by decide +kernel⟩

end Helpdesk
