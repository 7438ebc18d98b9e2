import Helpdesk.Proofs.Workflow.Outward
import Helpdesk.Workflow.Refresh

/-!
# Helpdesk.Proofs.Workflow.Blind — runs do not look at the messages of the book.

A run works from the conversation that it was started with. Neither its steps nor the deliveries
between them look at the messages of the book or write one, so a run goes the same way in an office
whose book has other messages. `Blind` says that of a duty: the same result, and the same office at
the end but for those other messages.
-/
namespace Helpdesk

open Conversation Workflow

variable {σ α β : Type}

/-- A book with other messages. -/
def Book.withMessages (b : Book) (messages testMessages : List Message) : Book :=
  { b with messages := messages, testMessages := testMessages }

/-- An office whose book has other messages. -/
def Office.withMessages (o : Office σ) (messages testMessages : List Message) : Office σ :=
  { o with book := o.book.withMessages messages testMessages }

/-- A duty that neither looks at the messages of the book nor changes them. -/
def Blind (duty : Duty σ α) : Prop :=
  ∀ (o : Office σ) (messages testMessages : List Message),
    duty.run (o.withMessages messages testMessages) =
      ((duty.run o).1, (duty.run o).2.withMessages messages testMessages)

namespace Blind

theorem of_outward {duty : Duty σ α} (h : Outward duty) : Blind duty := by
  obtain ⟨work, rfl⟩ := h
  exact fun o messages testMessages => rfl

theorem pure (a : α) : Blind (pure a : Duty σ α) :=
  fun _ _ _ => rfl

theorem bind {duty : Duty σ α} {next : α → Duty σ β} (h : Blind duty)
    (hnext : ∀ a, Blind (next a)) : Blind (duty >>= next) := by
  intro o messages testMessages
  rw [Duty.run_bind, Duty.run_bind, h o messages testMessages]
  exact hnext _ _ messages testMessages

theorem modify {change : Office σ → Office σ} (h : ∀ o messages testMessages,
    change (o.withMessages messages testMessages) = (change o).withMessages messages testMessages) :
    Blind (modify change : Duty σ Unit) := by
  intro o messages testMessages
  exact congrArg (Prod.mk ()) (h o messages testMessages)

/-- The office may be looked at by a duty that does the same when it sees other messages. -/
theorem get_bind {next : Office σ → Duty σ β} (hsame : ∀ o messages testMessages,
    next (o.withMessages messages testMessages) = next o) (hnext : ∀ o, Blind (next o)) :
    Blind (get >>= next) := by
  intro o messages testMessages
  show (next (o.withMessages messages testMessages)).run _ = _
  rw [hsame o messages testMessages]
  exact hnext o o messages testMessages

theorem forM {f : α → Duty σ PUnit} (h : ∀ a, Blind (f a)) (items : List α) :
    Blind (items.forM f) := by
  induction items with
  | nil => exact pure PUnit.unit
  | cons a rest ih => exact (h a).bind fun _ => ih

/-! ## Tasks -/

theorem task_bind {task : Task σ α} {next : α → Task σ β} (h : Blind task.run)
    (hnext : ∀ a, Blind (next a).run) : Blind (task >>= next).run := by
  show Blind (task.run >>= ExceptT.bindCont next)
  refine h.bind ?_
  rintro (fault | a)
  · exact pure (Except.error fault)
  · exact hnext a

theorem task_pure (a : α) : Blind (Pure.pure a : Task σ α).run :=
  pure (Except.ok a)

theorem throw (fault : Fault) : Blind (MonadExcept.throw fault : Task σ α).run :=
  pure (Except.error fault)

theorem sure {duty : Duty σ α} (h : Blind duty) : Blind (Task.sure duty).run :=
  h.bind fun a => pure (Except.ok a)

theorem task_get_bind {next : Office σ → Task σ β} (hsame : ∀ o messages testMessages,
    next (o.withMessages messages testMessages) = next o) (hnext : ∀ o, Blind (next o).run) :
    Blind (get >>= next).run := by
  intro o messages testMessages
  show (next (o.withMessages messages testMessages)).run.run _ = _
  rw [hsame o messages testMessages]
  exact hnext o o messages testMessages

/-- Work in the book comes to the same when it makes the same of the book with other messages. -/
theorem run_inBook (sv : Services σ) {change : Book → Except Fault (α × Book)} {o : Office σ}
    {messages testMessages : List Message}
    (h : change (o.book.withMessages messages testMessages) =
      (change o.book).map fun (a, after) => (a, after.withMessages messages testMessages)) :
    (Task.inBook sv change).run.run (o.withMessages messages testMessages) =
      (((Task.inBook sv change).run.run o).1,
        ((Task.inBook sv change).run.run o).2.withMessages messages testMessages) := by
  have hasked : (Task.ofAttempt (Attempt.ask sv.reachBook)).run.run
      (o.withMessages messages testMessages) = _ :=
    of_outward (.ofAttempt _) o messages testMessages
  obtain ⟨world, hworld⟩ := (Outward.ofAttempt (Attempt.ask sv.reachBook)).exists_world o
  unfold Task.inBook
  rw [Task.run_bind, Task.run_bind, hasked]
  rcases hreach : (Task.ofAttempt (Attempt.ask sv.reachBook)).run.run o with ⟨fault | _, after⟩
  · rfl
  rw [hreach] at hworld
  obtain rfl : after = { o with world := world } := hworld
  have hbook : ({ o with world := world }.withMessages messages testMessages).book =
    o.book.withMessages messages testMessages := rfl
  rcases hfound : change o.book with fault | ⟨a, book⟩
  · rw [hfound] at h
    simp only [Task.run_bind, Task.run_get, Task.run_ofExcept, hbook, h, hfound]
    rfl
  · rw [hfound] at h
    simp only [Task.run_bind, Task.run_get, Task.run_ofExcept, hbook, h, hfound]
    rfl

theorem inBook (sv : Services σ) {change : Book → Except Fault (α × Book)}
    (h : ∀ b messages testMessages, change (b.withMessages messages testMessages) =
      (change b).map fun (a, after) => (a, after.withMessages messages testMessages)) :
    Blind (Task.inBook sv change).run :=
  fun o messages testMessages => run_inBook sv (h o.book messages testMessages)

theorem lookUp (sv : Services σ) {view : Book → α} (hview : ∀ b messages testMessages,
    view (b.withMessages messages testMessages) = view b) : Blind (Task.lookUp sv view).run := by
  refine inBook sv fun b messages testMessages => ?_
  rw [hview]
  rfl

end Blind

/-! ## Handoffs and deliveries -/

namespace Workflow

variable (sv : Services σ)

theorem blind_recordFor (s : State) (bag : Entries) (t : Ticket) :
    Blind (recordFor sv s bag t).run := by
  unfold recordFor
  refine (Blind.lookUp sv fun _ _ _ => rfl).task_bind ?_
  rintro (_ | record)
  · refine (Blind.of_outward (.ofExcept _)).task_bind fun draft => ?_
    refine (Blind.inBook sv fun b messages testMessages => ?_).task_bind fun _ => .task_pure _
    unfold Book.addRecord Book.record? Book.withMessages
    simp only
    rcases b.records.get? draft.ticketId with _ | existing <;> rfl
  · exact .task_pure _

theorem blind_setStatus (id : String) (status : TicketStatus) :
    Blind (Task.inBook sv fun b => do return ((), ← b.setStatus id status)).run := by
  refine .inBook sv fun b messages testMessages => ?_
  unfold Book.setStatus Book.withMessages
  simp only
  rcases b.tickets.get? id with _ | t <;> rfl

theorem blind_dispatch (record : HandoffRecord) (t : Ticket) (channel : String) :
    Blind (Handoff.dispatch (σ := σ) record t channel) := by
  unfold Handoff.dispatch
  refine .get_bind (fun _ _ _ => rfl) fun o => ?_
  rcases o.outbox.dispatch? record t channel with _ | outbox
  · exact .pure false
  · exact (Blind.modify fun _ _ _ => rfl).bind fun _ => .pure true

theorem blind_handOverTicket (channel : String) (s : State) (bag : Entries) (t : Ticket) :
    Blind (handOverTicket sv channel s bag t).run := by
  unfold handOverTicket
  refine (blind_recordFor sv s bag t).task_bind ?_
  rintro ⟨record, shouldTell⟩
  have hrest : Blind (do
      if shouldTell && !(← get).outbox.isInFlight record.id then
        let _ ← Task.sure (Handoff.dispatch record t channel) : Task σ Unit).run := by
    refine .task_get_bind (fun _ _ _ => rfl) fun o => ?_
    rcases shouldTell && !o.outbox.isInFlight record.id with _ | _
    · exact .task_pure ()
    · exact (Blind.sure (blind_dispatch record t channel)).task_bind fun _ => .task_pure ()
  by_cases hstatus : t.status ≠ .pending
  · simp only [if_pos hstatus]
    exact (blind_setStatus sv t.id .pending).task_bind fun _ => hrest
  · simp only [if_neg hstatus]
    exact hrest

theorem blind_findTicket (isTest : Bool) (id : Value) : Blind (findTicket sv isTest id).run := by
  unfold findTicket
  refine .inBook sv fun b messages testMessages => ?_
  rcases ticketKey id with fault | key
  · rfl
  · rcases isTest <;> rfl

theorem blind_arrange (channel : String) (s : State) (bag : Entries) :
    Blind (arrange sv channel s bag).run := by
  unfold arrange
  rcases hid : s.ticketId.counts with _ | _
  · simp only [hid]
    exact fun _ _ _ => rfl
  · simp only [hid]
    refine (blind_findTicket sv true _).task_bind fun testTicket => ?_
    refine (blind_findTicket sv false _).task_bind ?_
    rintro (_ | t)
    · rcases testTicket with _ | _
      · exact .throw _
      · exact .task_pure ()
    · exact blind_handOverTicket sv channel s bag t

theorem blind_handOver (c : HandoffConfig) (s : State) : Blind (handOver sv c s).run := by
  unfold handOver
  refine (Blind.of_outward (.ofExcept _)).task_bind fun bag => ?_
  refine (Blind.of_outward (.fill _ _)).task_bind fun text => ?_
  refine (Blind.sure (blind_arrange sv _ s bag)).task_bind ?_
  rintro (fault | _)
  · exact .of_outward (.noted _ _)
  · exact .task_pure _

/-- A step does not look at the messages of the book. -/
theorem blind_perform (s : State) (a : Action) : Blind (a.perform sv s).run := by
  by_cases h : a.HandsOver
  · obtain ⟨c, rfl⟩ := h
    exact blind_handOver sv c s
  · exact .of_outward (outward_perform sv s h)

end Workflow

namespace Handoff

variable (sv : Services σ)

theorem blind_changeRecord (id : Int) (change : HandoffRecord → HandoffRecord) :
    Blind (Task.inBook sv fun b => do return ((), ← b.changeRecord id change)).run := by
  refine .inBook sv fun b messages testMessages => ?_
  have hfind : (b.withMessages messages testMessages).recordOfId? id = b.recordOfId? id := rfl
  unfold Book.changeRecord
  rw [hfind]
  rcases b.recordOfId? id with _ | r <;> rfl

theorem blind_deliver (d : Delivery) : Blind (deliver sv d) := by
  have hmark : Blind (tellAndMark sv d).run :=
    (Blind.of_outward (outward_tell sv d)).task_bind fun _ => blind_changeRecord sv d.id _
  have hnote : ∀ fault, Blind (noteFailure sv d fault) := by
    intro fault
    unfold noteFailure
    refine (Blind.of_outward (.note _)).bind fun _ => ?_
    refine (blind_changeRecord sv d.id _ : Blind (Duty.outcome _)).bind ?_
    rintro (unsaved | _)
    · exact .of_outward (.note _)
    · exact .pure ()
  unfold deliver
  refine Blind.bind hmark ?_
  rintro (fault | _)
  · exact (hnote fault).bind fun _ => .modify fun _ _ _ => rfl
  · exact .modify fun _ _ _ => rfl

theorem blind_settle : Blind (settle sv) := by
  unfold settle
  exact .get_bind (fun _ _ _ => rfl) fun o => .forM (blind_deliver sv) o.outbox.pending

end Handoff

/-! ## Runs and attempts -/

namespace Workflow

variable (sv : Services σ)

namespace Run

/-- A run in an office whose book has other messages. -/
def withMessages (r : Run σ) (messages testMessages : List Message) : Run σ :=
  { r with office := r.office.withMessages messages testMessages }

theorem visit_withMessages (r : Run σ) (step : Step) (messages testMessages : List Message) :
    (r.withMessages messages testMessages).visit sv step =
      (r.visit sv step).withMessages messages testMessages := by
  have hperform := blind_perform sv r.state step.action r.office messages testMessages
  unfold visit
  rcases hrun : (step.action.perform sv r.state).run.run r.office with ⟨result, after⟩
  rw [hrun] at hperform
  have hsettle := Handoff.blind_settle sv after messages testMessages
  simp only [withMessages, hperform, hsettle]
  rcases result with fault | update <;> rfl

theorem advance_withMessages (w : Compiled) (r : Run σ) (messages testMessages : List Message) :
    (r.withMessages messages testMessages).advance sv w =
      (r.advance sv w).withMessages messages testMessages := by
  have hnext : (r.withMessages messages testMessages).next = r.next := rfl
  unfold advance
  rw [hnext]
  rcases r.next with fault | id | _
  · rfl
  · rcases hstep : w.step? id with _ | step
    · simp only [hstep]
      rfl
    · simp only [hstep]
      exact visit_withMessages sv r step messages testMessages
  · rfl

theorem advanceAll_withMessages (w : Compiled) (steps : Nat) (r : Run σ)
    (messages testMessages : List Message) :
    advanceAll sv w steps (r.withMessages messages testMessages) =
      (advanceAll sv w steps r).withMessages messages testMessages := by
  induction steps generalizing r with
  | zero => rfl
  | succ steps ih =>
    have hnext : (r.withMessages messages testMessages).hasNext = r.hasNext := rfl
    unfold advanceAll
    rw [hnext]
    rcases r.hasNext with _ | _
    · rfl
    · simp only [if_true]
      rw [advance_withMessages, ih]

theorem stop_withMessages (w : Compiled) (r : Run σ) (messages testMessages : List Message) :
    (r.withMessages messages testMessages).stop w =
      (r.stop w).withMessages messages testMessages := by
  unfold stop
  have hnext : (r.withMessages messages testMessages).next = r.next := rfl
  rw [hnext]
  rcases r.next with fault | target
  · rfl
  · show (if w.stepLimit ≤ r.visits.length then _ else _) =
      Run.withMessages (if w.stepLimit ≤ r.visits.length then _ else _) messages testMessages
    split <;> rfl

end Run

/-- A whole run does not look at the messages of the book. -/
theorem Compiled.run_withMessages (w : Compiled) (o : Office σ) (s : State)
    (messages testMessages : List Message) :
    w.run sv (o.withMessages messages testMessages) s =
      (w.run sv o s).withMessages messages testMessages := by
  have hsettle := Handoff.blind_settle sv o messages testMessages
  unfold Compiled.run
  rw [hsettle]
  rcases (Handoff.settle sv).run o with ⟨_, settled⟩
  by_cases hlimit : w.stepLimit < 1
  · simp only [if_pos hlimit]
    rfl
  · simp only [if_neg hlimit]
    rw [← Run.stop_withMessages, ← Run.advanceAll_withMessages]
    rfl

theorem blind_invoke (w : Compiled) (s : State) : Blind (w.invoke sv s).run := by
  intro o messages testMessages
  show ((w.run sv (o.withMessages messages testMessages) s).result,
    (w.run sv (o.withMessages messages testMessages) s).office) = _
  rw [w.run_withMessages]
  rfl

theorem blind_fallback? : Blind (fallback? sv) := by
  unfold fallback?
  refine .get_bind (fun _ _ _ => rfl) fun o => ?_
  rcases o.workflows.workflow? (some sv.settings.fallbackScope) with _ | w
  · exact (Blind.of_outward (.note _)).bind fun _ => .pure none
  · exact .pure (some w)

end Workflow

end Helpdesk
