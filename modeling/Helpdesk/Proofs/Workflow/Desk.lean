import Helpdesk.Proofs.Workflow.Outward

/-!
# Helpdesk.Proofs.Workflow.Desk — what steps and deliveries leave as it is.

The desk of an office is all of it but the world: the book, the outbox and the workflows. `Stays` says
that a duty keeps to a relation between the office before and after it, and it goes from the parts of
a duty to the whole when the relation is transitive and does not mind what happens to the world. Two
such relations are used. Looking a ticket up, or handing over a ticket that production does not have,
leaves the desk the same. Deliveries leave tickets as they are, write nothing but records, and are all
gone afterwards.
-/
namespace Helpdesk

variable {σ α β : Type}

/-! ## Relations between offices -/

/-- A relation between an office before and after, which does not mind what happens to the world. -/
structure Office.Worldly (R : Office σ → Office σ → Prop) : Prop where
  world : ∀ o world, R o { o with world := world }
  trans : ∀ {o after last}, R o after → R after last → R o last

/-- A duty that keeps to a relation between the office before and after it. -/
def Duty.Stays (R : Office σ → Office σ → Prop) (duty : Duty σ α) : Prop :=
  ∀ o, R o (duty.run o).2

namespace Duty.Stays

variable {R : Office σ → Office σ → Prop} (hR : Office.Worldly R)

include hR

theorem of_outward {duty : Duty σ α} (h : Outward duty) : duty.Stays R := by
  intro o
  obtain ⟨world, hworld⟩ := h.exists_world o
  rw [hworld]
  exact hR.world o world

theorem pure (a : α) : Stays R (Pure.pure a : Duty σ α) :=
  of_outward hR (.pure a)

theorem bind {duty : Duty σ α} {next : α → Duty σ β} (h : duty.Stays R)
    (hnext : ∀ a, (next a).Stays R) : (duty >>= next).Stays R :=
  fun o => hR.trans (h o) (hnext _ _)

theorem task_bind {task : Task σ α} {next : α → Task σ β} (h : Stays R task.run)
    (hnext : ∀ a, Stays R (next a).run) : Stays R (task >>= next).run := by
  show Stays R (task.run >>= ExceptT.bindCont next)
  refine bind hR h ?_
  rintro (fault | a)
  · exact pure hR (Except.error fault)
  · exact hnext a

theorem task_pure (a : α) : Stays R (Pure.pure a : Task σ α).run :=
  pure hR (Except.ok a)

theorem sure {duty : Duty σ α} (h : duty.Stays R) : Stays R (Task.sure duty).run :=
  bind hR h fun a => pure hR (Except.ok a)

end Duty.Stays

/-- Two offices that differ in their worlds at most. -/
def Office.SameDesk (o after : Office σ) : Prop :=
  ∃ world, after = { o with world := world }

/-- Two offices that differ in their worlds and handoff records at most. -/
def Office.SameFiles (o after : Office σ) : Prop :=
  ∃ world records, after = { o with world := world, book := { o.book with records := records } }

namespace Office

variable {o after last : Office σ}

theorem SameDesk.refl (o : Office σ) : o.SameDesk o :=
  ⟨o.world, rfl⟩

theorem SameDesk.trans (h : o.SameDesk after) (hlast : after.SameDesk last) : o.SameDesk last := by
  obtain ⟨world, rfl⟩ := h
  obtain ⟨lastWorld, rfl⟩ := hlast
  exact ⟨lastWorld, rfl⟩

theorem SameDesk.book (h : o.SameDesk after) : after.book = o.book := by
  obtain ⟨world, rfl⟩ := h
  rfl

theorem SameDesk.outbox (h : o.SameDesk after) : after.outbox = o.outbox := by
  obtain ⟨world, rfl⟩ := h
  rfl

theorem SameDesk.workflows (h : o.SameDesk after) : after.workflows = o.workflows := by
  obtain ⟨world, rfl⟩ := h
  rfl

/-- The same desk, for offices with books of some kind. -/
theorem worldly_sameDesk (P : Book → Prop) :
    Worldly fun o after : Office σ => P o.book → o.SameDesk after where
  world _ world _ := ⟨world, rfl⟩
  trans h hlast hP := (h hP).trans (hlast ((h hP).book ▸ hP))

theorem worldly_sameFiles : Worldly (SameFiles (σ := σ)) where
  world o world := ⟨world, o.book.records, rfl⟩
  trans := by
    rintro o _ _ ⟨world, records, rfl⟩ ⟨lastWorld, lastRecords, rfl⟩
    exact ⟨lastWorld, lastRecords, rfl⟩

end Office

/-! ## Handing over -/

/-- A duty that leaves the desk of an office as it is when the book is of some kind. -/
abbrev LeavesDesk (P : Book → Prop) (duty : Duty σ α) : Prop :=
  duty.Stays fun o after => P o.book → o.SameDesk after

namespace Workflow

open Conversation Handoff

variable (sv : Services σ)

/-- Looking for a ticket finds at most the one that the book has. -/
theorem findTicket_cases (isTest : Bool) (id : Value) (o : Office σ) :
    ∃ found after, (findTicket sv isTest id).run.run o = (found, after) ∧ o.SameDesk after ∧
      ∀ t, found = .ok (some t) → ∃ key, id = .text key ∧ o.book.ticket? isTest key = some t := by
  unfold findTicket
  rcases Task.run_inBook_cases sv (fun b => do
      return ((← ticketKey id).bind (b.ticket? isTest), b)) o with
    ⟨fault, world, hrun⟩ | ⟨found, book, world, hlook, hrun⟩
  · exact ⟨_, _, hrun, ⟨world, rfl⟩, fun t ht => by cases ht⟩
  · rcases hkey : ticketKey id with fault | key
    · rw [hkey] at hlook
      cases hlook
    rw [hkey] at hlook hrun
    cases hlook
    refine ⟨_, _, hrun, ⟨world, rfl⟩, ?_⟩
    intro t ht
    obtain ⟨k, rfl, hfound⟩ := Option.bind_eq_some_iff.mp (Except.ok.inj ht)
    -- Only texts are looked up.
    cases id with
    | text name =>
      cases hkey
      exact ⟨k, rfl, hfound⟩
    | _ => cases hkey

/-- A ticket that production does not have is not handed over. -/
theorem leavesDesk_arrange (channel : String) {s : State} {id : String} (hid : s.ticketId = .text id)
    (bag : Entries) :
    LeavesDesk (fun b => b.ticket? false id = none) (arrange sv channel s bag).run := by
  intro o hnone
  unfold arrange
  rcases hcounts : s.ticketId.counts with _ | _
  · simp only [hcounts]
    exact .refl o
  simp only [hcounts]
  obtain ⟨testTicket, after, hrun, hafter, -⟩ := findTicket_cases sv true s.ticketId o
  show o.SameDesk ((findTicket sv true s.ticketId >>= _ : Task σ Unit).run.run o).2
  rw [Task.run_bind, hrun]
  rcases testTicket with fault | testTicket
  · exact hafter
  obtain ⟨found, last, hlook, hlast, hfound⟩ := findTicket_cases sv false s.ticketId after
  simp only
  rw [Task.run_bind, hlook]
  rcases found with fault | _ | t
  · exact hafter.trans hlast
  · rcases testTicket with _ | t
    · exact hafter.trans hlast
    · exact hafter.trans hlast
  · obtain ⟨key, hkey, hticket⟩ := hfound t rfl
    rw [hid] at hkey
    cases hkey
    rw [hafter.book, hnone] at hticket
    cases hticket

/-- All that a handoff changes is changed where it is arranged. -/
theorem leavesDesk_handOver_of_arrange {P : Book → Prop} {c : HandoffConfig} {s : State}
    (h : ∀ bag, LeavesDesk P (arrange sv c.notifyChannel s bag).run) :
    LeavesDesk P (handOver sv c s).run := by
  have hR := Office.worldly_sameDesk (σ := σ) P
  unfold handOver
  refine .task_bind hR (.of_outward hR (.ofExcept _)) fun bag => ?_
  refine .task_bind hR (.of_outward hR (.fill _ _)) fun text => ?_
  refine .task_bind hR (.sure hR (h bag)) ?_
  rintro (fault | _)
  · exact .of_outward hR (.noted _ _)
  · exact .task_pure hR _

theorem leavesDesk_handOver (c : HandoffConfig) {s : State} {id : String}
    (hid : s.ticketId = .text id) :
    LeavesDesk (fun b => b.ticket? false id = none) (handOver sv c s).run :=
  leavesDesk_handOver_of_arrange sv (leavesDesk_arrange sv _ hid)

/-- A step changes the desk only by handing over a ticket that production has. -/
theorem leavesDesk_perform {s : State} {id : String} (hid : s.ticketId = .text id) (a : Action) :
    LeavesDesk (fun b => a.HandsOver → b.ticket? false id = none) (a.perform sv s).run := by
  by_cases h : a.HandsOver
  · obtain ⟨c, rfl⟩ := h
    exact fun o hnone => leavesDesk_handOver sv c hid o (hnone ⟨c, rfl⟩)
  · exact .of_outward (Office.worldly_sameDesk fun b => a.HandsOver → b.ticket? false id = none)
      (outward_perform sv s h)

end Workflow

/-! ## Deliveries -/

namespace Handoff

variable (sv : Services σ)

theorem sameFiles_changeRecord (id : Int) (change : HandoffRecord → HandoffRecord) :
    Duty.Stays Office.SameFiles
      (Task.inBook sv fun b => do return ((), ← b.changeRecord id change)).run := by
  intro o
  rcases Task.run_inBook_cases sv (fun b => do return ((), ← b.changeRecord id change)) o with
    ⟨fault, world, hrun⟩ | ⟨_, book, world, hchange, hrun⟩
  · rw [hrun]
    exact ⟨world, o.book.records, rfl⟩
  · rw [hrun]
    unfold Book.changeRecord at hchange
    rcases hfind : o.book.recordOfId? id with _ | r
    · rw [hfind] at hchange
      cases hchange
    · rw [hfind] at hchange
      cases hchange
      exact ⟨world, _, rfl⟩

/-- A delivery is on its way no longer afterwards, and it writes nothing but records. -/
theorem deliver_spec (d : Delivery) (o : Office σ) :
    ∃ world records, ((deliver sv d).run o).2 =
      { o with
        world := world
        book := { o.book with records := records }
        outbox := o.outbox.finish d.id } := by
  have hR := Office.worldly_sameFiles (σ := σ)
  have hmark : Duty.Stays Office.SameFiles (tellAndMark sv d).run :=
    .task_bind hR (.of_outward hR (outward_tell sv d)) fun _ => sameFiles_changeRecord sv d.id _
  have hnote : ∀ fault, Duty.Stays Office.SameFiles (noteFailure sv d fault) := by
    intro fault
    unfold noteFailure
    refine .bind hR (.of_outward hR (.note _)) fun _ => ?_
    refine .bind hR (sameFiles_changeRecord sv d.id _ : Duty.Stays _ (Duty.outcome _)) ?_
    rintro (unsaved | _)
    · exact .of_outward hR (.note _)
    · exact .pure hR ()
  have hfirst := hmark o
  unfold deliver
  rw [Duty.run_bind, Duty.run_outcome]
  rcases hrun : (tellAndMark sv d).run.run o with ⟨fault | _, after⟩ <;> rw [hrun] at hfirst
  · obtain ⟨world, records, hlast⟩ := hR.trans hfirst (hnote fault after)
    refine ⟨world, records, ?_⟩
    show { ((noteFailure sv d fault).run after).2 with
      outbox := ((noteFailure sv d fault).run after).2.outbox.finish d.id } = _
    rw [hlast]
  · obtain ⟨world, records, hlast⟩ := hfirst
    obtain rfl : after = _ := hlast
    exact ⟨world, records, rfl⟩

/-- The outbox after some deliveries have ended. -/
def Outbox.finishAll (o : Outbox) (deliveries : List Delivery) : Outbox :=
  deliveries.foldl (fun o d => o.finish d.id) o

theorem Outbox.mem_pending_finishAll {o : Outbox} {deliveries : List Delivery} {d : Delivery}
    (h : d ∈ (o.finishAll deliveries).pending) : d ∈ o.pending ∧ d ∉ deliveries := by
  induction deliveries generalizing o with
  | nil => exact ⟨h, List.not_mem_nil⟩
  | cons first rest ih =>
    obtain ⟨hleft, hrest⟩ := ih h
    obtain ⟨hpending, hother⟩ := List.mem_filter.mp hleft
    refine ⟨hpending, ?_⟩
    rintro (_ | ⟨_, hmem⟩)
    -- A delivery that has just ended was taken out by its number.
    · simp at hother
    · exact hrest hmem

theorem forM_deliver_spec (deliveries : List Delivery) (o : Office σ) :
    ∃ world records, ((deliveries.forM (deliver sv)).run o).2 =
      { o with
        world := world
        book := { o.book with records := records }
        outbox := o.outbox.finishAll deliveries } := by
  induction deliveries generalizing o with
  | nil => exact ⟨o.world, o.book.records, rfl⟩
  | cons d rest ih =>
    obtain ⟨world, records, hfirst⟩ := deliver_spec sv d o
    obtain ⟨lastWorld, lastRecords, hrest⟩ := ih ((deliver sv d).run o).2
    refine ⟨lastWorld, lastRecords, ?_⟩
    show ((rest.forM (deliver sv)).run ((deliver sv d).run o).2).2 = _
    rw [hrest, hfirst]
    rfl

/-- **Deliveries end.** When all that were on their way have been made none is left, and nothing but
records has been written. -/
theorem settle_spec (o : Office σ) :
    ((settle sv).run o).2.outbox.pending = [] ∧
      ((settle sv).run o).2.book.tickets = o.book.tickets ∧
      ((settle sv).run o).2.book.testTickets = o.book.testTickets ∧
      ((settle sv).run o).2.workflows = o.workflows := by
  obtain ⟨world, records, hrun⟩ := forM_deliver_spec sv o.outbox.pending o
  have hsettle : ((settle sv).run o).2 = _ := hrun
  rw [hsettle]
  refine ⟨List.eq_nil_iff_forall_not_mem.mpr fun d hd => ?_, rfl, rfl, rfl⟩
  obtain ⟨hpending, hother⟩ := Outbox.mem_pending_finishAll hd
  exact hother hpending

/-- Where nothing is on its way there is nothing to deliver. -/
theorem run_settle_of_pending_eq_nil {o : Office σ} (h : o.outbox.pending = []) :
    (settle sv).run o = ((), o) := by
  show (o.outbox.pending.forM (deliver sv)).run o = _
  rw [h]
  rfl

end Handoff

end Helpdesk
