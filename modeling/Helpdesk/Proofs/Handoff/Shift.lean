import Helpdesk.Proofs.Handoff.Ledger
import Helpdesk.Proofs.Office
import Helpdesk.Proofs.Validation
import Helpdesk.Workflow.HandOver

/-!
# Helpdesk.Proofs.Handoff.Shift — handoffs and deliveries in any order.

A shift is an office at work. Handoffs of any tickets are mixed with ends of any deliveries that are
on their way, and between them everything but records and outbox may change in any way: that is where
tickets are opened, other steps of workflows work, and channels are slow. The book is at hand, so that
a handoff, and likewise the end of a delivery, is a single step. Each step moves the ledger by moves
that keep its order.
-/
namespace Helpdesk

variable {σ α β : Type}

/-- An office at work, and the numbers of the records whose notification a channel took. -/
structure Shift (σ : Type) where
  office : Office σ
  sent : List Int

namespace Shift

/-- A shift before the first handoff. -/
def opening (world : World σ) (workflows : Workflow.Snapshot) (tickets : List Ticket)
    (messages : List Message) (testTickets : List Ticket) (testMessages : List Message) : Shift σ :=
  ⟨⟨world, .ofLists tickets messages testTickets testMessages, .empty, workflows⟩, []⟩

/-- What handoffs are written down in. -/
def ledger (x : Shift σ) : Ledger :=
  ⟨x.office.book.records, x.office.book.nextId, x.office.outbox, x.sent⟩

/-- A handoff. -/
def handOver (sv : Services σ) (c : Workflow.HandoffConfig) (s : Conversation.State) (x : Shift σ) :
    Shift σ :=
  { x with office := ((Workflow.handOver sv c s).run.run x.office).2 }

/-- The end of a delivery; its record is sent when the channel takes it. -/
def deliver (sv : Services σ) (d : Handoff.Delivery) (x : Shift σ) : Shift σ where
  office := ((Handoff.deliver sv d).run x.office).2
  sent :=
    match ((Handoff.tell sv d).run.run x.office).1 with
    | .ok _ => x.sent ++ [d.id]
    | .error _ => x.sent

/-- What happens in a shift at a time. -/
inductive Step (sv : Services σ) : Shift σ → Shift σ → Prop
  | handOver (x : Shift σ) (c : Workflow.HandoffConfig) (s : Conversation.State) :
      Step sv x (x.handOver sv c s)
  | deliver (x : Shift σ) (d : Handoff.Delivery) (hd : d ∈ x.office.outbox.pending) :
      Step sv x (x.deliver sv d)
  | elsewhere (x : Shift σ) (o : Office σ) (hrecords : o.book.records = x.office.book.records)
      (hnext : o.book.nextId = x.office.book.nextId) (houtbox : o.outbox = x.office.outbox) :
      Step sv x { x with office := o }

/-- Any number of steps. -/
abbrev Steps (sv : Services σ) : Shift σ → Shift σ → Prop := Relation.ReflTransGen (Step sv)

end Shift

/-- An office with another world and a changed record. -/
def Office.refile (o : Office σ) (world : World σ) (r changed : HandoffRecord) : Office σ :=
  { o with
    world := world
    book := { o.book with records := o.book.records.put r.ticketId changed } }

/-! ## Tasks that move the ledger -/

/-- What happened in an office moved its ledger, whatever had been sent. -/
def Office.Moves (o after : Office σ) : Prop :=
  ∀ sent, Ledger.Moves (Shift.ledger ⟨o, sent⟩) (Shift.ledger ⟨after, sent⟩)

theorem Office.Moves.refl (o : Office σ) : o.Moves o :=
  fun _ => .refl

theorem Office.Moves.trans {o after last : Office σ} (h : o.Moves after) (hlast : after.Moves last) :
    o.Moves last :=
  fun sent => (h sent).trans (hlast sent)

/-- A task that does to the ledger what handoffs may do, whether it fails or not. -/
def Task.Moves (task : Task σ α) : Prop :=
  ∀ o : Office σ, o.Moves (task.run.run o).2

namespace Task.Moves

theorem bind {task : Task σ α} {next : α → Task σ β} (h : task.Moves)
    (hnext : ∀ a, (next a).Moves) : (task >>= next).Moves := by
  intro o
  rw [run_bind]
  rcases hrun : task.run.run o with ⟨fault | a, after⟩
  · have hmoves := h o
    rw [hrun] at hmoves
    exact hmoves
  · have hmoves := h o
    rw [hrun] at hmoves
    exact hmoves.trans (hnext a after)

theorem pure (a : α) : (Pure.pure a : Task σ α).Moves :=
  fun o => .refl o

theorem throw (fault : Fault) : (MonadExcept.throw fault : Task σ α).Moves :=
  fun o => .refl o

theorem ofExcept (result : Except Fault α) : (Task.ofExcept result : Task σ α).Moves :=
  fun o => .refl o

/-- Notices are kept in the world, and the world is no part of the ledger. -/
theorem note (n : Notice) : (Task.note n : Task σ Unit).Moves :=
  fun _ _ => .refl

theorem outcome {task : Task σ α} (h : task.Moves) : (Task.sure (Duty.outcome task)).Moves :=
  fun o => h o

theorem fill (template : String) (bag : Entries) : (Task.fill template bag : Task σ String).Moves := by
  unfold Task.fill
  rcases Template.render (some template) bag with text | text | _
  · exact pure text
  · exact (note _).bind fun _ => pure text
  · exact throw _

end Task.Moves

/-! ## The record of a handoff -/

theorem HandoffRecord.fields_of_shape {e : Entries} {r : HandoffRecord}
    (h : HandoffRecord.shape (.object e) = .valid r) :
    Shape.required ["ticket_id"] .text e = .valid r.ticketId ∧
      Shape.optional ["notification_sent"] .bool false e = .valid r.notificationSent ∧
      Shape.optional ["notification_error"] (.orNull .text) none e = .valid r.notificationError := by
  simp only [HandoffRecord.shape, Shape.record, Checked.seq_eq_valid_iff,
    Checked.map_eq_valid_iff] at h
  obtain ⟨_, error, ⟨_, sent, ⟨_, _, ⟨_, _, ⟨_, _, ⟨_, _, ⟨_, _, ⟨_, _, ⟨_, ticketId,
    ⟨_, _, rfl⟩, hticket, rfl⟩, _, rfl⟩, _, rfl⟩, _, rfl⟩, _, rfl⟩, _, rfl⟩, _, rfl⟩, hsent, rfl⟩,
    herror, rfl⟩ := h
  exact ⟨hticket, hsent, herror⟩

/-- A record that is about to be filed is for its ticket, and nobody was told. -/
theorem Workflow.unsent_of_handoffRecord {s : Conversation.State} {bag : Entries} {t : Ticket}
    {draft : HandoffRecord} (h : Workflow.handoffRecord s bag t = .ok draft) :
    draft.ticketId = t.id ∧ draft.notificationSent = false ∧ draft.notificationError = none := by
  unfold Workflow.handoffRecord at h
  rcases hshape : HandoffRecord.shape (.object _) with r | issues
  · rw [hshape] at h
    cases h
    obtain ⟨hticket, hsent, herror⟩ := HandoffRecord.fields_of_shape hshape
    rw [Shape.required_of_value? rfl] at hticket
    rw [Shape.optional_of_value? (by simp [Entries.value?])] at hsent herror
    refine ⟨?_, ?_, ?_⟩
    · exact (Checked.valid.inj hticket).symm
    · exact (Checked.valid.inj hsent).symm
    · exact (Checked.valid.inj herror).symm
  · rw [hshape] at h
    cases h

/-! ## One handoff -/

namespace Workflow

variable {sv : Services σ}

/-- A record of a ticket that has none is filed under the next number. -/
theorem moves_addRecord {o : Office σ} {draft : HandoffRecord}
    (hnew : o.book.record? draft.ticketId = none) (hunsent : draft.notificationSent = false)
    (hfine : draft.notificationError = none) :
    o.Moves { o with book := (o.book.addRecord draft).2 } ∧
      (o.book.addRecord draft).1.1 ∈ (o.book.addRecord draft).2.records.entries ∧
      (o.book.addRecord draft).1.1.notificationSent = false := by
  have hadd : o.book.addRecord draft = (({ draft with id := some o.book.nextId }, true),
      { o.book with
        records := o.book.records.put draft.ticketId { draft with id := some o.book.nextId }
        nextId := o.book.nextId + 1 }) := by
    simp only [Book.addRecord, hnew]
  rw [hadd]
  refine ⟨?_, Keyed.mem_entries_put_self _ _ _, hunsent⟩
  intro sent
  exact .single (.file (l := Shift.ledger ⟨o, sent⟩) hnew hunsent hfine)

/-- The record that a handoff goes on with is filed, and when the team is to be told of it, the team
was not told before. -/
theorem recordFor_spec (hbook : sv.reachBook = pure ()) (s : Conversation.State) (bag : Entries)
    (t : Ticket) (o : Office σ) :
    ∃ result after, (recordFor sv s bag t).run.run o = (result, after) ∧ o.Moves after ∧
      ∀ r, result = .ok (r, true) →
        r ∈ after.book.records.entries ∧ r.notificationSent = false := by
  unfold recordFor
  rw [Task.run_bind, Task.run_lookUp hbook]
  -- A ticket that has a record keeps it, and the record says whether the team was told.
  rcases hfound : o.book.record? t.id with _ | r
  · rcases hdraft : handoffRecord s bag t with fault | draft
    · refine ⟨.error fault, o, ?_, .refl o, ?_⟩
      · simp only [Task.run_bind, Task.run_ofExcept]
      · intro r hr
        cases hr
    · obtain ⟨hticket, hunsent, hfine⟩ := unsent_of_handoffRecord hdraft
      obtain ⟨hmoves, hfiled, hnone⟩ := moves_addRecord (hticket ▸ hfound) hunsent hfine
      let entry := (o.book.addRecord draft).1
      refine ⟨.ok (entry.1, entry.2 || !entry.1.notificationSent), _, ?_, hmoves, ?_⟩
      · simp only [entry, Task.run_bind, Task.run_ofExcept, Task.run_inBook hbook, Task.run_pure]
      · intro r hr
        obtain rfl : entry.1 = r := congrArg Prod.fst (Except.ok.inj hr)
        exact ⟨hfiled, hnone⟩
  · refine ⟨.ok (r, !r.notificationSent), o, ?_, .refl o, ?_⟩
    · simp only [Task.run_pure]
    · intro q hq
      simp only [Except.ok.injEq, Prod.mk.injEq, Bool.not_eq_true'] at hq
      obtain ⟨rfl, hunsent⟩ := hq
      exact ⟨Keyed.mem_entries_of_get?_eq_some hfound, hunsent⟩

theorem run_dispatch (r : HandoffRecord) (t : Ticket) (channel : String) (o : Office σ) :
    (Handoff.dispatch r t channel).run o =
      match o.outbox.dispatch? r t channel with
      | some outbox => (true, { o with outbox := outbox })
      | none => (false, o) := by
  show (match o.outbox.dispatch? r t channel with
    | some outbox => do modify fun o => { o with outbox := outbox }; return true
    | none => return false : Duty σ Bool).run o = _
  rcases o.outbox.dispatch? r t channel with _ | outbox <;> rfl

/-- A record that nobody was told of goes into the outbox, unless it is in flight. -/
theorem moves_dispatch {o : Office σ} {r : HandoffRecord} (hr : r ∈ o.book.records.entries)
    (hunsent : r.notificationSent = false) (t : Ticket) (channel : String) :
    o.Moves ((Handoff.dispatch r t channel).run o).2 := by
  intro sent
  rw [run_dispatch]
  rcases ho : o.outbox.dispatch? r t channel with _ | outbox
  · exact .refl
  · exact .single (.dispatch (l := Shift.ledger ⟨o, sent⟩) hr hunsent ho)

/-- A ticket changes its status, and records stay what they are. -/
theorem setStatus_spec (hbook : sv.reachBook = pure ()) (id : String) (status : TicketStatus)
    (o : Office σ) :
    ∃ result after, (Task.inBook sv fun b => do return ((), ← b.setStatus id status)).run.run o =
        (result, after) ∧
      o.Moves after ∧ after.book.records = o.book.records := by
  rw [Task.run_inBook hbook]
  unfold Book.setStatus
  rcases o.book.tickets.get? id with _ | t
  · exact ⟨_, o, rfl, .refl o, rfl⟩
  · exact ⟨_, _, rfl, fun _ => .refl, rfl⟩

/-- The end of a handoff, where the team is told. -/
theorem moves_tellLast {o : Office σ} {r : HandoffRecord} {shouldTell : Bool}
    (h : shouldTell = true → r ∈ o.book.records.entries ∧ r.notificationSent = false) (t : Ticket)
    (channel : String) :
    o.Moves ((do
      if shouldTell && !(← get).outbox.isInFlight r.id then
        let _ ← Task.sure (Handoff.dispatch r t channel) : Task σ Unit).run.run o).2 := by
  rw [Task.run_bind, Task.run_get]
  rcases htell : shouldTell && !o.outbox.isInFlight r.id
  · simp only [htell, Bool.false_eq_true, if_false]
    exact .refl o
  · simp only [htell, if_true, Task.run_bind, Task.run_sure]
    obtain ⟨hr, hunsent⟩ := h (Bool.and_eq_true_iff.mp htell).1
    exact moves_dispatch hr hunsent t channel

theorem moves_handOverTicket (hbook : sv.reachBook = pure ()) (channel : String)
    (s : Conversation.State) (bag : Entries) (t : Ticket) :
    (handOverTicket sv channel s bag t).Moves := by
  intro o
  obtain ⟨result, after, hrun, hmoves, hresult⟩ := recordFor_spec hbook s bag t o
  unfold handOverTicket
  rw [Task.run_bind, hrun]
  rcases result with fault | ⟨r, shouldTell⟩
  · exact hmoves
  -- The status is set before the team is told, and it leaves the record as it was filed.
  have hunsent : shouldTell = true → r ∈ after.book.records.entries ∧ r.notificationSent = false :=
    fun htell => hresult r (by rw [htell])
  by_cases hstatus : t.status ≠ .pending
  · obtain ⟨moved, last, hset, hlast, hsame⟩ := setStatus_spec hbook t.id .pending after
    simp only [if_pos hstatus]
    rw [Task.run_bind, hset]
    rcases moved with fault | _
    · exact hmoves.trans hlast
    · exact (hmoves.trans hlast).trans (moves_tellLast (hsame ▸ hunsent) t channel)
  · simp only [if_neg hstatus]
    exact hmoves.trans (moves_tellLast hunsent t channel)

/-- A ticket is looked for, and nothing is written. -/
theorem moves_findTicket (hbook : sv.reachBook = pure ()) (isTest : Bool) (id : Value) :
    (findTicket sv isTest id).Moves := by
  intro o
  unfold findTicket
  rw [Task.run_inBook hbook]
  rcases ticketKey id with fault | key
  · exact .refl o
  · exact .refl o

theorem moves_arrange (hbook : sv.reachBook = pure ()) (channel : String) (s : Conversation.State)
    (bag : Entries) : (arrange sv channel s bag).Moves := by
  unfold arrange
  by_cases hid : (!s.ticketId.counts) = true
  · simp only [if_pos hid]
    intro o
    rw [Task.run_bind, Task.run_throw]
    exact .refl o
  simp only [if_neg hid]
  refine .bind (moves_findTicket hbook true _) fun testTicket => ?_
  refine .bind (moves_findTicket hbook false _) fun found => ?_
  rcases found with _ | t
  · by_cases hnone : testTicket.isNone = true
    · simp only [if_pos hnone]
      exact .throw _
    · simp only [if_neg hnone]
      exact .pure ()
  · exact moves_handOverTicket hbook channel s bag t

/-- **One handoff** moves the ledger: it files at most one record and puts at most one delivery into
the outbox, however far it gets. -/
theorem moves_handOver (hbook : sv.reachBook = pure ()) (c : HandoffConfig) (s : Conversation.State) :
    (handOver sv c s).Moves := by
  unfold handOver
  refine .bind (.ofExcept _) fun bag => ?_
  refine .bind (.fill _ _) fun text => ?_
  refine .bind (.outcome (moves_arrange hbook _ s bag)) fun result => ?_
  rcases result with fault | _
  · exact .bind (.note _) fun _ => .pure _
  · exact .pure _

end Workflow

/-! ## One delivery -/

namespace Handoff

variable {sv : Services σ}

/-- To tell the team is work on the world. -/
theorem run_tell (sv : Services σ) (d : Delivery) (o : Office σ) :
    ∃ world, (tell sv d).run.run o =
      (((tell sv d).run.run o).1, { o with world := world }) := by
  unfold tell
  rcases sv.channels.get? d.channel with _ | channel
  · exact ⟨o.world, rfl⟩
  · exact ⟨_, Task.run_ofAttempt _ o⟩

/-- A delivery that the channel took is marked on its record. -/
theorem run_tellAndMark_of_ok (hbook : sv.reachBook = pure ()) {d : Delivery} {o : Office σ}
    {r : HandoffRecord} (hfind : o.book.recordOfId? d.id = some r)
    (hok : ((tell sv d).run.run o).1 = .ok ()) :
    ∃ world, (tellAndMark sv d).run.run o =
      (.ok (), o.refile world r { r with notificationSent := true, notificationError := none }) := by
  obtain ⟨world, hrun⟩ := run_tell sv d o
  refine ⟨world, ?_⟩
  unfold tellAndMark
  rw [Task.run_bind, hrun, hok]
  simp only [Task.run_inBook hbook, Book.markSent, Book.changeRecord, hfind]
  rfl

theorem run_tellAndMark_of_error {d : Delivery} {o : Office σ} {fault : Fault}
    (herror : ((tell sv d).run.run o).1 = .error fault) :
    ∃ world, (tellAndMark sv d).run.run o = (.error fault, { o with world := world }) := by
  obtain ⟨world, hrun⟩ := run_tell sv d o
  refine ⟨world, ?_⟩
  unfold tellAndMark
  rw [Task.run_bind, hrun, herror]

/-- What went wrong is noted on the record. -/
theorem run_noteFailure (hbook : sv.reachBook = pure ()) {d : Delivery} {o : Office σ}
    {r : HandoffRecord} (hfind : o.book.recordOfId? d.id = some r) (fault : Fault) :
    ∃ world, (noteFailure sv d fault).run o =
      ((), o.refile world r { r with notificationError := some fault.message }) := by
  unfold noteFailure
  rw [Duty.run_bind, Duty.run_note, Duty.run_bind, Duty.run_outcome, Task.run_inBook hbook]
  simp only [Book.markFailed, Book.changeRecord, hfind]
  exact ⟨_, rfl⟩

/-- **One delivery**: with its record found, a delivery that the channel took is marked on the record
and one that it failed at is noted there, and either way the delivery is over. -/
theorem run_deliver (hbook : sv.reachBook = pure ()) {d : Delivery} {o : Office σ}
    {r : HandoffRecord} (hfind : o.book.recordOfId? d.id = some r) :
    ∃ world,
      (((tell sv d).run.run o).1 = .ok () ∧ ((deliver sv d).run o).2 =
        { o.refile world r { r with notificationSent := true, notificationError := none } with
          outbox := o.outbox.finish d.id }) ∨
      ∃ fault, ((tell sv d).run.run o).1 = .error fault ∧ ((deliver sv d).run o).2 =
        { o.refile world r { r with notificationError := some fault.message } with
          outbox := o.outbox.finish d.id } := by
  unfold deliver
  rw [Duty.run_bind, Duty.run_outcome]
  rcases htell : ((tell sv d).run.run o).1 with fault | _
  · obtain ⟨world, hrun⟩ := run_tellAndMark_of_error htell
    obtain ⟨last, hnoted⟩ := run_noteFailure hbook (o := { o with world := world }) hfind fault
    refine ⟨last, Or.inr ⟨fault, rfl, ?_⟩⟩
    rw [hrun, Duty.run_bind, hnoted]
    rfl
  · obtain ⟨world, hrun⟩ := run_tellAndMark_of_ok hbook hfind htell
    refine ⟨world, Or.inl ⟨rfl, ?_⟩⟩
    rw [hrun]
    rfl

end Handoff

/-! ## Whole shifts -/

namespace Shift

variable {sv : Services σ}

/-- The number of a delivery that is on its way is the number of a record. -/
theorem exists_recordOfId? {x : Shift σ} (h : x.ledger.Orderly) {d : Handoff.Delivery}
    (hd : d ∈ x.office.outbox.pending) :
    ∃ r ∈ x.office.book.records.entries, r.id = some d.id ∧
      x.office.book.recordOfId? d.id = some r := by
  obtain ⟨q, hq, hqid, _⟩ := h.pendingUnsent d hd
  -- The search may stop at any record of this number; the invariant says that there is one.
  rcases hfind : x.office.book.recordOfId? d.id with _ | r
  · exact absurd (decide_eq_true hqid) (List.find?_eq_none.mp hfind q hq)
  · have hid : r.id = some d.id := by simpa using List.find?_some hfind
    exact ⟨r, List.mem_of_find?_eq_some hfind, hid, rfl⟩

/-- **One step** of a shift moves its ledger. -/
theorem Step.moves (hbook : sv.reachBook = pure ()) {x y : Shift σ} (h : x.ledger.Orderly)
    (hstep : Step sv x y) : Ledger.Moves x.ledger y.ledger := by
  cases hstep with
  | handOver c s => exact Workflow.moves_handOver hbook c s x.office x.sent
  | deliver d hd =>
    obtain ⟨r, hr, hid, hfind⟩ := exists_recordOfId? h hd
    obtain ⟨world, ⟨htold, hoffice⟩ | ⟨fault, htold, hoffice⟩⟩ :=
      Handoff.run_deliver hbook (d := d) hfind
    · have hledger : (x.deliver sv d).ledger = { x.ledger with
          records := x.ledger.records.put r.ticketId
            { r with notificationSent := true, notificationError := none }
          outbox := x.ledger.outbox.finish d.id
          sent := x.ledger.sent ++ [d.id] } := by
        simp only [ledger, Shift.deliver, hoffice, htold]
        rfl
      rw [hledger]
      exact .single (.succeed hd hr hid)
    · have hledger : (x.deliver sv d).ledger = { x.ledger with
          records := x.ledger.records.put r.ticketId
            { r with notificationError := some fault.message }
          outbox := x.ledger.outbox.finish d.id } := by
        simp only [ledger, Shift.deliver, hoffice, htold]
        rfl
      rw [hledger]
      exact .single (.fail hd hr hid)
  | elsewhere o hrecords hnext houtbox =>
    have hledger : ledger { x with office := o } = x.ledger := by
      simp only [ledger, hrecords, hnext, houtbox]
    rw [hledger]

theorem Steps.moves (hbook : sv.reachBook = pure ()) {x y : Shift σ} (h : x.ledger.Orderly)
    (hsteps : Steps sv x y) : Ledger.Moves x.ledger y.ledger := by
  -- The order that is kept up to a step is what finds the record of a delivery that ends in it.
  induction hsteps with
  | refl => exact .refl
  | tail _ hstep ih => exact ih.trans (hstep.moves hbook (h.moves ih))

/-- **Handoffs and deliveries keep order.** From a book without records, whatever is handed over and
in whatever order deliveries end, every state of the shift is orderly: a ticket has one record at
most, records have different numbers, in flight is what has a delivery on its way, of which there is
one at most, and a record is sent once at most and marked exactly when it was sent. What was filed
stays filed for as long as the shift goes on, changed at most in its notification. -/
theorem handoffs_keep_order (hbook : sv.reachBook = pure ()) {world : World σ}
    {workflows : Workflow.Snapshot} {tickets testTickets : List Ticket}
    {messages testMessages : List Message} {x y : Shift σ}
    (hx : Steps sv (opening world workflows tickets messages testTickets testMessages) x)
    (hy : Steps sv x y) : x.ledger.Orderly ∧ x.ledger.KeptIn y.ledger := by
  have hopening : Ledger.Orderly
      (opening world workflows tickets messages testTickets testMessages).ledger :=
    Ledger.orderly_fresh
  have horderly := hopening.moves (Steps.moves hbook hopening hx)
  exact ⟨horderly, horderly.keptIn_moves (Steps.moves hbook horderly hy)⟩

/-- Services where nobody answers but one channel, which takes everything. -/
def quietServices (settings : Settings) : Services Unit where
  settings := settings
  models := {
    build := fun _ => throw .timedOut
    decide := fun _ _ _ => throw .timedOut
    write := fun _ _ => throw .timedOut }
  store := {
    search := fun _ _ _ => throw .timedOut
    neighbors := fun _ _ _ _ => throw .timedOut
    countUse := fun _ _ => throw .timedOut
    ofSource := fun _ _ => throw .timedOut
    upsert := fun _ => throw .timedOut
    deleteSource := fun _ _ => throw .timedOut
    health := pure false
    clock := pure 0 }
  channels := [("email", Handoff.Channel.unserved)]
  reachBook := pure ()
  bindings := pure []

/-- A ticket that nobody has looked at. -/
def openTicket : Ticket :=
  ⟨"T1", "", .null, none, none, .inProgress, none, none, none, none⟩

/-- A shift in which one ticket was handed over. -/
def handedOver (settings : Settings) : Shift Unit :=
  (opening ⟨(), [], []⟩ .empty [openTicket] [] [] []).handOver (quietServices settings) ⟨"", "email"⟩
    (.start [] openTicket.summary [])

theorem handoffs_keep_order_handedOver :
    ∃ settings, ∃ d ∈ (handedOver settings).office.outbox.pending,
      ((handedOver settings).deliver (quietServices settings) d).sent = [1] ∧
      (handedOver settings).ledger.Orderly ∧
      (handedOver settings).ledger.KeptIn
        ((handedOver settings).deliver (quietServices settings) d).ledger := by
  -- Which settings they are makes no difference, so they stay behind a name.
  obtain ⟨settings, _⟩ : ∃ settings, Settings.shape (.object []) = .valid settings := ⟨_, rfl⟩
  let d : Handoff.Delivery := ⟨1,
    ⟨some 1, "T1", Workflow.defaultHandoffReason, .p2, .neutral, none, none, "", false, none⟩,
    openTicket, "email"⟩
  have hpending : (handedOver settings).office.outbox.pending = [d] := rfl
  have hd : d ∈ (handedOver settings).office.outbox.pending := by
    rw [hpending]
    exact List.mem_singleton_self d
  refine ⟨settings, d, hd, rfl, ?_⟩
  exact handoffs_keep_order rfl (.single (.handOver _ _ _)) (.single (.deliver _ d hd))

end Shift

end Helpdesk
