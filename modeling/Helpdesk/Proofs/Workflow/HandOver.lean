import Helpdesk.Proofs.Handoff.Shift
import Helpdesk.Proofs.Workflow.Desk
import Helpdesk.Proofs.Workflow.Provenance

/-!
# Helpdesk.Proofs.Workflow.HandOver — what a handoff does to book and outbox.

Whatever steps a run has taken, its state says why a ticket is handed over, how soon and in what mood,
in a form that a record takes. So a handoff of a ticket of production never fails to write its record,
and what it does to the book and the outbox is told in full: the ticket waits, its record is there,
and the team is going to be told unless it was told or is just being told. Nothing else changes.
-/
namespace Helpdesk

open Handoff Conversation

variable {σ τ : Type}

/-! ## Books -/

/-- A book that was filled by its own operations. -/
inductive Book.Grown : Book → Prop
  | ofLists (tickets : List Ticket) (messages : List Message) (testTickets : List Ticket)
      (testMessages : List Message) : Grown (.ofLists tickets messages testTickets testMessages)
  | addTicket {b : Book} (h : Grown b) (isTest : Bool) (t : Ticket) : Grown (b.addTicket isTest t)
  | addMessage {b : Book} (h : Grown b) (isTest : Bool) (m : Message) : Grown (b.addMessage isTest m)
  | addRecord {b : Book} (h : Grown b) (r : HandoffRecord) : Grown (b.addRecord r).2
  | markSent {b after : Book} (h : Grown b) (id : Int) (hafter : b.markSent id = .ok after) :
      Grown after
  | markFailed {b after : Book} (h : Grown b) (id : Int) (said : String)
      (hafter : b.markFailed id said = .ok after) : Grown after
  | setStatus {b after : Book} (h : Grown b) (id : String) (status : TicketStatus)
      (hafter : b.setStatus id status = .ok after) : Grown after

/-- Tickets stand under their own identifiers, and records have numbers that were given before. -/
structure Book.Regular (b : Book) : Prop where
  named : ∀ id t, b.tickets.get? id = some t → t.id = id
  numbered : ∀ r ∈ b.records.entries, ∃ n, r.id = some n ∧ n < b.nextId

namespace Book

theorem named_put {tickets : Keyed Ticket} (h : ∀ id t, tickets.get? id = some t → t.id = id)
    {t : Ticket} {id : String} (hid : t.id = id) :
    ∀ other u, (tickets.put id t).get? other = some u → u.id = other := by
  intro other u hget
  rw [Keyed.get?_put] at hget
  split at hget
  · next hsame => rw [← Option.some.inj hget, hid, hsame]
  · exact h other u hget

theorem named_ofList (tickets : List Ticket) {table : Keyed Ticket}
    (h : ∀ id t, table.get? id = some t → t.id = id) :
    ∀ id t, Keyed.get? id (tickets.foldl (fun table t => table.put t.id t) table) = some t →
      t.id = id := by
  induction tickets generalizing table with
  | nil => exact h
  | cons first rest ih => exact ih (named_put h rfl)

theorem Regular.changeRecord {b after : Book} (h : b.Regular) {id : Int}
    {change : HandoffRecord → HandoffRecord} (hafter : b.changeRecord id change = .ok after)
    (hid : ∀ r, (change r).id = r.id) : after.Regular := by
  unfold Book.changeRecord at hafter
  rcases hfind : b.recordOfId? id with _ | r
  · rw [hfind] at hafter
    cases hafter
  · rw [hfind] at hafter
    cases hafter
    refine ⟨h.named, fun q hq => ?_⟩
    rcases Keyed.eq_or_mem_of_mem_entries_put hq with rfl | hold
    · rw [hid]
      exact h.numbered r (List.mem_of_find?_eq_some hfind)
    · exact h.numbered q hold

theorem Grown.regular {b : Book} (h : b.Grown) : b.Regular := by
  induction h with
  | ofLists tickets _ _ _ =>
    refine ⟨named_ofList tickets ?_, fun r hr => absurd hr List.not_mem_nil⟩
    intro id t hget
    cases hget
  | addTicket _ isTest t ih =>
    cases isTest with
    | true => exact ⟨ih.named, ih.numbered⟩
    | false => exact ⟨named_put ih.named rfl, ih.numbered⟩
  | addMessage _ isTest m ih =>
    cases isTest with
    | true => exact ⟨ih.named, ih.numbered⟩
    | false => exact ⟨ih.named, ih.numbered⟩
  | @addRecord b _ r ih =>
    unfold Book.addRecord
    rcases b.record? r.ticketId with _ | existing
    · refine ⟨ih.named, fun q hq => ?_⟩
      show ∃ n, q.id = some n ∧ n < b.nextId + 1
      rcases Keyed.eq_or_mem_of_mem_entries_put hq with rfl | hold
      · exact ⟨b.nextId, rfl, by omega⟩
      · obtain ⟨n, hn, hless⟩ := ih.numbered q hold
        exact ⟨n, hn, by omega⟩
    · exact ih
  | markSent _ id hafter ih =>
    unfold Book.markSent at hafter
    exact ih.changeRecord hafter fun _ => rfl
  | markFailed _ id said hafter ih =>
    unfold Book.markFailed at hafter
    exact ih.changeRecord hafter fun _ => rfl
  | @setStatus b after _ id status hafter ih =>
    unfold Book.setStatus at hafter
    rcases hget : b.tickets.get? id with _ | t
    · rw [hget] at hafter
      cases hafter
    · rw [hget] at hafter
      cases hafter
      have hid : t.id = id := ih.named id t hget
      exact ⟨named_put ih.named hid, ih.numbered⟩

end Book

namespace Workflow

/-! ## Grounds -/

/-- What a ticket is handed over for. -/
structure Grounds where
  reason : String
  priority : Priority
  sentiment : Sentiment
  userQuery : String

/-- The grounds of a handoff stand in some fields. -/
structure Grounds.In (g : Grounds) (f : Fields) : Prop where
  reason : f.handoffReason = some (.text g.reason)
  priority : f.handoffPriority = some (.text g.priority.name)
  sentiment : f.sentiment = some (.text g.sentiment.name)
  userQuery : f.userQuery = some (.text g.userQuery)

/-- Fields that say something about grounds say it in a form that grounds have. -/
structure Grounded (f : Fields) : Prop where
  reason : f.handoffReason = none ∨ ∃ text, f.handoffReason = some (.text text)
  priority : f.handoffPriority = none ∨ ∃ p : Priority, f.handoffPriority = some (.text p.name)
  sentiment : f.sentiment = none ∨ ∃ m : Sentiment, f.sentiment = some (.text m.name)
  userQuery : f.userQuery = none ∨ ∃ text, f.userQuery = some (.text text)

theorem exists_or_eq_some {α β : Type} (form : α → β) {old new : Option β} {a : α}
    (hold : old = some (form a)) (hnew : new = none ∨ ∃ a, new = some (form a)) :
    ∃ a, new.or old = some (form a) := by
  rcases hnew with rfl | ⟨a, rfl⟩
  · exact ⟨a, hold⟩
  · exact ⟨a, rfl⟩

/-- Fields with grounds have some when such fields are written over them. -/
theorem Grounds.In.exists_write {g : Grounds} {f update : Fields} (h : g.In f)
    (hupdate : Grounded update) : ∃ g : Grounds, g.In (f.write update) := by
  obtain ⟨reason, hreason⟩ := exists_or_eq_some Value.text h.reason hupdate.reason
  obtain ⟨priority, hpriority⟩ :=
    exists_or_eq_some (fun p : Priority => Value.text p.name) h.priority hupdate.priority
  obtain ⟨sentiment, hsentiment⟩ :=
    exists_or_eq_some (fun m : Sentiment => Value.text m.name) h.sentiment hupdate.sentiment
  obtain ⟨query, hquery⟩ := exists_or_eq_some Value.text h.userQuery hupdate.userQuery
  exact ⟨⟨reason, priority, sentiment, query⟩, hreason, hpriority, hsentiment, hquery⟩

theorem exists_grounds_freshFields (vars : Entries) :
    ∃ g : Grounds, g.In (State.freshFields vars) :=
  ⟨⟨"", .p2, .neutral, ""⟩, rfl, rfl, rfl, rfl⟩

/-- **One step**: whatever a step finds out about grounds has their form. -/
theorem grounded_of_perform {sv : Services σ} {s : State} {o after : Office σ} {a : Action}
    {update : Fields} (h : (a.perform sv s).run.run o = (.ok update, after)) : Grounded update := by
  cases a with
  | emotionDetector c =>
    change (detectMood sv c s).run.run o = _ at h
    obtain ⟨bag, -, ⟨reason, -, rfl⟩ | ⟨d, -, rfl⟩ | rfl⟩ := eq_of_detectMood h
    · exact ⟨.inr ⟨_, rfl⟩, .inr ⟨.p2, rfl⟩, .inr ⟨.requestAgent, rfl⟩, .inr ⟨_, rfl⟩⟩
    · exact ⟨.inr ⟨_, rfl⟩, .inr ⟨_, rfl⟩, .inr ⟨_, rfl⟩, .inr ⟨_, rfl⟩⟩
    · exact ⟨.inl rfl, .inl rfl, .inr ⟨.neutral, rfl⟩, .inr ⟨_, rfl⟩⟩
  | rag c =>
    change (lookUpKnowledge sv c s).run.run o = _ at h
    rcases eq_of_lookUpKnowledge h with rfl | ⟨found, queries, rfl⟩
    · exact ⟨.inl rfl, .inl rfl, .inl rfl, .inl rfl⟩
    · exact ⟨.inl rfl, .inl rfl, .inl rfl, .inl rfl⟩
  | smartChat c =>
    change (Task.sure (reply sv c s)).run.run o = _ at h
    obtain ⟨text, rfl⟩ := eq_of_reply h
    exact ⟨.inl rfl, .inl rfl, .inl rfl, .inl rfl⟩
  | escalationOffer c =>
    change (offerEscalation sv c s).run.run o = _ at h
    obtain ⟨bag, -, ⟨d, text, -, -, rfl⟩ | ⟨d, -, rfl⟩ | rfl⟩ := eq_of_offerEscalation h
    · exact ⟨.inl rfl, .inr ⟨_, rfl⟩, .inl rfl, .inl rfl⟩
    · exact ⟨.inl rfl, .inr ⟨_, rfl⟩, .inl rfl, .inl rfl⟩
    · exact ⟨.inl rfl, .inl rfl, .inl rfl, .inl rfl⟩
  | handoff c =>
    change (handOver sv c s).run.run o = _ at h
    obtain ⟨text, rfl⟩ := eq_of_handOver h
    exact ⟨.inl rfl, .inl rfl, .inl rfl, .inl rfl⟩

/-- What every leg keeps is kept by a whole run, wherever one stops to look. -/
theorem Run.Joined.reached_of_leg {sv : Services σ} {P : State → Prop}
    (hleg : ∀ l : Leg σ, P l.before.state → P (l.after sv)) {s : State} {legs : List (Leg σ)}
    (hjoined : Joined sv s legs) (hs : P s) {earlier : List (Leg σ)} (hearlier : earlier <+: legs) :
    P (reached sv s earlier) := by
  induction legs generalizing s earlier with
  | nil =>
    obtain rfl := List.prefix_nil.mp hearlier
    exact hs
  | cons l rest ih =>
    rcases earlier with _ | ⟨first, earlier⟩
    · exact hs
    · obtain ⟨rfl, hrest⟩ := List.cons_prefix_cons.mp hearlier
      obtain ⟨rfl, hlater⟩ := hjoined
      exact ih hlater (hleg _ hs) hrest

/-- A state that a run from a state comes to. -/
def Comes (σ : Type) (start s : State) : Prop :=
  ∃ (sv : Services σ) (w : Compiled) (o : Office σ) (earlier : List (Leg σ)),
    earlier <+: w.legs sv o start ∧ s = Run.reached sv start earlier

/-- **Whole runs**: the ticket stays what it is, and there are grounds whenever a run gets somewhere. -/
theorem Comes.exists_grounds {turns : List Turn} {ticket vars : Entries} {s : State}
    (h : Comes σ (.start turns ticket vars) s) :
    s.ticket = ticket ∧ ∃ g : Grounds, g.In s.fields := by
  obtain ⟨sv, w, o, earlier, hearlier, rfl⟩ := h
  obtain ⟨-, hjoined, -⟩ := w.legs_spec sv o (.start turns ticket vars)
  refine Run.Joined.reached_of_leg (P := fun s => s.ticket = ticket ∧ ∃ g : Grounds, g.In s.fields)
    ?_ hjoined ⟨rfl, exists_grounds_freshFields vars⟩ hearlier
  rintro l ⟨hticket, g, hg⟩
  rcases l.after_cases sv with hsame | ⟨update, office, hafter, hrun⟩
  · rw [hsame]
    exact ⟨hticket, g, hg⟩
  · rw [hafter]
    exact ⟨hticket, hg.exists_write (grounded_of_perform hrun)⟩

/-! ## The record -/

/-- The record of a ticket that is handed over, before it has a number. -/
def Grounds.record (g : Grounds) (t : Ticket) : HandoffRecord where
  id := none
  ticketId := t.id
  reason := if g.reason.isEmpty then defaultHandoffReason else g.reason
  priority := g.priority
  sentiment := g.sentiment
  customerId := t.customerId
  assignedAgentId := t.agentId
  userQuery := g.userQuery
  notificationSent := false
  notificationError := none

theorem orElse_text (text otherwise : String) :
    (Value.text text).orElse (.text otherwise) =
      .text (if text.isEmpty then otherwise else text) := by
  by_cases htext : text = ""
  · simp [Value.orElse, Value.counts, htext]
  · simp [Value.orElse, Value.counts, htext]

/-- The entries of a record that has no number yet. -/
def draftEntries (ticketId reason userQuery : String) (priority : Priority) (sentiment : Sentiment)
    (customerId agentId : Option Int) : Entries :=
  [("ticket_id", .text ticketId), ("handoff_reason", .text reason),
    ("priority", .text priority.name), ("sentiment", .text sentiment.name),
    ("customer_id", .ofInt? customerId), ("assigned_agent_id", .ofInt? agentId),
    ("user_query", .text userQuery)]

/-- A record is read as it was drafted. -/
theorem shape_draftEntries (ticketId reason userQuery : String) (priority : Priority)
    (sentiment : Sentiment) (customerId agentId : Option Int) :
    HandoffRecord.shape (.object (draftEntries ticketId reason userQuery priority sentiment customerId
      agentId)) = .valid ⟨none, ticketId, reason, priority, sentiment, customerId, agentId, userQuery,
        false, none⟩ := by
  have hpriority : Shape.choiceOf .choice Priority.names (.text priority.name) = .valid priority := by
    cases priority <;> rfl
  have hsentiment : Shape.choiceOf .choice Sentiment.names (.text sentiment.name) =
      .valid sentiment := by
    cases sentiment <;> rfl
  rw [HandoffRecord.shape, draftEntries, Shape.record_object, Shape.optional_of_value? (by rfl),
    Shape.required_of_present? (by rfl) (Shape.text_text ticketId),
    Shape.required_of_present? (by rfl) (Shape.text_text reason),
    Shape.optional_of_present? (by rfl) hpriority, Shape.optional_of_present? (by rfl) hsentiment,
    Shape.optional_of_present? (by rfl) (Shape.orNull_int_ofInt? customerId),
    Shape.optional_of_present? (by rfl) (Shape.orNull_int_ofInt? agentId),
    Shape.optional_of_present? (by rfl) (Shape.text_text userQuery),
    Shape.optional_of_value? (by rfl), Shape.optional_of_value? (by rfl)]
  rfl

/-- **A record can always be written**: what there is for grounds has the form that a record takes. -/
theorem handoffRecord_eq {s : State} {g : Grounds} (hg : g.In s.fields) {names : Entries}
    (hbag : bag s = .ok names) (t : Ticket) : handoffRecord s names t = .ok (g.record t) := by
  obtain ⟨_, _, _, hreason, hquery⟩ := exists_customerText_of_bag hbag
  have hsame : (if g.userQuery.isEmpty then "" else g.userQuery) = g.userQuery := by
    split
    · next hempty => exact (String.isEmpty_iff.mp hempty).symm
    · rfl
  unfold handoffRecord handoffReason
  rw [hreason, hquery, hg.reason, hg.priority, hg.sentiment, hg.userQuery]
  simp only [Option.getD_some, orElse_text, hsame]
  exact congrArg (Fault.ofChecked "HandoffRecord") (shape_draftEntries _ _ _ _ _ _ _)

/-! ## The handoff -/

/-- An outbox with a delivery of a record more, unless the record was sent or is in flight. -/
def scheduled (o : Outbox) (n : Int) (r : HandoffRecord) (t : Ticket) (channel : String) : Outbox :=
  if r.notificationSent = false ∧ n ∉ o.inFlight then
    ⟨o.inFlight ++ [n], o.pending ++ [⟨n, r, t, channel⟩]⟩
  else o

/-- An office in which a ticket waits. -/
def waiting (o : Office σ) (t : Ticket) : Office σ :=
  { o with book := { o.book with
    tickets := o.book.tickets.put t.id { t with status := .pending } } }

/-- What a handoff does in an office to a ticket of production. -/
structure HandedOver (channel : String) (g : Grounds) (o : Office σ) (t : Ticket)
    (after : Office σ) : Prop where
  /-- The ticket waits. Nothing else about it changes, and nothing about other tickets. -/
  tickets : after.book.tickets = o.book.tickets.put t.id { t with status := .pending }
  testTickets : after.book.testTickets = o.book.testTickets
  messages : after.book.messages = o.book.messages
  testMessages : after.book.testMessages = o.book.testMessages
  /-- Its record is there, the one from before or a new one with a number of its own, other records
  are what they were, and the record is going to be delivered once if it has to be. -/
  record : ∃ n r, r.id = some n ∧ after.book.record? t.id = some r ∧
    (o.book.record? t.id = some r ∧ after.book.records = o.book.records ∨
      o.book.record? t.id = none ∧ r = { g.record t with id := some n } ∧
        (∀ q ∈ o.book.records.entries, q.id ≠ some n) ∧
        after.book.records = o.book.records ++ [(t.id, r)]) ∧
    after.outbox = scheduled o.outbox n r t channel

section

variable {sv : Services σ} {o : Office σ} {t : Ticket} {s : State} {names : Entries}

theorem run_findTicket (hbook : sv.reachBook = pure ()) (isTest : Bool) (id : String)
    (o : Office σ) :
    (findTicket sv isTest (.text id)).run.run o = (.ok (o.book.ticket? isTest id), o) := by
  unfold findTicket
  rw [Task.run_inBook hbook]
  rfl

theorem run_recordFor_of_some (hbook : sv.reachBook = pure ()) {r : HandoffRecord}
    (h : o.book.record? t.id = some r) :
    (recordFor sv s names t).run.run o = (.ok (r, !r.notificationSent), o) := by
  unfold recordFor
  rw [Task.run_bind, Task.run_lookUp hbook, h]
  simp only [Task.run_pure]

theorem run_recordFor_of_none (hbook : sv.reachBook = pure ()) {draft : HandoffRecord}
    (hdraft : handoffRecord s names t = .ok draft) (h : o.book.record? t.id = none) :
    (recordFor sv s names t).run.run o =
      (.ok ((o.book.addRecord draft).1.1,
        (o.book.addRecord draft).1.2 || !(o.book.addRecord draft).1.1.notificationSent),
        { o with book := (o.book.addRecord draft).2 }) := by
  unfold recordFor
  rw [Task.run_bind, Task.run_lookUp hbook, h, hdraft]
  simp only [Task.run_bind, Task.run_ofExcept, Task.run_inBook hbook, Task.run_pure]

theorem run_setStatus (hbook : sv.reachBook = pure ()) (h : o.book.tickets.get? t.id = some t) :
    (Task.inBook sv fun b => do return ((), ← b.setStatus t.id .pending)).run.run o =
      (.ok (), waiting o t) := by
  rw [Task.run_inBook hbook]
  simp only [Book.setStatus, h]
  rfl

theorem waiting_of_pending (h : o.book.tickets.get? t.id = some t) (hstatus : t.status = .pending) :
    waiting o t = o := by
  have hsame : { t with status := .pending } = t := by rw [← hstatus]
  unfold waiting
  rw [hsame, Keyed.put_of_get?_eq_some h]

theorem run_tellLast {r : HandoffRecord} {n : Int} (hid : r.id = some n) (channel : String) :
    ((do
      if (!r.notificationSent) && !(← get).outbox.isInFlight r.id then
        let _ ← Task.sure (dispatch r t channel) : Task σ Unit).run.run o) =
      (.ok (), { o with outbox := scheduled o.outbox n r t channel }) := by
  rw [Task.run_bind, Task.run_get]
  unfold scheduled
  simp only [Outbox.isInFlight, hid, Option.any_some]
  by_cases hdue : r.notificationSent = false ∧ n ∉ o.outbox.inFlight
  · have htell : (!r.notificationSent && !o.outbox.inFlight.contains n) = true := by
      simp [hdue]
    have hgoes : o.outbox.dispatch? r t channel = some _ :=
      Ledger.dispatch?_eq_some_iff.mpr ⟨n, hid, hdue.2, rfl⟩
    rw [if_pos htell, if_pos hdue, Task.run_bind, Task.run_sure, run_dispatch, hgoes]
    rfl
  · have htell : (!r.notificationSent && !o.outbox.inFlight.contains n) = false := by
      simpa using hdue
    rw [htell, if_neg hdue]
    rfl

/-- A handoff goes on with a record that is there afterwards, whether it was there before or not. -/
theorem exists_recordFor (hbook : sv.reachBook = pure ()) (hregular : o.book.Regular) {g : Grounds}
    (hdraft : handoffRecord s names t = .ok (g.record t)) :
    ∃ n r records nextId, (recordFor sv s names t).run.run o = (.ok (r, !r.notificationSent),
        { o with book := { o.book with records := records, nextId := nextId } }) ∧
      r.id = some n ∧ Keyed.get? t.id records = some r ∧
      (o.book.record? t.id = some r ∧ records = o.book.records ∨
        o.book.record? t.id = none ∧ r = { g.record t with id := some n } ∧
          (∀ q ∈ o.book.records.entries, q.id ≠ some n) ∧
          records = o.book.records ++ [(t.id, r)]) := by
  rcases hfound : o.book.record? t.id with _ | r
  · let r := { g.record t with id := some o.book.nextId }
    have hput : o.book.records.put t.id r = o.book.records ++ [(t.id, r)] :=
      Keyed.put_of_get?_eq_none hfound
    have hadd : o.book.addRecord (g.record t) = ((r, true),
        { o.book with records := o.book.records.put t.id r, nextId := o.book.nextId + 1 }) := by
      have hnone : o.book.record? (g.record t).ticketId = none := hfound
      simp only [Book.addRecord, hnone]
      rfl
    refine ⟨o.book.nextId, r, o.book.records.put t.id r, o.book.nextId + 1, ?_, rfl, ?_, ?_⟩
    · rw [run_recordFor_of_none hbook hdraft hfound, hadd]
      rfl
    · rw [Keyed.get?_put, if_pos rfl]
    · refine Or.inr ⟨rfl, rfl, fun q hq hid => ?_, hput⟩
      -- Every number that was given before is smaller.
      obtain ⟨n, hn, hless⟩ := hregular.numbered q hq
      obtain rfl := Option.some.inj (hn.symm.trans hid)
      exact absurd hless (Int.lt_irrefl _)
  · obtain ⟨n, hn, -⟩ := hregular.numbered r (Keyed.mem_entries_of_get?_eq_some hfound)
    exact ⟨n, r, o.book.records, o.book.nextId, run_recordFor_of_some hbook hfound, hn, hfound,
      Or.inl ⟨rfl, rfl⟩⟩

/-- **A ticket of production is handed over.** -/
theorem exists_handedOver (hbook : sv.reachBook = pure ()) (hregular : o.book.Regular) {g : Grounds}
    (hdraft : handoffRecord s names t = .ok (g.record t)) (ht : o.book.tickets.get? t.id = some t)
    (channel : String) :
    ∃ after, (handOverTicket sv channel s names t).run.run o = (.ok (), after) ∧
      HandedOver channel g o t after := by
  obtain ⟨n, r, records, nextId, hrun, hid, hget, hrecord⟩ :=
    exists_recordFor hbook hregular hdraft (o := o)
  let filed : Office σ := { o with book := { o.book with records := records, nextId := nextId } }
  have hfiled : filed.book.tickets.get? t.id = some t := ht
  refine ⟨{ waiting filed t with outbox := scheduled o.outbox n r t channel }, ?_,
    ⟨rfl, rfl, rfl, rfl, n, r, hid, hget, hrecord, rfl⟩⟩
  unfold handOverTicket
  rw [Task.run_bind, hrun]
  by_cases hstatus : t.status ≠ .pending
  · simp only [if_pos hstatus]
    rw [Task.run_bind, run_setStatus hbook hfiled]
    exact run_tellLast hid channel
  · simp only [if_neg hstatus]
    have hsame := waiting_of_pending hfiled (not_not.mp hstatus)
    rw [hsame]
    exact run_tellLast hid channel

theorem run_arrange_of_ticket (hbook : sv.reachBook = pure ()) {id : String}
    (hid : s.ticketId = .text id) (hne : id ≠ "") (ht : o.book.tickets.get? id = some t)
    (channel : String) : (arrange sv channel s names).run.run o =
      (handOverTicket sv channel s names t).run.run o := by
  have hcounts : (!(Value.text id).counts) = false := by simpa [Value.counts] using hne
  have hfound : o.book.ticket? false id = some t := ht
  unfold arrange
  simp only [hid, hcounts, Bool.false_eq_true, if_false]
  rw [Task.run_bind, run_findTicket hbook]
  simp only
  rw [Task.run_bind, run_findTicket hbook, hfound]

end

/-- The ticket of a state has an identifier; an empty one stands for none. -/
def HasTicketId (s : State) (id : String) : Prop :=
  s.ticketId = .text id ∧ id ≠ ""

/-- Without an identifier nothing is handed over. -/
theorem sameDesk_handOver_of_not_counts (sv : Services σ) (c : HandoffConfig) {s : State}
    (h : s.ticketId.counts = false) (o : Office σ) : o.SameDesk ((handOver sv c s).run.run o).2 := by
  have harrange : ∀ bag, LeavesDesk (fun _ => True) (arrange sv c.notifyChannel s bag).run := by
    intro bag o _
    unfold arrange
    simp only [h]
    exact .refl o
  exact leavesDesk_handOver_of_arrange sv harrange o trivial

/-- **A handoff in full.** In whatever state a run hands over, and with whatever book and outbox, the
customer gets the message of the step and nothing else is written into the state. A ticket of
production waits afterwards, with the record that it had or a new one from what the run found out,
and one delivery more is going to be made if the team was not told of the record and is not just being
told; nothing else changes. A ticket that production does not have changes nothing at all. -/
theorem handoff_settles_ticket {sv : Services σ} (hbook : sv.reachBook = pure ()) {turns : List Turn}
    {ticket vars : Entries} {s : State} (hcomes : Comes τ (.start turns ticket vars) s) {id : String}
    (hid : HasTicketId (.start turns ticket vars) id) {names : Entries} (hbag : bag s = .ok names)
    (c : HandoffConfig) (htext : Fills c.messageTemplate names) {o : Office σ} (hgrown : o.book.Grown) :
    ∃ g : Grounds, g.In s.fields ∧ ∃ after, (handOver sv c s).run.run o =
        (.ok (handoffFields (filledText c.messageTemplate names)), after) ∧
      (∀ t, o.book.tickets.get? id = some t → HandedOver c.notifyChannel g o t after) ∧
      (o.book.tickets.get? id = none → o.SameDesk after) := by
  obtain ⟨hticket, g, hg⟩ := hcomes.exists_grounds
  have hsame : s.ticketId = .text id := by
    unfold State.ticketId
    rw [hticket]
    exact hid.1
  refine ⟨g, hg, ?_⟩
  rcases hfound : o.book.tickets.get? id with _ | t
  · obtain ⟨after, hrun⟩ := run_handOver hbag htext sv o
    have hdesk := leavesDesk_handOver sv c hsame o hfound
    rw [hrun] at hdesk
    exact ⟨after, hrun, fun _ ht => (by cases ht), fun _ => hdesk⟩
  · obtain rfl := hgrown.regular.named id t hfound
    obtain ⟨more, hfill⟩ := run_fill htext o
    obtain ⟨after, hrun, hafter⟩ := exists_handedOver hbook (o := o.told more) hgrown.regular
      (handoffRecord_eq hg hbag t) hfound c.notifyChannel
    refine ⟨after, ?_, fun u hu => ?_, fun hnone => (by cases hnone)⟩
    · unfold handOver
      rw [run_bag_bind hbag, Task.run_bind, hfill]
      simp only
      rw [Task.run_bind, Task.run_sure, Duty.run_outcome,
        run_arrange_of_ticket hbook hsame hid.2 (o := o.told more) hfound, hrun]
      rfl
    · obtain rfl := Option.some.inj hu
      exact ⟨hafter.tickets, hafter.testTickets, hafter.messages, hafter.testMessages, hafter.record⟩

/-- An office with one ticket, which nobody has looked at. -/
def openOffice : Office Unit :=
  (Shift.opening ⟨(), [], []⟩ .empty [Shift.openTicket] [] [] []).office

theorem handoff_settles_openTicket : ∃ settings names, Settings.shape (.object []) = .valid settings ∧
    bag (.start [] Shift.openTicket.summary []) = .ok names ∧
    HasTicketId (.start [] Shift.openTicket.summary []) "T1" ∧ Fills "One moment" names ∧
    openOffice.book.Grown ∧ ∃ g after,
      (handOver (Shift.quietServices settings) ⟨"One moment", "email"⟩
          (.start [] Shift.openTicket.summary [])).run.run openOffice =
        (.ok (handoffFields (filledText "One moment" names)), after) ∧
      HandedOver "email" g openOffice Shift.openTicket after := by
  obtain ⟨settings, hsettings⟩ : ∃ settings, Settings.shape (.object []) = .valid settings := ⟨_, rfl⟩
  obtain ⟨names, hbag, htext⟩ : ∃ names, bag (.start [] Shift.openTicket.summary []) = .ok names ∧
      Fills "One moment" names := by
    refine ⟨_, rfl, ?_⟩
    unfold Fills
    decide +kernel
  have hid : HasTicketId (.start [] Shift.openTicket.summary []) "T1" := ⟨rfl, by decide⟩
  have hgrown : openOffice.book.Grown := .ofLists _ _ _ _
  have hcomes : Comes Unit (.start [] Shift.openTicket.summary [])
      (.start [] Shift.openTicket.summary []) :=
    ⟨Shift.quietServices settings, ⟨"empty", "", .finish, [], [], false, 1⟩, openOffice, [],
      List.nil_prefix, rfl⟩
  have hbook : (Shift.quietServices settings).reachBook = pure () := rfl
  obtain ⟨g, -, after, hrun, hafter, -⟩ :=
    handoff_settles_ticket hbook hcomes hid hbag ⟨"One moment", "email"⟩ htext hgrown
  exact ⟨settings, names, hsettings, hbag, hid, htext, hgrown, g, after, hrun, hafter _ rfl⟩

end Workflow

end Helpdesk
