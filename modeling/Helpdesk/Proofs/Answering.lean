import Helpdesk.Answering
import Helpdesk.Proofs.Handoff.Shift
import Helpdesk.Proofs.RichText
import Helpdesk.Proofs.Workflow.Endings

/-!
# Helpdesk.Proofs.Answering — a conversation that can be read is answered.

What models, stores and channels do ends in a run that failed, and runs that failed are tried again
or given up; none of it comes out of an answer. The conversation is put together before the first
run, and there it is only the messages that count: `Readable` says when a list of them can be put in
order and turned into bodies for models. A readable conversation is answered when a workflow is bound,
and otherwise the only complaint is that none is. A conversation that is not readable is never
answered, whatever is bound: the fault of the first message that cannot be read comes out as it is.
-/
namespace Helpdesk

open Conversation Workflow

variable {σ : Type}

/-- The messages that the conversation of a ticket is made of, in the order of the book. -/
def Book.shown (b : Book) (isTest : Bool) (id : String) : List Message :=
  (if isTest then b.testMessages else b.messages).filter fun m => m.ticketId = id && m.isVisible

theorem Book.conversation_eq (b : Book) (isTest : Bool) (id : String) :
    b.conversation isTest id = (chronological (b.shown isTest id)).elim (.error .mixedClocks) .ok := by
  unfold Book.conversation Book.shown
  dsimp only
  split
  · rename_i ordered hordered
    rw [hordered]
    rfl
  · rename_i hnone
    rw [hnone]
    rfl

/-! ## Conversations that can be read -/

/-- Messages that can be put in order and turned into bodies for models. -/
structure Readable (messages : List Message) : Prop where
  /-- Clocks can be compared: all of them know their lead, or none does. -/
  clocks : ∀ a ∈ messages, ∀ b ∈ messages, a.createdAt.comparable b.createdAt = true
  bodies : ∀ m ∈ messages, ∃ body, RichText.messageBody m.content = .ok body

theorem readable_of_proper {messages : List Message} (lead : Bool)
    (hclocks : ∀ m ∈ messages, m.createdAt.offset.isSome = lead)
    (hcontents : ∀ m ∈ messages, RichText.Proper m.content) : Readable messages := by
  refine ⟨?_, fun m hm => RichText.exists_messageBody (hcontents m hm)⟩
  intro a ha b hb
  unfold Moment.comparable
  rw [hclocks a ha, hclocks b hb]
  exact beq_self_eq_true lead

/-- Messages are put in order when all their clocks agree with the clock of the first one. -/
theorem chronological_cases (messages : List Message) :
    (∃ ordered, chronological messages = some ordered ∧ ordered.Perm messages ∧
      ∀ a ∈ messages, ∀ b ∈ messages, a.createdAt.comparable b.createdAt = true) ∨
    (chronological messages = none ∧
      ∃ a ∈ messages, ∃ b ∈ messages, a.createdAt.comparable b.createdAt = false) := by
  rcases messages with _ | ⟨first, rest⟩
  · exact Or.inl ⟨[], rfl, .refl _, fun a ha => absurd ha List.not_mem_nil⟩
  by_cases hall : (rest.all fun other => first.createdAt.comparable other.createdAt) = true
  · refine Or.inl ⟨_, if_pos hall, List.mergeSort_perm _ _, ?_⟩
    have hfirst : ∀ m ∈ first :: rest, first.createdAt.offset.isSome = m.createdAt.offset.isSome := by
      intro m hm
      rcases List.mem_cons.mp hm with rfl | hm
      · rfl
      · exact beq_iff_eq.mp (List.all_eq_true.mp hall m hm)
    intro a ha b hb
    exact beq_iff_eq.mpr ((hfirst a ha).symm.trans (hfirst b hb))
  · obtain ⟨other, hother, hodd⟩ : ∃ other ∈ rest,
        first.createdAt.comparable other.createdAt = false := by simpa using hall
    exact Or.inr ⟨if_neg hall, first, List.mem_cons_self, other, List.mem_cons_of_mem _ hother, hodd⟩

theorem ofMessage_cases (m : Message) :
    (∃ body turn, RichText.messageBody m.content = .ok body ∧ Turn.ofMessage m = .ok turn) ∨
    ∃ misfit, RichText.messageBody m.content = .error misfit ∧ Turn.ofMessage m = .error misfit := by
  unfold Turn.ofMessage
  rcases RichText.messageBody m.content with misfit | body
  · exact Or.inr ⟨misfit, rfl, rfl⟩
  · exact Or.inl ⟨body, _, rfl, rfl⟩

/-- Why a conversation cannot be put together. -/
inductive Unread (messages : List Message) : Fault → Prop where
  /-- One clock knows its lead and another one does not. -/
  | clocks {a b : Message} (ha : a ∈ messages) (hb : b ∈ messages)
      (h : a.createdAt.comparable b.createdAt = false) : Unread messages .mixedClocks
  | body {m : Message} (hm : m ∈ messages) {misfit : Misfit}
      (h : RichText.messageBody m.content = .error misfit) : Unread messages (.misfit misfit)

theorem Unread.not_readable {messages : List Message} {fault : Fault} (h : Unread messages fault) :
    ¬ Readable messages := by
  intro hreadable
  cases h with
  | clocks ha hb h =>
    rw [hreadable.clocks _ ha _ hb] at h
    cases h
  | body hm h =>
    obtain ⟨body, hbody⟩ := hreadable.bodies _ hm
    rw [hbody] at h
    cases h

/-- Putting a conversation together changes nothing, and it goes well when the messages are
readable. -/
theorem run_conversationOf {sv : Services σ} (hbook : sv.reachBook = pure ()) (t : Ticket)
    (isTest : Bool) (o : Office σ) :
    (Readable (o.book.shown isTest t.id) ∧
      ∃ turns, (conversationOf sv t isTest).run.run o = (.ok turns, o)) ∨
    ∃ fault, Unread (o.book.shown isTest t.id) fault ∧
      (conversationOf sv t isTest).run.run o = (.error fault, o) := by
  unfold conversationOf
  rw [Task.run_bind, Task.run_inBook hbook]
  rw [Book.conversation_eq]
  rcases chronological_cases (o.book.shown isTest t.id) with
    ⟨ordered, hordered, hperm, hclocks⟩ | ⟨hnone, a, ha, b, hb, hodd⟩
  · rw [hordered]
    -- The first message without a body is the one whose fault comes out.
    rcases mapM_cases (f := Turn.ofMessage) ordered with
      ⟨turns, hturns, hall⟩ | ⟨m, hm, misfit, hmisfit, hfails⟩
    · refine Or.inl ⟨⟨hclocks, ?_⟩, turns, ?_⟩
      · intro m hm
        obtain ⟨turn, hturn⟩ := hall m (hperm.mem_iff.mpr hm)
        rcases ofMessage_cases m with ⟨body, -, hbody, -⟩ | ⟨misfit, -, hmisfit⟩
        · exact ⟨body, hbody⟩
        · rw [hmisfit] at hturn
          cases hturn
      · show (Task.ofMisfit (ordered.mapM Turn.ofMessage)).run.run o = _
        rw [hturns]
        rfl
    · refine Or.inr ⟨.misfit misfit, ?_, ?_⟩
      · rcases ofMessage_cases m with ⟨-, turn, -, hturn⟩ | ⟨other, hbody, hother⟩
        · rw [hturn] at hmisfit
          cases hmisfit
        · rw [hother] at hmisfit
          cases hmisfit
          exact .body (hperm.mem_iff.mp hm) hbody
      · show (Task.ofMisfit (ordered.mapM Turn.ofMessage)).run.run o = _
        rw [hfails]
        rfl
  · rw [hnone]
    exact Or.inr ⟨.mixedClocks, .clocks ha hb hodd, rfl⟩

/-! ## Workflows that are bound -/

/-- A ticket has a workflow: its module is bound, or the fallback scope is. -/
def Served (sv : Services σ) (t : Ticket) (o : Office σ) : Prop :=
  o.workflows.workflow? t.module ≠ none ∨
    o.workflows.workflow? (some sv.settings.fallbackScope) ≠ none

theorem run_fallback? (sv : Services σ) (o : Office σ) :
    ∃ more, (fallback? sv).run o =
      (o.workflows.workflow? (some sv.settings.fallbackScope), o.told more) := by
  have hget : (get : Duty σ (Office σ)).run o = (o, o) := rfl
  unfold fallback?
  rw [Duty.run_bind, hget]
  dsimp only
  rcases o.workflows.workflow? (some sv.settings.fallbackScope) with _ | w
  · exact ⟨[.error "fallback_workflow_missing" [("scope", .text sv.settings.fallbackScope)]], rfl⟩
  · exact ⟨[], by rw [o.told_nil]; rfl⟩

/-- The workflow of the module, or else the fallback; to look for it is noted at most. -/
theorem workflowFor_run (sv : Services σ) (t : Ticket) (o : Office σ) :
    ∃ more, (workflowFor sv t).run.run o =
      (((o.workflows.workflow? t.module).or
          (o.workflows.workflow? (some sv.settings.fallbackScope))).elim
        (.error (.noWorkflow t.module o.workflows.scopes.names)) .ok, o.told more) := by
  unfold workflowFor
  rw [Task.run_bind, Task.run_get]
  rcases hmodule : o.workflows.workflow? t.module with _ | w
  · obtain ⟨more, hfallback⟩ := run_fallback? sv o
    simp only [hmodule]
    rw [Task.run_bind, Task.run_sure, hfallback]
    refine ⟨more, ?_⟩
    rcases o.workflows.workflow? (some sv.settings.fallbackScope) with _ | w <;> rfl
  · simp only [hmodule]
    refine ⟨[], ?_⟩
    rw [o.told_nil]
    rfl

theorem run_workflowFor (sv : Services σ) (t : Ticket) (o : Office σ) :
    (Served sv t o ∧ ∃ w after, (workflowFor sv t).run.run o = (.ok w, after)) ∨
    (¬ Served sv t o ∧ ∃ after, (workflowFor sv t).run.run o =
      (.error (.noWorkflow t.module o.workflows.scopes.names), after)) := by
  obtain ⟨more, hrun⟩ := workflowFor_run sv t o
  rw [hrun, Served]
  rcases o.workflows.workflow? t.module with _ | w
  · rcases o.workflows.workflow? (some sv.settings.fallbackScope) with _ | w
    · exact Or.inr ⟨by simp, _, rfl⟩
    · exact Or.inl ⟨Or.inr (by simp), w, _, rfl⟩
  · exact Or.inl ⟨Or.inl (by simp), w, _, rfl⟩

/-! ## Replies -/

/-- A reply is the answer of a run that went well, from the conversation and the ticket alone. -/
def IsReply (sv : Services σ) (t : Ticket) (text : String) : Prop :=
  ∃ (w : Compiled) (turns : List Turn) (before : Office σ) (s : State),
    ((w.invoke sv (.start turns t.summary [])).run.run before).1 = .ok s ∧
      s.fields.response = some (.text text)

theorem response_of_replied? {result : Except Fault State} {text : String}
    (h : replied? result = some text) :
    ∃ s, result = .ok s ∧ s.fields.response = some (.text text) := by
  rcases result with fault | s
  · cases h
  have hkept : (some (replyOf s)).filter (!·.isEmpty) = some text := h
  obtain ⟨hreply, hsome⟩ := Option.filter_eq_some_iff.mp hkept
  obtain rfl := Option.some.inj hreply
  have hnonempty : replyOf s ≠ "" := by simpa using hsome
  refine ⟨s, rfl, ?_⟩
  -- Whatever is no text counts as an empty reply, and an empty one is none.
  rcases hresponse : s.fields.response with _ | v
  · exact absurd (by simp [replyOf, hresponse, Value.text?]) hnonempty
  · cases v with
    | text said => simp [replyOf, hresponse, Value.text?]
    | _ => exact absurd (by simp [replyOf, hresponse, Value.text?]) hnonempty

theorem isReply_of_firstReply {sv : Services σ} {w : Compiled} {t : Ticket} {turns : List Turn}
    {attempt attempts : Nat} {o : Office σ} {text : String}
    (h : ((firstReply sv w t turns attempt attempts).run o).1 = some text) : IsReply sv t text := by
  induction attempts generalizing attempt o with
  | zero => cases h
  | succ attempts ih =>
    rw [firstReply, Duty.run_bind, Duty.run_outcome] at h
    rcases hreplied : replied? ((w.invoke sv (.start turns t.summary [])).run.run o).1 with _ | reply
    · rw [hreplied] at h
      exact ih h
    · rw [hreplied] at h
      cases h
      obtain ⟨s, hs, hresponse⟩ := response_of_replied? hreplied
      exact ⟨w, turns, o, s, hs, hresponse⟩

/-- A run from a fresh state that goes well has answered with a text, or not at all. -/
theorem answersText_of_invoke {sv : Services σ} {w : Compiled} {turns : List Turn}
    {ticket vars : Entries} {o : Office σ} {s : State}
    (h : ((w.invoke sv (.start turns ticket vars)).run.run o).1 = .ok s) : AnswersText s.fields := by
  have hresult : (w.run sv o (.start turns ticket vars)).result = .ok s := h
  obtain ⟨target, -, rfl⟩ := map_eq_ok_iff.mp hresult
  exact w.answersText_run sv o (answersText_of_text rfl)

/-! ## Answers -/

/-- **Conversations that can be read are answered, and only those.** A readable conversation ends
with a reply, or with an empty text when no attempt gave one, as long as some workflow is bound; with
none the complaint names the module and the scopes. Any other conversation ends with the fault of a
message, before a workflow is looked for and with nothing changed. Every reply is a text. -/
theorem readable_conversations_are_answered {sv : Services σ} (hbook : sv.reachBook = pure ())
    (t : Ticket) (isTest : Bool) (o : Office σ) :
    (Readable (o.book.shown isTest t.id) → Served sv t o →
      ∃ text, ((answer sv t isTest).run.run o).1 = .ok text ∧ (text = "" ∨ IsReply sv t text)) ∧
    (Readable (o.book.shown isTest t.id) → ¬ Served sv t o →
      ((answer sv t isTest).run.run o).1 =
        .error (.noWorkflow t.module o.workflows.scopes.names)) ∧
    (¬ Readable (o.book.shown isTest t.id) → ∃ fault, Unread (o.book.shown isTest t.id) fault ∧
      (answer sv t isTest).run.run o = (.error fault, o)) ∧
    ∀ (w : Compiled) (turns : List Turn) (before : Office σ) (s : State),
      ((w.invoke sv (.start turns t.summary [])).run.run before).1 = .ok s → AnswersText s.fields := by
  refine ⟨?_, ?_, ?_, fun w turns before s hs => answersText_of_invoke hs⟩
  · intro hreadable hserved
    unfold answer
    rcases run_conversationOf hbook t isTest o with ⟨-, turns, hturns⟩ | ⟨fault, hunread, -⟩
    · rw [Task.run_bind, hturns]
      simp only
      rcases run_workflowFor sv t o with ⟨-, w, after, hw⟩ | ⟨hnone, -⟩
      · rw [Task.run_bind, hw]
        simp only
        rw [Task.run_bind, Task.run_sure]
        simp only
        rcases hreply : ((firstReply sv w t turns 0 (sv.settings.runtimeMaxRetries + 1).toNat).run
          after).1 with _ | text
        · exact ⟨"", rfl, Or.inl rfl⟩
        · exact ⟨text, rfl, Or.inr (isReply_of_firstReply hreply)⟩
      · exact absurd hserved hnone
    · exact absurd hreadable hunread.not_readable
  · intro hreadable hnone
    unfold answer
    rcases run_conversationOf hbook t isTest o with ⟨-, turns, hturns⟩ | ⟨fault, hunread, -⟩
    · rw [Task.run_bind, hturns]
      simp only
      rcases run_workflowFor sv t o with ⟨hserved, -⟩ | ⟨-, after, hw⟩
      · exact absurd hserved hnone
      · rw [Task.run_bind, hw]
    · exact absurd hreadable hunread.not_readable
  · intro hunreadable
    unfold answer
    rcases run_conversationOf hbook t isTest o with ⟨hreadable, -⟩ | ⟨fault, hunread, hrun⟩
    · exact absurd hreadable hunreadable
    · exact ⟨fault, hunread, by rw [Task.run_bind, hrun]⟩

/-- An office with one ticket that has one message, and with some workflows. -/
def oneMessageOffice (m : Message) (workflows : Snapshot) : Office Unit :=
  ⟨⟨(), [], []⟩, .ofLists [Shift.openTicket] [m] [] [], .empty, workflows⟩

/-- The stored message of a customer with some content. -/
def storedMessage (content : Value) : Value :=
  .object [("id", .int 1), ("ticket_id", .text "T1"), ("content", content),
    ("created_at", .text "2024-05-01T10:00:00")]

/-- A workflow that ends before its first step. -/
def emptyWorkflow : Compiled := ⟨"empty", "", .finish, [], [], false, 1⟩

theorem readable_conversations_are_answered_greeting :
    ∃ settings m workflows, Settings.shape (.object []) = .valid settings ∧
      Message.shape (storedMessage (RichText.ofReply "hello")) = .valid m ∧
      ∃ text, ((answer (Shift.quietServices settings) Shift.openTicket false).run.run
        (oneMessageOffice m workflows)).1 = .ok text := by
  obtain ⟨settings, hsettings, hscope⟩ : ∃ settings,
      Settings.shape (.object []) = .valid settings ∧ settings.fallbackScope = "default_all" :=
    ⟨_, rfl, rfl⟩
  obtain ⟨m, hm, hshown, hcontent⟩ : ∃ m,
      Message.shape (storedMessage (RichText.ofReply "hello")) = .valid m ∧
      (oneMessageOffice m .empty).book.shown false "T1" = [m] ∧
      m.content = RichText.ofReply "hello" := ⟨_, rfl, rfl, rfl⟩
  let workflows : Snapshot :=
    ⟨[("empty", emptyWorkflow)], [(settings.fallbackScope, ⟨1, "empty"⟩)]⟩
  have hreadable : Readable ((oneMessageOffice m workflows).book.shown false "T1") := by
    rw [show (oneMessageOffice m workflows).book.shown false "T1" = [m] from hshown]
    refine readable_of_proper m.createdAt.offset.isSome ?_ ?_
    · intro other hother
      rw [List.mem_singleton.mp hother]
    · intro other hother
      rw [List.mem_singleton.mp hother, hcontent]
      exact RichText.proper_ofReply "hello"
  have hserved : Served (Shift.quietServices settings) Shift.openTicket
      (oneMessageOffice m workflows) := by
    refine Or.inr ?_
    have hbound : workflows.workflow? (some settings.fallbackScope) = some emptyWorkflow := by
      rw [hscope]
      simp only [workflows, hscope]
      rfl
    intro hnone
    have habsent : workflows.workflow? (some settings.fallbackScope) = none := hnone
    rw [hbound] at habsent
    cases habsent
  obtain ⟨text, htext, -⟩ :=
    (readable_conversations_are_answered rfl Shift.openTicket false
      (oneMessageOffice m workflows)).1 hreadable hserved
  exact ⟨settings, m, workflows, hsettings, hm, text, htext⟩

/-- An element of text that holds a number. -/
def numberAsText : Value :=
  .object [("type", .text "text"), ("text", .int 5)]

theorem numberAsText_not_answered :
    ∃ settings m, Settings.shape (.object []) = .valid settings ∧
      Message.shape (storedMessage numberAsText) = .valid m ∧
      ∀ workflows, ((answer (Shift.quietServices settings) Shift.openTicket false).run.run
        (oneMessageOffice m workflows)).1 = .error (.misfit (.notText 0 .int)) := by
  obtain ⟨settings, hsettings⟩ : ∃ settings, Settings.shape (.object []) = .valid settings := ⟨_, rfl⟩
  obtain ⟨m, hm, hshown, hcontent⟩ : ∃ m, Message.shape (storedMessage numberAsText) = .valid m ∧
      (oneMessageOffice m .empty).book.shown false "T1" = [m] ∧ m.content = numberAsText :=
    ⟨_, rfl, rfl, rfl⟩
  have hbody : RichText.messageBody m.content = .error (.notText 0 .int) := hcontent ▸ rfl
  refine ⟨settings, m, hsettings, hm, ?_⟩
  intro workflows
  have hmessages : (oneMessageOffice m workflows).book.shown false Shift.openTicket.id = [m] := hshown
  have hbook : (Shift.quietServices settings).reachBook = pure () := rfl
  unfold answer
  rcases run_conversationOf hbook Shift.openTicket false (oneMessageOffice m workflows) with ⟨hreadable, -⟩ | ⟨fault, hunread, hrun⟩
  · obtain ⟨body, hok⟩ := hreadable.bodies m (hmessages ▸ List.mem_singleton_self m)
    rw [hbody] at hok
    cases hok
  · rw [Task.run_bind, hrun]
    rw [hmessages] at hunread
    cases hunread with
    | clocks ha hb hodd =>
      rw [List.mem_singleton.mp ha, List.mem_singleton.mp hb, Moment.comparable, beq_self_eq_true]
        at hodd
      cases hodd
    | body hmem hmisfit =>
      rw [List.mem_singleton.mp hmem, hbody] at hmisfit
      cases hmisfit
      rfl

end Helpdesk
