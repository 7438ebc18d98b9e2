import Helpdesk.Proofs.Answering
import Helpdesk.Proofs.Sorting
import Helpdesk.Proofs.Workflow.Blind
import Helpdesk.Rehearsal
import Mathlib.Data.List.Pairwise
import Mathlib.Data.Prod.Lex

/-!
# Helpdesk.Proofs.Answering.VisibleMessages — an answer depends on the visible messages of its ticket.

Messages are looked at once, when the conversation of a ticket is put together; everything afterwards
is blind to them. Putting the conversation together keeps the messages of one ticket that customers
may see and sorts them, and messages that differ in moment or number have one order only.

What is asked of models, stores and channels is asked of the world outside, whose state may keep all
of it. Two runs that leave the same world have asked the same.
-/
namespace Helpdesk

open Conversation Workflow

variable {σ : Type}

/-! ## Answers -/

variable (sv : Services σ)

theorem blind_workflowFor (t : Ticket) : Blind (workflowFor sv t).run := by
  unfold workflowFor
  refine .task_get_bind (fun _ _ _ => rfl) fun o => ?_
  rcases o.workflows.workflow? t.module with _ | w
  · refine (Blind.sure (blind_fallback? sv)).task_bind ?_
    rintro (_ | w)
    · exact .task_get_bind (fun _ _ _ => rfl) fun o => .throw _
    · exact .task_pure w
  · exact .task_pure w

theorem blind_firstReply (w : Compiled) (t : Ticket) (turns : List Turn) (attempt attempts : Nat) :
    Blind (firstReply sv w t turns attempt attempts) := by
  induction attempts generalizing attempt with
  | zero => exact .pure none
  | succ attempts ih =>
    unfold firstReply
    refine (blind_invoke sv w _ : Blind (Duty.outcome _)).bind fun result => ?_
    rcases replied? result with _ | text
    · exact (Blind.of_outward (.note _)).bind fun _ => ih (attempt + 1)
    · exact .pure (some text)

/-! ## Conversations -/

/-- Two messages that the order of a conversation tells apart, by their moments or their numbers. -/
def Message.Apart (m other : Message) : Prop :=
  m.createdAt.instant ≠ other.createdAt.instant ∨ m.id ≠ other.id

instance : Std.Symm Message.Apart :=
  ⟨fun _ _ h => h.imp Ne.symm Ne.symm⟩

theorem Message.Apart.ne {m other : Message} (h : m.Apart other) : m ≠ other := by
  rintro rfl
  rcases h with h | h <;> exact h rfl

/-- Where a message stands in its conversation. -/
def Message.place (m : Message) : ℤ ×ₗ ℤ :=
  toLex (m.createdAt.instant, m.id)

theorem chronological_of_comparable {messages : List Message}
    (h : ∀ a ∈ messages, ∀ b ∈ messages, a.createdAt.comparable b.createdAt = true) :
    chronological messages =
      some (messages.mergeSort fun a b => decide (a.place ≤ b.place)) := by
  have hbefore : ∀ a ∈ messages, ∀ b ∈ messages,
      (before? a b).getD true = decide (a.place ≤ b.place) := by
    intro a ha b hb
    unfold before? Message.place
    rw [if_pos (h a ha b hb)]
    simp only [Option.getD_some, Prod.Lex.toLex_le_toLex]
  rcases messages with _ | ⟨first, rest⟩
  · rw [List.mergeSort_nil]
    rfl
  · have hall : (rest.all fun other => first.createdAt.comparable other.createdAt) = true :=
      List.all_eq_true.mpr fun other hother =>
        h first List.mem_cons_self other (List.mem_cons_of_mem _ hother)
    rw [← mergeSort_eq_of_agrees hbefore]
    exact if_pos hall

/-- Messages that are apart have one order, and clocks that cannot be compared spoil any order. -/
theorem chronological_of_perm {messages others : List Message} (hperm : messages.Perm others)
    (hapart : messages.Pairwise Message.Apart) : chronological messages = chronological others := by
  rcases chronological_cases messages with ⟨-, -, -, hclocks⟩ | ⟨hnone, a, ha, b, hb, hodd⟩
  · have hothers : ∀ a ∈ others, ∀ b ∈ others, a.createdAt.comparable b.createdAt = true :=
      fun a ha b hb => hclocks a (hperm.mem_iff.mpr ha) b (hperm.mem_iff.mpr hb)
    rw [chronological_of_comparable hclocks, chronological_of_comparable hothers]
    refine congrArg some (mergeSort_key_of_perm Message.place hperm fun a ha b hb hplace => ?_)
    by_contra hne
    obtain ⟨hinstant, hid⟩ := Prod.mk.inj (toLex_inj.mp hplace)
    rcases hapart.forall ha hb hne with h | h
    · exact h hinstant
    · exact h hid
  · rw [hnone]
    rcases chronological_cases others with ⟨-, -, -, hclocks⟩ | ⟨hsame, -⟩
    · rw [hclocks a (hperm.mem_iff.mp ha) b (hperm.mem_iff.mp hb)] at hodd
      cases hodd
    · exact hsame.symm

theorem run_conversationOf_withMessages {t : Ticket} {isTest : Bool} {o : Office σ}
    {messages testMessages : List Message}
    (h : (o.book.withMessages messages testMessages).conversation isTest t.id =
      o.book.conversation isTest t.id) :
    (conversationOf sv t isTest).run.run (o.withMessages messages testMessages) =
      (((conversationOf sv t isTest).run.run o).1,
        ((conversationOf sv t isTest).run.run o).2.withMessages messages testMessages) := by
  unfold conversationOf
  rw [Task.run_bind, Task.run_bind, Blind.run_inBook sv ?_]
  · rcases (Task.inBook sv fun b => do return (← b.conversation isTest t.id, b)).run.run o with
      ⟨fault | found, after⟩
    · rfl
    · rfl
  · rw [h]
    rcases o.book.conversation isTest t.id with fault | found <;> rfl

/-- The answer to a conversation that is there already. -/
def answerTo (sv : Services σ) (t : Ticket) (turns : List Turn) : Task σ String := do
  let w ← workflowFor sv t
  let attempts := (sv.settings.runtimeMaxRetries + 1).toNat
  match ← Task.sure (firstReply sv w t turns 0 attempts) with
  | some text => return text
  | none =>
    Task.note (.warning "ai_response_exhausted" [("ticket_id", .text t.id)])
    return ""

theorem blind_answerTo (t : Ticket) (turns : List Turn) : Blind (answerTo sv t turns).run := by
  refine (blind_workflowFor sv t).task_bind fun w => ?_
  refine (Blind.sure (blind_firstReply sv w t turns 0 _)).task_bind ?_
  rintro (_ | text)
  · exact .of_outward (.noted _ _)
  · exact .task_pure text

/-- **An answer depends on the visible messages of its ticket only.** Let a book have other messages,
among which the visible ones of the ticket are the same, and let moments and numbers tell these apart.
Then the ticket gets the same answer or the same complaint, and everything else is the same
afterwards: the world, with all that models, stores and channels were asked, the tickets and handoff
records, the outbox and the workflows. Hidden messages, messages of other tickets, messages of the
other kind of run and the order of messages count for nothing. -/
theorem answers_depend_on_visible_messages (t : Ticket) (isTest : Bool) (o : Office σ)
    (messages testMessages : List Message)
    (hsame : ∀ m, m ∈ (o.book.withMessages messages testMessages).shown isTest t.id ↔
      m ∈ o.book.shown isTest t.id)
    (hapart : (o.book.shown isTest t.id).Pairwise Message.Apart)
    (hapart' : ((o.book.withMessages messages testMessages).shown isTest t.id).Pairwise
      Message.Apart) :
    (answer sv t isTest).run.run (o.withMessages messages testMessages) =
      (((answer sv t isTest).run.run o).1,
        ((answer sv t isTest).run.run o).2.withMessages messages testMessages) := by
  have hperm : (o.book.shown isTest t.id).Perm
      ((o.book.withMessages messages testMessages).shown isTest t.id) :=
    (List.perm_ext_iff_of_nodup (hapart.imp Message.Apart.ne) (hapart'.imp Message.Apart.ne)).mpr
      fun m => (hsame m).symm
  have hconversation : (o.book.withMessages messages testMessages).conversation isTest t.id =
      o.book.conversation isTest t.id := by
    rw [Book.conversation_eq, Book.conversation_eq, chronological_of_perm hperm hapart]
  have hturns := run_conversationOf_withMessages sv hconversation
  unfold answer
  rw [Task.run_bind, Task.run_bind, hturns]
  rcases (conversationOf sv t isTest).run.run o with ⟨fault | turns, after⟩
  · rfl
  -- Once the conversation is there, nothing looks at the messages any more.
  · exact blind_answerTo sv t turns after messages testMessages

/-- A message that was written so many seconds after the beginning of 1970. -/
def writtenAt (second : Int) (ticketId text : String) (isInternal : Bool) : Message :=
  ⟨second, ticketId, none, some "customer", .text text, ⟨second * Moment.micros, none⟩, isInternal,
    false⟩

/-- A workflow in which a model answers to the customer's last words. -/
def chatWorkflow : Compiled :=
  ⟨"chat", "", .node "reply", [⟨"reply", .smartChat ⟨"", "{{lastCustomerMessage}}", none, false, none⟩,
    .direct .finish⟩], [], false, 2⟩

/-- An office where every ticket is answered by that workflow, with one reply at hand. -/
def chatOffice (scope : String) (messages : List Message) : Office Rehearsal.Stage :=
  { Rehearsal.office { models := { writings := [.answer (.text "hi")] } }
      (.ofLists [Shift.openTicket] messages [] []) with
    workflows := ⟨[("chat", chatWorkflow)], [(scope, ⟨1, "chat"⟩)]⟩ }

theorem answers_depend_on_visible_messages_remark :
    ∃ settings, Settings.shape (.object []) = .valid settings ∧
      let first := writtenAt 1 "T1" "hello" false
      let second := writtenAt 2 "T1" "anybody there?" false
      let others := [second, writtenAt 3 "T1" "call back" true, writtenAt 4 "T2" "hi" false, first]
      let sv := Rehearsal.services settings []
      let o := chatOffice settings.fallbackScope [first, second]
      (answer sv Shift.openTicket false).run.run (o.withMessages others [second]) =
        (((answer sv Shift.openTicket false).run.run o).1,
          ((answer sv Shift.openTicket false).run.run o).2.withMessages others [second]) := by
  obtain ⟨settings, hsettings⟩ : ∃ settings, Settings.shape (.object []) = .valid settings := ⟨_, rfl⟩
  refine ⟨settings, hsettings, ?_⟩
  intro first second others sv o
  have hshown : o.book.shown false "T1" = [first, second] := rfl
  have hothers : (o.book.withMessages others [second]).shown false "T1" = [second, first] := rfl
  have hapart : first.Apart second := Or.inr (by decide)
  refine answers_depend_on_visible_messages sv Shift.openTicket false o others [second] ?_ ?_ ?_
  · intro m
    rw [show Shift.openTicket.id = "T1" from rfl, hshown, hothers]
    simp only [List.mem_cons, List.not_mem_nil, or_false]
    exact or_comm
  · rw [show Shift.openTicket.id = "T1" from rfl, hshown]
    exact List.pairwise_pair.mpr hapart
  · rw [show Shift.openTicket.id = "T1" from rfl, hothers]
    exact List.pairwise_pair.mpr (symm_of Message.Apart hapart)

end Helpdesk
