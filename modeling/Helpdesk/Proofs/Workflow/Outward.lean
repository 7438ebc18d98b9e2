import Helpdesk.Proofs.Office
import Helpdesk.Workflow.Run

/-!
# Helpdesk.Proofs.Workflow.Outward — steps that work on the world alone.

Most steps of a workflow ask models and the store and leave notices. Book, outbox and workflows are
nothing to them: they neither look at these nor change them. A duty of this kind is the same as some
work on the world, and that goes from the parts of a duty to the whole. Only a handoff is different.
-/
namespace Helpdesk

variable {σ α β : Type}

/-- A duty that works on the world alone. -/
def Outward (duty : Duty σ α) : Prop :=
  ∃ work : Work σ α, duty = Duty.ofWork work

namespace Outward

theorem ofWork (work : Work σ α) : Outward (Duty.ofWork work) :=
  ⟨work, rfl⟩

theorem pure (a : α) : Outward (pure a : Duty σ α) :=
  ⟨Pure.pure a, rfl⟩

theorem note (n : Notice) : Outward (Duty.note n : Duty σ Unit) :=
  ofWork _

theorem bind {duty : Duty σ α} {next : α → Duty σ β} (h : Outward duty)
    (hnext : ∀ a, Outward (next a)) : Outward (duty >>= next) := by
  obtain ⟨work, rfl⟩ := h
  have hworks : ∃ works : α → Work σ β, next = fun a => Duty.ofWork (works a) :=
    ⟨fun a => (hnext a).choose, funext fun a => (hnext a).choose_spec⟩
  obtain ⟨works, rfl⟩ := hworks
  exact ⟨work >>= works, rfl⟩

/-- The world is all that an outward duty changes. -/
theorem exists_world {duty : Duty σ α} (h : Outward duty) (o : Office σ) :
    ∃ world, (duty.run o).2 = { o with world := world } := by
  obtain ⟨work, rfl⟩ := h
  exact ⟨_, rfl⟩

/-! ## Tasks -/

theorem task_bind {task : Task σ α} {next : α → Task σ β} (h : Outward task.run)
    (hnext : ∀ a, Outward (next a).run) : Outward (task >>= next).run := by
  show Outward (task.run >>= ExceptT.bindCont next)
  refine h.bind ?_
  rintro (fault | a)
  · exact pure (Except.error fault)
  · exact hnext a

theorem task_pure (a : α) : Outward (Pure.pure a : Task σ α).run :=
  pure (Except.ok a)

theorem ofExcept (result : Except Fault α) : Outward (Task.ofExcept result : Task σ α).run :=
  pure result

theorem sure {duty : Duty σ α} (h : Outward duty) : Outward (Task.sure duty).run :=
  h.bind fun a => pure (Except.ok a)

theorem noted (n : Notice) (a : α) :
    Outward (do Task.note n; return a : Task σ α).run :=
  (sure (note n)).task_bind fun _ => task_pure a

theorem ofAttempt (attempt : Attempt σ α) : Outward (Task.ofAttempt attempt).run :=
  ofWork _

theorem fill (template : String) (bag : Entries) :
    Outward (Task.fill template bag : Task σ String).run := by
  unfold Task.fill
  rcases Template.render (some template) bag with text | text | _
  · exact task_pure text
  · exact noted _ text
  · exact pure (Except.error Fault.reservedVariable)

end Outward

/-! ## Steps -/

namespace Workflow

open Conversation

variable (sv : Services σ)

theorem outward_decisionPrompts (systemPrompt userPrompt : String) (bag : Entries) (s : State)
    (ofTicket : Bool) :
    Outward (decisionPrompts (σ := σ) systemPrompt userPrompt bag s ofTicket).run := by
  unfold decisionPrompts
  refine (Outward.fill _ _).task_bind fun instructions => ?_
  refine (Outward.fill _ _).task_bind fun prompt => ?_
  exact (Outward.ofExcept _).task_bind fun parts => .task_pure _

theorem outward_decide (llm : Option ModelChoice) (form : Model.Form α)
    (prompts : List Model.Prompt) : Outward (decide sv llm form prompts).run :=
  .sure (.ofWork _)

/-- A step that puts a question to its model goes on from the decision. -/
theorem outward_question (systemPrompt userPrompt : String) (bag : Entries) (s : State)
    (ofTicket : Bool) (llm : Option ModelChoice) (form : Model.Form α)
    {next : Except Fault α → Task σ β} (hnext : ∀ decided, Outward (next decided).run) :
    Outward (do
      let prompts ← decisionPrompts systemPrompt userPrompt bag s ofTicket
      next (← decide sv llm form prompts)).run :=
  (outward_decisionPrompts _ _ _ _ _).task_bind fun prompts =>
    (outward_decide sv llm form prompts).task_bind hnext

theorem outward_detectMood (c : EmotionConfig) (s : State) : Outward (detectMood sv c s).run := by
  unfold detectMood
  refine (Outward.ofExcept _).task_bind fun bag => ?_
  simp only
  rcases Triage.handoffReason? (lastWords bag) with _ | reason
  · refine outward_question sv _ _ _ _ _ _ _ ?_
    rintro (fault | d)
    · exact .noted _ _
    · exact .task_pure _
  · exact .task_pure _

theorem outward_shouldSearch (c : RagConfig) (bag : Entries) (s : State) :
    Outward (shouldSearch sv c bag s).run := by
  unfold shouldSearch
  rcases c.enableIntentAnalysis with _ | _
  · exact .task_pure true
  rcases Triage.isSmallTalk (lastWords bag) with _ | _
  · refine outward_question sv _ _ _ _ _ _ _ ?_
    rintro (fault | d)
    · exact .noted _ _
    · exact .task_pure _
  · exact .task_pure false

theorem outward_queriesFor (c : RagConfig) (bag : Entries) (s : State) :
    Outward (queriesFor sv c bag s).run := by
  have hwritten : Outward (writtenQueries sv c bag s).run := by
    unfold writtenQueries
    refine outward_question sv _ _ _ _ _ _ _ ?_
    rintro (fault | d)
    · exact .noted _ _
    · exact .task_pure _
  unfold queriesFor
  exact hwritten.task_bind fun queries => .task_pure _

theorem outward_lookUpKnowledge (c : RagConfig) (s : State) :
    Outward (lookUpKnowledge sv c s).run := by
  unfold lookUpKnowledge
  refine (Outward.ofExcept _).task_bind fun bag => ?_
  refine (outward_shouldSearch sv c bag s).task_bind ?_
  rintro (_ | _)
  · exact .task_pure _
  · refine (outward_queriesFor sv c bag s).task_bind fun queries => ?_
    refine (Outward.ofExcept _).task_bind fun filter => ?_
    exact (Outward.ofAttempt _).task_bind fun found => .task_pure _

theorem outward_reply (c : SmartChatConfig) (s : State) : Outward (reply sv c s) := by
  have hdraft : Outward (draft sv c s).run := by
    unfold draft
    refine (Outward.ofExcept _).task_bind fun bag => ?_
    refine (Outward.fill _ _).task_bind fun instructions => ?_
    refine (Outward.fill _ _).task_bind fun prompt => ?_
    exact (Outward.ofExcept _).task_bind fun content => .ofAttempt _
  unfold reply
  refine hdraft.bind ?_
  rintro (fault | text)
  · exact (Outward.note _).bind fun _ => .pure _
  · exact .pure _

theorem outward_offerEscalation (c : EscalationConfig) (s : State) :
    Outward (offerEscalation sv c s).run := by
  unfold offerEscalation
  refine (Outward.ofExcept _).task_bind fun bag => ?_
  refine outward_question sv _ _ _ _ _ _ _ ?_
  rintro (fault | d)
  · exact .noted _ _
  · rcases hpropose : d.propose with _ | _
    · simp only [hpropose]
      exact .task_pure _
    · simp only [hpropose]
      exact (Outward.fill _ _).task_bind fun text => .task_pure _

/-- A step that hands tickets over. -/
def Action.HandsOver (a : Action) : Prop :=
  ∃ c, a = .handoff c

/-- **Steps work on the world alone**, all but handoffs. -/
theorem outward_perform (s : State) {a : Action} (h : ¬ a.HandsOver) :
    Outward (a.perform sv s).run := by
  cases a with
  | emotionDetector c => exact outward_detectMood sv c s
  | rag c => exact outward_lookUpKnowledge sv c s
  | smartChat c => exact .sure (outward_reply sv c s)
  | escalationOffer c => exact outward_offerEscalation sv c s
  | handoff c => exact absurd ⟨c, rfl⟩ h

end Workflow

/-- To tell the team is work on the world. -/
theorem Handoff.outward_tell (sv : Services σ) (d : Handoff.Delivery) :
    Outward (Handoff.tell sv d).run := by
  unfold Handoff.tell
  rcases sv.channels.get? d.channel with _ | channel
  · exact .pure _
  · exact .ofAttempt _

end Helpdesk
