import Helpdesk.Proofs.Knowledge.Retrieval
import Helpdesk.Proofs.Office
import Helpdesk.Workflow.Run

/-!
# Helpdesk.Proofs.Workflow.Endings — how steps and runs can end.

A step takes care of whatever models, stores and books fail with, so none of their faults comes out
of it; a step that comes to an end answers with a text or leaves the answer as it was. `Task.Ends`
says both of a task at once and goes from the parts of a task to the whole, and then from the steps
of a run to the run. A run can also be stopped, and that is the only way to the fault of a run that
took too many steps.
-/
namespace Helpdesk

variable {σ α β : Type}

/-- A task ends with a result of one kind or with a fault of another kind, in every office. -/
def Task.Ends (F : Fault → Prop) (P : α → Prop) (task : Task σ α) : Prop :=
  ∀ o, (∃ a, (task.run.run o).1 = .ok a ∧ P a) ∨ ∃ fault, (task.run.run o).1 = .error fault ∧ F fault

namespace Task.Ends

variable {F : Fault → Prop} {P : α → Prop} {Q : β → Prop}

theorem of_result {task : Task σ α} (h : Ends F P task) {o after : Office σ} {a : α}
    (hrun : task.run.run o = (.ok a, after)) : P a := by
  rcases h o with ⟨b, hb, hP⟩ | ⟨fault, hfault, -⟩
  · rw [hrun] at hb
    exact Except.ok.inj hb ▸ hP
  · rw [hrun] at hfault
    cases hfault

theorem of_fault {task : Task σ α} (h : Ends F P task) {o after : Office σ} {fault : Fault}
    (hrun : task.run.run o = (.error fault, after)) : F fault := by
  rcases h o with ⟨a, ha, -⟩ | ⟨other, hother, hF⟩
  · rw [hrun] at ha
    cases ha
  · rw [hrun] at hother
    exact Except.error.inj hother ▸ hF

theorem pure {a : α} (h : P a) : Ends F P (pure a : Task σ α) :=
  fun _ => Or.inl ⟨a, rfl, h⟩

theorem bind {task : Task σ α} {next : α → Task σ β} (h : Ends F P task)
    (hnext : ∀ a, P a → Ends F Q (next a)) : Ends F Q (task >>= next) := by
  intro o
  rw [Task.run_bind]
  rcases htask : task.run.run o with ⟨fault | a, after⟩
  · exact Or.inr ⟨fault, rfl, h.of_fault htask⟩
  · exact hnext a (h.of_result htask) after

/-- A task that always has a result. -/
theorem sure {duty : Duty σ α} (h : ∀ o, P (duty.run o).1) : Ends F P (Task.sure duty) :=
  fun o => Or.inl ⟨(duty.run o).1, rfl, h o⟩

theorem note (n : Notice) : Ends F (fun _ => True) (Task.note n : Task σ Unit) :=
  sure fun _ => trivial

theorem ofExcept {result : Except Fault α} (hfault : ∀ fault, result = .error fault → F fault) :
    Ends F (fun _ => True) (Task.ofExcept result : Task σ α) := by
  intro o
  rcases hresult : result with fault | a
  · exact Or.inr ⟨fault, rfl, hfault fault hresult⟩
  · exact Or.inl ⟨a, rfl, trivial⟩

theorem ofMisfit (h : ∀ m, F (.misfit m)) (result : Except Misfit α) :
    Ends F (fun _ => True) (Task.ofMisfit result : Task σ α) := by
  refine ofExcept ?_
  rcases result with m | a
  · intro fault hfault
    cases hfault
    exact h m
  · intro fault hfault
    cases hfault

theorem fill (h : F .reservedVariable) (template : String) (bag : Entries) :
    Ends F (fun _ => True) (Task.fill template bag : Task σ String) := by
  unfold Task.fill
  rcases Template.render (some template) bag with text | text | _
  · exact pure trivial
  · exact (note _).bind fun _ _ => pure trivial
  · exact fun _ => Or.inr ⟨_, rfl, h⟩

end Task.Ends

namespace Knowledge

/-- A retrieval fails only when the number of hits that it asks for is too large. -/
theorem eq_tooLarge_of_retrieve {store : Store σ} {s : Settings} {queries : List String}
    {filter : Option Filter} {fallback : String} {context : Entries} {w : World σ} {fault : Fault}
    (h : ((retrieve store s queries filter fallback context).run.run w).1 = .error fault) :
    fault = .tooLarge := by
  rcases hcount : hitsPerQuery? queries.length s.ragBaseK with _ | count
  · obtain ⟨-, ⟨hr, -⟩, -⟩ :=
      journals_retrieve_of_tooLarge store s filter fallback context hcount w []
    exact Except.error.inj (h.symm.trans hr)
  · obtain ⟨r, hr⟩ := exists_retrieve_eq_ok store s filter fallback context hcount w
    rw [hr] at h
    cases h

end Knowledge

namespace Workflow

open Conversation

/-! ## Steps -/

/-- The faults that come out of a step and of its route. They are about what the step works on, and
none of them is a collaborator's. -/
inductive StepFault : Fault → Prop where
  | misfit (m : Misfit) : StepFault (.misfit m)
  /-- The module of a ticket is no text. -/
  | invalid (model : String) (issues : List Issue) : StepFault (.invalid model issues)
  | condition (fault : Condition.EvaluationFault) : StepFault (.condition fault)
  | reservedVariable : StepFault .reservedVariable
  | tooLarge : StepFault .tooLarge

/-- The answer in some fields, when there is one, is a text. -/
def AnswersText (f : Fields) : Prop :=
  ∀ v, f.response = some v → ∃ text, v = .text text

theorem answersText_of_none {f : Fields} (h : f.response = none) : AnswersText f := by
  intro v hv
  rw [h] at hv
  cases hv

theorem answersText_of_text {f : Fields} {text : String} (h : f.response = some (.text text)) :
    AnswersText f := by
  intro v hv
  rw [h] at hv
  exact ⟨text, (Option.some.inj hv).symm⟩

theorem AnswersText.write {old new : Fields} (hold : AnswersText old) (hnew : AnswersText new) :
    AnswersText (old.write new) := by
  intro v hv
  rcases Option.or_eq_some_iff.mp hv with h | ⟨-, h⟩
  · exact hnew v h
  · exact hold v h

/-- Nothing but faults of steps comes out of a task. -/
abbrev Contained (task : Task σ α) : Prop :=
  task.Ends StepFault fun _ => True

theorem contained_decisionPrompts (systemPrompt userPrompt : String) (bag : Entries) (s : State)
    (ofTicket : Bool) : Contained (σ := σ) (decisionPrompts systemPrompt userPrompt bag s ofTicket) := by
  unfold decisionPrompts
  refine (Task.Ends.fill .reservedVariable _ _).bind fun instructions _ => ?_
  refine (Task.Ends.fill .reservedVariable _ _).bind fun prompt _ => ?_
  exact (Task.Ends.ofMisfit .misfit _).bind fun _ _ => .pure trivial

theorem contained_decide (sv : Services σ) (llm : Option ModelChoice) (form : Model.Form α)
    (prompts : List Model.Prompt) : Contained (decide sv llm form prompts) :=
  .sure fun _ => trivial

theorem ends_detectMood (sv : Services σ) (c : EmotionConfig) (s : State) :
    (detectMood sv c s).Ends StepFault AnswersText := by
  unfold detectMood
  refine (Task.Ends.ofMisfit .misfit _).bind fun bag _ => ?_
  simp only
  rcases Triage.handoffReason? (lastWords bag) with _ | reason
  · refine (contained_decisionPrompts _ _ _ _ _).bind fun prompts _ => ?_
    refine (contained_decide _ _ _ _).bind ?_
    rintro (fault | d) -
    · exact (Task.Ends.note _).bind fun _ _ => .pure (answersText_of_none rfl)
    · exact .pure (answersText_of_none rfl)
  · exact .pure (answersText_of_none rfl)

theorem contained_shouldSearch (sv : Services σ) (c : RagConfig) (bag : Entries) (s : State) :
    Contained (shouldSearch sv c bag s) := by
  unfold shouldSearch
  rcases c.enableIntentAnalysis with _ | _
  · exact .pure trivial
  rcases Triage.isSmallTalk (lastWords bag) with _ | _
  · refine (contained_decisionPrompts _ _ _ _ _).bind fun prompts _ => ?_
    refine (contained_decide _ _ _ _).bind ?_
    rintro (fault | d) -
    · exact (Task.Ends.note _).bind fun _ _ => .pure trivial
    · exact .pure trivial
  · exact .pure trivial

theorem contained_queriesFor (sv : Services σ) (c : RagConfig) (bag : Entries) (s : State) :
    Contained (queriesFor sv c bag s) := by
  have hwritten : Contained (writtenQueries sv c bag s) := by
    unfold writtenQueries
    refine (contained_decisionPrompts _ _ _ _ _).bind fun prompts _ => ?_
    refine (contained_decide _ _ _ _).bind ?_
    rintro (fault | d) -
    · exact (Task.Ends.note _).bind fun _ _ => .pure trivial
    · exact .pure trivial
  unfold queriesFor
  exact hwritten.bind fun queries _ => .pure trivial

theorem ends_lookUpKnowledge (sv : Services σ) (c : RagConfig) (s : State) :
    (lookUpKnowledge sv c s).Ends StepFault AnswersText := by
  -- Two faults are not caught: of a module that is no text, and of a number of hits without a float.
  have hfilter : ∀ module fault, ticketFilter module = .error fault → StepFault fault := by
    intro module fault h
    unfold ticketFilter at h
    split at h
    · rcases hshape : Knowledge.Filter.shape (.object [("module", module)]) with filter | issues
      · rw [hshape] at h
        cases h
      · rw [hshape] at h
        cases h
        exact .invalid _ _
    · cases h
  have hretrieve : ∀ queries filter fallback context, Contained (Task.ofAttempt
      (Knowledge.retrieve sv.store sv.settings queries filter fallback context)) := by
    intro queries filter fallback context o
    rw [Task.run_ofAttempt]
    rcases hfound : ((Knowledge.retrieve sv.store sv.settings queries filter fallback context).run.run
      o.world).1 with fault | found
    · rw [Knowledge.eq_tooLarge_of_retrieve hfound]
      exact Or.inr ⟨_, rfl, .tooLarge⟩
    · exact Or.inl ⟨found, rfl, trivial⟩
  unfold lookUpKnowledge
  refine (Task.Ends.ofMisfit .misfit _).bind fun bag _ => ?_
  refine (contained_shouldSearch sv c bag s).bind ?_
  rintro (_ | _) -
  · exact .pure (answersText_of_none rfl)
  · refine (contained_queriesFor sv c bag s).bind fun queries _ => ?_
    refine (Task.Ends.ofExcept (hfilter _)).bind fun filter _ => ?_
    exact (hretrieve _ _ _ _).bind fun found _ => .pure (answersText_of_none rfl)

theorem ends_reply (sv : Services σ) (c : SmartChatConfig) (s : State) :
    (Task.sure (reply sv c s)).Ends StepFault AnswersText := by
  refine .sure fun o => ?_
  unfold reply
  rw [Duty.run_bind, Duty.run_outcome]
  rcases (draft sv c s).run.run o with ⟨fault | text, after⟩
  · exact answersText_of_text rfl
  · exact answersText_of_text rfl

theorem ends_offerEscalation (sv : Services σ) (c : EscalationConfig) (s : State) :
    (offerEscalation sv c s).Ends StepFault AnswersText := by
  unfold offerEscalation
  refine (Task.Ends.ofMisfit .misfit _).bind fun bag _ => ?_
  refine (contained_decisionPrompts _ _ _ _ _).bind fun prompts _ => ?_
  refine (contained_decide _ _ _ _).bind ?_
  rintro (fault | d) -
  · exact (Task.Ends.note _).bind fun _ _ => .pure (answersText_of_none rfl)
  · rcases hpropose : d.propose with _ | _
    · simp only [hpropose]
      exact .pure (answersText_of_none rfl)
    · simp only [hpropose]
      exact (Task.Ends.fill .reservedVariable _ _).bind fun text _ => .pure (answersText_of_text rfl)

theorem ends_handOver (sv : Services σ) (c : HandoffConfig) (s : State) :
    (handOver sv c s).Ends StepFault AnswersText := by
  unfold handOver
  refine (Task.Ends.ofMisfit .misfit _).bind fun bag _ => ?_
  refine (Task.Ends.fill .reservedVariable _ _).bind fun text _ => ?_
  refine (Task.Ends.sure (P := fun _ => True) fun _ => trivial).bind ?_
  -- The customer is told the same, whether the ticket could be handed over or not.
  rintro (fault | _) -
  · exact (Task.Ends.note _).bind fun _ _ => .pure (answersText_of_text rfl)
  · exact .pure (answersText_of_text rfl)

/-- **How steps end**: with an answer that is a text, without an answer, or with a fault of steps. -/
theorem ends_perform (sv : Services σ) (s : State) (action : Action) :
    (action.perform sv s).Ends StepFault AnswersText := by
  cases action with
  | emotionDetector c => exact ends_detectMood sv c s
  | rag c => exact ends_lookUpKnowledge sv c s
  | smartChat c => exact ends_reply sv c s
  | escalationOffer c => exact ends_offerEscalation sv c s
  | handoff c => exact ends_handOver sv c s

theorem stepFault_of_follow {s : State} {route : Route} {fault : Fault}
    (h : (route.follow s).2 = .error fault) : StepFault fault := by
  rcases route with target | ⟨branches, otherwise⟩
  · cases h
  rcases hbag : bag s with misfit | vars
  · simp only [Route.follow, hbag] at h
    cases h
    exact .misfit misfit
  rcases hresolve : (Route.conditional branches otherwise).resolve vars with ⟨notices, fault' | target⟩
  · simp only [Route.follow, hbag, hresolve] at h
    cases h
    exact .condition fault'
  · simp only [Route.follow, hbag, hresolve] at h
    cases h

/-! ## Runs -/

namespace Run

/-- A run that goes on, has come to the end, or met a fault of a step. -/
def Orderly (r : Run σ) : Prop :=
  ∀ fault, r.next = .error fault → StepFault fault

theorem orderly_start (w : Compiled) (office : Office σ) (s : State) :
    (Run.start w office s).Orderly := by
  intro fault hfault
  cases hfault

/-- What a step does to a run: the route of the step says where it goes next, and what it answered
is a text. -/
theorem visit_spec (sv : Services σ) (r : Run σ) (step : Step) :
    (r.visit sv step).Orderly ∧
      (AnswersText r.state.fields → AnswersText (r.visit sv step).state.fields) := by
  have hends := ends_perform sv r.state step.action
  unfold visit
  rcases hrun : (step.action.perform sv r.state).run.run r.office with ⟨fault | update, office⟩
  · refine ⟨?_, fun hstate => hstate⟩
    intro other hnext
    cases hnext
    exact hends.of_fault hrun
  · refine ⟨?_, fun hstate => hstate.write (hends.of_result hrun)⟩
    intro fault hnext
    exact stepFault_of_follow hnext

theorem advance_spec (sv : Services σ) (w : Compiled) {r : Run σ} (h : r.Orderly) :
    (r.advance sv w).Orderly ∧
      (AnswersText r.state.fields → AnswersText (r.advance sv w).state.fields) := by
  rcases hnext : r.next with fault | id | _
  · simp only [advance, hnext]
    exact ⟨h, fun hstate => hstate⟩
  · rcases hstep : w.step? id with _ | step
    · simp only [advance, hnext, hstep]
      refine ⟨?_, fun hstate => hstate⟩
      intro fault hfault
      cases hfault
    · simp only [advance, hnext, hstep]
      exact r.visit_spec sv step
  · simp only [advance, hnext]
    exact ⟨h, fun hstate => hstate⟩

theorem advanceAll_spec (sv : Services σ) (w : Compiled) (steps : Nat) {r : Run σ} (h : r.Orderly) :
    (advanceAll sv w steps r).Orderly ∧
      (AnswersText r.state.fields → AnswersText (advanceAll sv w steps r).state.fields) := by
  induction steps generalizing r with
  | zero => exact ⟨h, id⟩
  | succ steps ih =>
    unfold advanceAll
    split
    · obtain ⟨horderly, htext⟩ := advance_spec sv w h
      obtain ⟨hall, hrest⟩ := ih horderly
      exact ⟨hall, fun hstate => hrest (htext hstate)⟩
    · exact ⟨h, fun hstate => hstate⟩

theorem state_stop (w : Compiled) (r : Run σ) : (r.stop w).state = r.state := by
  unfold stop
  split
  · rfl
  · split <;> rfl

/-- A run is stopped when it has taken all its steps, and not before. -/
theorem fault_of_stop {w : Compiled} {r : Run σ} (h : r.Orderly) {fault : Fault}
    (hnext : (r.stop w).next = .error fault) :
    StepFault fault ∨ fault = .stepLimit w.stepLimit ∧ w.stepLimit ≤ r.visits.length := by
  unfold stop at hnext
  split at hnext
  · exact Or.inl (h fault hnext)
  · rename_i target hgoes
    split at hnext
    · rename_i hlimit
      cases hnext
      exact Or.inr ⟨rfl, hlimit⟩
    · rw [hgoes] at hnext
      cases hnext

end Run

theorem Compiled.answersText_run (w : Compiled) (sv : Services σ) (office : Office σ) {s : State}
    (h : AnswersText s.fields) : AnswersText (w.run sv office s).state.fields := by
  unfold Compiled.run
  rcases (Handoff.settle sv).run office with ⟨_, settled⟩
  by_cases hlimit : w.stepLimit < 1
  · simp only [if_pos hlimit]
    exact h
  · simp only [if_neg hlimit]
    rw [Run.state_stop]
    exact (Run.advanceAll_spec sv w _ (Run.orderly_start w settled s)).2 h

end Workflow

end Helpdesk
