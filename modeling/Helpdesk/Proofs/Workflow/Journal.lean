import Helpdesk.Proofs.Knowledge.Journal
import Helpdesk.Proofs.Model.Call
import Helpdesk.Proofs.Office
import Helpdesk.Workflow.Mood

/-!
# Helpdesk.Proofs.Workflow.Journal — an office whose store writes down what it is asked.

The services of an office are given a journal beside the state of the outside. The store writes in
it; models, channels and the book are asked beside it and answer as before. A duty and its journaled
twin then have the same result, and what the twin adds to the journal is what the duty asked of the
store. Where a duty asks models and leaves notices only, its twin adds nothing.
-/
namespace Helpdesk

open Knowledge (Exchange)

variable {σ α β : Type}

/-! ## Services and offices -/

/-- Models that are asked beside the journal. -/
def Model.Provider.journaled (p : Model.Provider σ) : Model.Provider (σ × List Exchange) where
  build spec := Knowledge.beside (p.build spec)
  decide spec form prompts := Knowledge.beside (p.decide spec form prompts)
  write spec prompts := Knowledge.beside (p.write spec prompts)

/-- The services with a journal of what the store is asked. -/
def Services.journaled (sv : Services σ) : Services (σ × List Exchange) where
  settings := sv.settings
  models := sv.models.journaled
  store := sv.store.journaled
  channels := sv.channels.map fun (name, channel) =>
    (name, fun record ticket => Knowledge.beside (channel record ticket))
  reachBook := Knowledge.beside sv.reachBook
  bindings := Knowledge.beside sv.bindings

/-- An office in which the outside has a journal beside its state. -/
def Office.keeping (o : Office σ) (journal : List Exchange) : Office (σ × List Exchange) :=
  { world := o.world.keeping journal, book := o.book, outbox := o.outbox, workflows := o.workflows }

/-! ## Models -/

namespace Model

/-- A model that serves is found in both worlds. -/
theorem journals_obtain (p : Provider σ) (spec : Spec) :
    Journals (obtain p spec).run (obtain p.journaled spec).run (fun _ more => more = []) := by
  intro w journal
  obtain ⟨more, rfl, hrun⟩ := Journals.beside (p.build spec) w journal
  have hmodels : (w.keeping journal).models = w.models := rfl
  have hask : (Attempt.ask (p.journaled.build spec)).run.run (w.keeping journal) =
      (((Attempt.ask (p.build spec)).run.run w).1,
        ((Attempt.ask (p.build spec)).run.run w).2.keeping (journal ++ [])) := hrun
  refine ⟨[], rfl, ?_⟩
  -- Both worlds have the same models, so the twin builds one exactly when the other does.
  rw [run_obtain, run_obtain, hask, hmodels, List.append_nil]
  rcases w.models.find? spec.isSame with _ | built
  · rcases (Attempt.ask (p.build spec)).run.run w with ⟨fault | _, after⟩ <;> rfl
  · rfl

theorem journals_decide (p : Provider σ) (spec : Spec) (form : Form α) (prompts : List Prompt) :
    Journals (decide p spec form prompts) (decide p.journaled spec form prompts)
      (fun _ more => more = []) := by
  have hasked : Journals (do
      let model ← obtain p spec
      Attempt.ask (p.decide model form.name prompts) : Attempt σ Value).run (do
      let model ← obtain p.journaled spec
      Attempt.ask (p.journaled.decide model form.name prompts) :
        Attempt (σ × List Exchange) Value).run (fun _ more => more = []) := by
    refine (journals_obtain p spec).attempt_bind (fun _ _ h => h) ?_
    rintro model first rfl
    exact Journals.beside _
  refine hasked.bind ?_
  rintro answer first rfl
  exact Journals.pure _ rfl

end Model

/-! ## Duties -/

/-- The twin of a duty has its result and its effects, and adds entries to the journal such that they
and the result are as `P` says. -/
def Duty.Journals (duty : Duty σ α) (twin : Duty (σ × List Exchange) α)
    (P : α → List Exchange → Prop) : Prop :=
  ∀ o journal, ∃ more, P (duty.run o).1 more ∧
    twin.run (o.keeping journal) = ((duty.run o).1, (duty.run o).2.keeping (journal ++ more))

namespace Duty.Journals

variable {duty : Duty σ α} {twin : Duty (σ × List Exchange) α} {P : α → List Exchange → Prop}

theorem mono {Q : α → List Exchange → Prop} (h : Duty.Journals duty twin P)
    (hPQ : ∀ a more, P a more → Q a more) : Duty.Journals duty twin Q := by
  intro o journal
  obtain ⟨more, hP, hrun⟩ := h o journal
  exact ⟨more, hPQ _ _ hP, hrun⟩

theorem ofWork {work : Work σ α} {workTwin : Work (σ × List Exchange) α}
    (h : Helpdesk.Journals work workTwin P) :
    Duty.Journals (Duty.ofWork work) (Duty.ofWork workTwin) P := by
  intro o journal
  obtain ⟨more, hP, hrun⟩ := h o.world journal
  refine ⟨more, hP, ?_⟩
  show ((workTwin.run (o.world.keeping journal)).1,
    { o.keeping journal with world := (workTwin.run (o.world.keeping journal)).2 }) = _
  rw [hrun]
  rfl

theorem pure (a : α) (h : P a []) : Duty.Journals (σ := σ) (pure a) (pure a) P := by
  intro o journal
  refine ⟨[], h, ?_⟩
  rw [List.append_nil]
  rfl

/-- One duty after another: what the second adds stands behind what the first added. -/
theorem bind {next : α → Duty σ β} {nextTwin : α → Duty (σ × List Exchange) β}
    {Q : β → List Exchange → Prop} (h : Duty.Journals duty twin P)
    (hnext : ∀ a first, P a first →
      Duty.Journals (next a) (nextTwin a) fun b second => Q b (first ++ second)) :
    Duty.Journals (duty >>= next) (twin >>= nextTwin) Q := by
  intro o journal
  obtain ⟨first, hP, hrun⟩ := h o journal
  obtain ⟨second, hQ, hrunNext⟩ := hnext _ first hP (duty.run o).2 (journal ++ first)
  refine ⟨first ++ second, hQ, ?_⟩
  rw [Duty.run_bind, Duty.run_bind, hrun, hrunNext, List.append_assoc]

/-! ### Tasks -/

/-- One task after another; where the first fails the second is not begun. -/
theorem task_bind {task : Task σ α} {taskTwin : Task (σ × List Exchange) α}
    {next : α → Task σ β} {nextTwin : α → Task (σ × List Exchange) β}
    {P : Except Fault α → List Exchange → Prop} {Q : Except Fault β → List Exchange → Prop}
    (h : Duty.Journals task.run taskTwin.run P)
    (hfail : ∀ fault first, P (.error fault) first → Q (.error fault) first)
    (hnext : ∀ a first, P (.ok a) first →
      Duty.Journals (next a).run (nextTwin a).run fun b second => Q b (first ++ second)) :
    Duty.Journals (task >>= next).run (taskTwin >>= nextTwin).run Q := by
  show Duty.Journals (task.run >>= ExceptT.bindCont next) (taskTwin.run >>= ExceptT.bindCont nextTwin) Q
  refine h.bind ?_
  rintro (fault | a) first hP
  · refine Duty.Journals.pure _ ?_
    rw [List.append_nil]
    exact hfail fault first hP
  · exact hnext a first hP

theorem sure (h : Duty.Journals duty twin P) :
    Duty.Journals (Task.sure duty).run (Task.sure twin).run
      (fun result more => ∃ a, result = .ok a ∧ P a more) := by
  refine h.bind fun a first hP => Duty.Journals.pure _ ⟨a, rfl, ?_⟩
  rwa [List.append_nil]

theorem ofExcept (result : Except Fault α) :
    Duty.Journals (σ := σ) (Task.ofExcept result).run (Task.ofExcept result).run
      (fun found more => found = result ∧ more = []) :=
  Duty.Journals.pure result ⟨rfl, rfl⟩

theorem ofAttempt {attempt : Attempt σ α} {attemptTwin : Attempt (σ × List Exchange) α}
    {P : Except Fault α → List Exchange → Prop}
    (h : Helpdesk.Journals attempt.run attemptTwin.run P) :
    Duty.Journals (Task.ofAttempt attempt).run (Task.ofAttempt attemptTwin).run P :=
  ofWork h

theorem noted (n : Notice) (a : α) :
    Duty.Journals (σ := σ) (do Task.note n; return a : Task σ α).run
      (do Task.note n; return a : Task (σ × List Exchange) α).run
      (fun result more => result = .ok a ∧ more = []) := by
  refine (sure (ofWork (Helpdesk.Journals.note n))).task_bind ?_ ?_
  · rintro fault first ⟨_, h, -⟩
    cases h
  · rintro _ first ⟨_, -, rfl⟩
    exact Duty.Journals.pure _ ⟨rfl, rfl⟩

/-- A task whose twin adds nothing stands in front of another one. -/
theorem silent_bind {task : Task σ α} {taskTwin : Task (σ × List Exchange) α}
    {next : α → Task σ β} {nextTwin : α → Task (σ × List Exchange) β}
    {Q : Except Fault β → List Exchange → Prop}
    (h : Duty.Journals task.run taskTwin.run fun _ more => more = [])
    (hfail : ∀ fault, Q (.error fault) [])
    (hnext : ∀ a, Duty.Journals (next a).run (nextTwin a).run Q) :
    Duty.Journals (task >>= next).run (taskTwin >>= nextTwin).run Q := by
  refine h.task_bind ?_ ?_
  · rintro fault first rfl
    exact hfail fault
  · rintro a first rfl
    exact hnext a

theorem fill (template : String) (bag : Entries) :
    Duty.Journals (σ := σ) (Task.fill template bag).run (Task.fill template bag).run
      (fun _ more => more = []) := by
  unfold Task.fill
  rcases Template.render (some template) bag with text | text | _
  · exact Duty.Journals.pure _ rfl
  · exact (noted _ text).mono fun _ _ h => h.2
  · exact Duty.Journals.pure _ rfl

end Duty.Journals

/-! ## Steps that decide -/

namespace Workflow

open Conversation

theorem journals_decisionPrompts (systemPrompt userPrompt : String) (bag : Entries) (s : State)
    (ofTicket : Bool) :
    Duty.Journals (σ := σ) (decisionPrompts systemPrompt userPrompt bag s ofTicket).run
      (decisionPrompts systemPrompt userPrompt bag s ofTicket).run (fun _ more => more = []) := by
  unfold decisionPrompts
  refine (Duty.Journals.fill _ _).silent_bind (fun _ => rfl) fun instructions => ?_
  refine (Duty.Journals.fill _ _).silent_bind (fun _ => rfl) fun prompt => ?_
  refine ((Duty.Journals.ofExcept _).mono fun _ _ h => h.2).silent_bind (fun _ => rfl) fun parts => ?_
  exact Duty.Journals.pure _ rfl

/-- A step that puts a question to its model goes on from the decision, and so does its twin. -/
theorem journals_question (sv : Services σ) (systemPrompt userPrompt : String) (bag : Entries)
    (s : State) (ofTicket : Bool) (llm : Option ModelChoice) (form : Model.Form α)
    {next : Except Fault α → Task σ β} {nextTwin : Except Fault α → Task (σ × List Exchange) β}
    {Q : Except Fault β → List Exchange → Prop} (hfail : ∀ fault, Q (.error fault) [])
    (hnext : ∀ decided, Duty.Journals (next decided).run (nextTwin decided).run Q) :
    Duty.Journals (do
        let prompts ← decisionPrompts systemPrompt userPrompt bag s ofTicket
        next (← decide sv llm form prompts) : Task σ β).run (do
        let prompts ← decisionPrompts systemPrompt userPrompt bag s ofTicket
        nextTwin (← decide sv.journaled llm form prompts) : Task (σ × List Exchange) β).run Q := by
  refine (journals_decisionPrompts _ _ _ _ _).silent_bind hfail fun prompts => ?_
  have hdecide : Duty.Journals (decide sv llm form prompts).run
      (decide sv.journaled llm form prompts).run (fun _ more => more = []) := by
    refine (Duty.Journals.sure (.ofWork (Model.journals_decide sv.models _ form prompts))).mono ?_
    rintro _ more ⟨_, -, rfl⟩
    rfl
  exact hdecide.silent_bind hfail hnext

end Workflow

end Helpdesk
