import Helpdesk.Knowledge.Store
import Helpdesk.Proofs.World

/-!
# Helpdesk.Proofs.Knowledge.Journal — a store that writes down what it is asked.

What a piece of work asks of a store cannot be read off its result. So the store is given a journal:
next to its own state it keeps every exchange in order, together with the answer, and answers as
before. A work and its journaled twin have the same result and leave the same world behind, and what
the twin adds to the journal is what the work asked. `Journals` says so of one work, and it is proved of
a large work from its parts.
-/
namespace Helpdesk.Knowledge

variable {σ α β : Type}

/-- One question to a store, with its answer. -/
inductive Exchange where
  | searched (query : String) (count : Int) (filter : Option Filter)
      (answer : Except Fault (List Hit))
  | lookedAround (sourceType : String) (sourceId : Option String) (number window : Int)
      (answer : Except Fault (List Hit))
  | counted (keys : List String) (context : Entries) (answer : Except Fault Unit)
  /-- Anything else that a store can be asked. -/
  | other

/-- Asks a question and writes it down with its answer. -/
def recording (question : Ask σ α) (entry : Except Fault α → Exchange) :
    Ask (σ × List Exchange) α :=
  ExceptT.mk fun s =>
    let (answer, after) := question.run.run s.1
    (answer, after, s.2 ++ [entry answer])

/-- Asks a question that is not written down. -/
def beside (question : Ask σ α) : Ask (σ × List Exchange) α :=
  ExceptT.mk fun s =>
    let (answer, after) := question.run.run s.1
    (answer, after, s.2)

/-- The store with a journal beside its state. -/
def Store.journaled (store : Store σ) : Store (σ × List Exchange) where
  search query count filter :=
    recording (store.search query count filter) (.searched query count filter)
  neighbors sourceType sourceId number window :=
    recording (store.neighbors sourceType sourceId number window)
      (.lookedAround sourceType sourceId number window)
  countUse keys context := recording (store.countUse keys context) (.counted keys context)
  ofSource sourceType sourceId := recording (store.ofSource sourceType sourceId) fun _ => .other
  upsert chunks := recording (store.upsert chunks) fun _ => .other
  deleteSource sourceType sourceId :=
    recording (store.deleteSource sourceType sourceId) fun _ => .other
  health := recording store.health fun _ => .other
  clock := fun s => let (time, after) := store.clock.run s.1; (time, after, s.2)

end Helpdesk.Knowledge

namespace Helpdesk

open Knowledge

variable {σ α β : Type}

/-- A world in which the outside has a journal beside its state. -/
def World.keeping (w : World σ) (journal : List Exchange) : World (σ × List Exchange) :=
  { outside := (w.outside, journal), models := w.models, notices := w.notices }

/-- The twin of a work has its result and its effects, and adds entries to the journal such that
they and the result are as `P` says. -/
def Journals (work : Work σ α) (twin : Work (σ × List Exchange) α) (P : α → List Exchange → Prop) :
    Prop :=
  ∀ w journal, ∃ more, P (work.run w).1 more ∧
    twin.run (w.keeping journal) = ((work.run w).1, (work.run w).2.keeping (journal ++ more))

namespace Journals

variable {work : Work σ α} {twin : Work (σ × List Exchange) α}
  {P : α → List Exchange → Prop}

theorem mono {Q : α → List Exchange → Prop} (h : Journals work twin P)
    (hPQ : ∀ a more, P a more → Q a more) : Journals work twin Q := by
  intro w journal
  obtain ⟨more, hP, hrun⟩ := h w journal
  exact ⟨more, hPQ _ _ hP, hrun⟩

/-- What is true of every result can be said of it besides. -/
theorem and_result {R : α → Prop} (h : Journals work twin P) (hR : ∀ w, R (work.run w).1) :
    Journals work twin fun a more => P a more ∧ R a := by
  intro w journal
  obtain ⟨more, hP, hrun⟩ := h w journal
  exact ⟨more, ⟨hP, hR w⟩, hrun⟩

theorem pure (a : α) (h : P a []) : Journals (σ := σ) (pure a) (pure a) P := by
  intro w journal
  refine ⟨[], h, ?_⟩
  rw [List.append_nil]
  rfl

/-- One work after another: what the second adds stands behind what the first added. -/
theorem bind {next : α → Work σ β} {nextTwin : α → Work (σ × List Exchange) β}
    {Q : β → List Exchange → Prop} (hwork : Journals work twin P)
    (hnext : ∀ a first, P a first →
      Journals (next a) (nextTwin a) fun b second => Q b (first ++ second)) :
    Journals (work >>= next) (twin >>= nextTwin) Q := by
  intro w journal
  obtain ⟨first, hP, hrun⟩ := hwork w journal
  obtain ⟨second, hQ, hrunNext⟩ :=
    hnext (work.run w).1 first hP (work.run w).2 (journal ++ first)
  refine ⟨first ++ second, hQ, ?_⟩
  show (nextTwin (twin.run (w.keeping journal)).1).run (twin.run (w.keeping journal)).2 = _
  rw [hrun, hrunNext, List.append_assoc]
  rfl

theorem note (n : Notice) :
    Journals (σ := σ) (Work.note n) (Work.note n) (fun _ more => more = []) := by
  intro w journal
  refine ⟨[], rfl, ?_⟩
  rw [List.append_nil]
  rfl

/-- A question is written down. -/
theorem ask (question : Ask σ α) (entry : Except Fault α → Exchange) :
    Journals (Work.ask question) (Work.ask (recording question entry))
      (fun answer more => more = [entry answer]) := by
  intro w journal
  exact ⟨_, rfl, rfl⟩

/-- A question beside the journal leaves it as it is. -/
theorem beside (question : Ask σ α) :
    Journals (Work.ask question) (Work.ask (Knowledge.beside question)) (fun _ more => more = []) := by
  intro w journal
  refine ⟨[], rfl, ?_⟩
  rw [List.append_nil]
  rfl

/-- The clock is not written down. -/
theorem clock (store : Store σ) :
    Journals (Work.observe store.clock) (Work.observe store.journaled.clock)
      (fun _ more => more = []) := by
  intro w journal
  refine ⟨[], rfl, ?_⟩
  rw [List.append_nil]
  rfl

/-! ### Attempts -/

theorem sure (h : Journals work twin P) :
    Journals (Attempt.sure work).run (Attempt.sure twin).run
      (fun result more => ∃ a, result = .ok a ∧ P a more) := by
  rw [Attempt.run_sure, Attempt.run_sure]
  refine h.bind fun a first hP => Journals.pure _ ⟨a, rfl, ?_⟩
  rwa [List.append_nil]

theorem sure_bind {next : α → Attempt σ β} {nextTwin : α → Attempt (σ × List Exchange) β}
    {Q : Except Fault β → List Exchange → Prop} (h : Journals work twin P)
    (hnext : ∀ a first, P a first →
      Journals (next a).run (nextTwin a).run fun b second => Q b (first ++ second)) :
    Journals (Attempt.sure work >>= next).run (Attempt.sure twin >>= nextTwin).run Q := by
  rw [Attempt.run_sure_bind, Attempt.run_sure_bind]
  exact h.bind hnext

/-- One attempt after another; where the first fails the second is not made. -/
theorem attempt_bind {attempt : Attempt σ α} {attemptTwin : Attempt (σ × List Exchange) α}
    {next : α → Attempt σ β} {nextTwin : α → Attempt (σ × List Exchange) β}
    {P : Except Fault α → List Exchange → Prop} {Q : Except Fault β → List Exchange → Prop}
    (h : Journals attempt.run attemptTwin.run P)
    (hfail : ∀ fault first, P (.error fault) first → Q (.error fault) first)
    (hnext : ∀ a first, P (.ok a) first →
      Journals (next a).run (nextTwin a).run fun b second => Q b (first ++ second)) :
    Journals (attempt >>= next).run (attemptTwin >>= nextTwin).run Q := by
  intro w journal
  obtain ⟨first, hP, hrun⟩ := h w journal
  rw [Attempt.run_bind, Attempt.run_bind, hrun]
  rcases hwork : attempt.run.run w with ⟨fault | a, after⟩
  all_goals rw [hwork] at hP
  · exact ⟨first, hfail fault first hP, rfl⟩
  · obtain ⟨second, hQ, hrunNext⟩ := hnext a first hP after (journal ++ first)
    refine ⟨first ++ second, hQ, ?_⟩
    rw [← List.append_assoc]
    exact hrunNext

/-- One attempt after another, when the first does not fail. -/
theorem ok_bind {attempt : Attempt σ α} {attemptTwin : Attempt (σ × List Exchange) α}
    {next : α → Attempt σ β} {nextTwin : α → Attempt (σ × List Exchange) β}
    {Q : Except Fault β → List Exchange → Prop}
    (h : Journals attempt.run attemptTwin.run fun result more => ∃ a, result = .ok a ∧ P a more)
    (hnext : ∀ a first, P a first →
      Journals (next a).run (nextTwin a).run fun b second => Q b (first ++ second)) :
    Journals (attempt >>= next).run (attemptTwin >>= nextTwin).run Q := by
  refine h.attempt_bind ?_ ?_
  · rintro fault first ⟨a, ha, -⟩
    cases ha
  · rintro a first ⟨_, ha, hP⟩
    cases ha
    exact hnext a first hP

end Journals

end Helpdesk
