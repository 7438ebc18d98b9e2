import Helpdesk.World

/-!
# Helpdesk.Proofs.World — how attempts run, and what work leaves outside.

An attempt is work whose result may be a failure. One equation for each way of putting attempts
together is all that later proofs unfold. What is true of the outside stays true through a piece of
work when every question in it keeps it so. Most work does not look at what operators were told, so it
goes the same way whatever stands in the log.
-/
namespace Helpdesk

variable {σ α β : Type}

namespace Attempt

theorem run_pure (a : α) : (pure a : Attempt σ α).run = (pure (.ok a) : Work σ (Except Fault α)) :=
  rfl

theorem run_throw (fault : Fault) :
    (throw fault : Attempt σ α).run = (pure (.error fault) : Work σ (Except Fault α)) :=
  rfl

theorem run_sure (work : Work σ α) : (sure work).run = work >>= fun a => pure (.ok a) :=
  rfl

/-- Work that does not fail is done before what comes next. -/
theorem run_sure_bind (work : Work σ α) (next : α → Attempt σ β) :
    (sure work >>= next).run = work >>= fun a => (next a).run :=
  rfl

/-- A failure ends an attempt and keeps what was done before it. -/
theorem run_bind (attempt : Attempt σ α) (next : α → Attempt σ β) (w : World σ) :
    (attempt >>= next).run.run w =
      match attempt.run.run w with
      | (.ok a, after) => (next a).run.run after
      | (.error fault, after) => (.error fault, after) := by
  show (ExceptT.bindCont next (attempt.run.run w).1).run (attempt.run.run w).2 = _
  rcases attempt.run.run w with ⟨fault | a, after⟩ <;> rfl

theorem run_bind_eq_ok_iff {attempt : Attempt σ α} {next : α → Attempt σ β} {w last : World σ}
    {b : β} : (attempt >>= next).run.run w = (.ok b, last) ↔
      ∃ a after, attempt.run.run w = (.ok a, after) ∧ (next a).run.run after = (.ok b, last) := by
  rw [run_bind]
  rcases attempt.run.run w with ⟨fault | a, after⟩
  · exact ⟨fun h => (by cases h), fun ⟨_, _, h, _⟩ => (by cases h)⟩
  · exact ⟨fun h => ⟨a, after, rfl, h⟩, fun ⟨_, _, hsame, h⟩ => (by cases hsame; exact h)⟩

/-- Attempts that agree in their results do so after the same attempt. -/
theorem fst_run_bind (attempt : Attempt σ α) {next last : α → Attempt σ β}
    (h : ∀ a w, ((next a).run.run w).1 = ((last a).run.run w).1) (w : World σ) :
    ((attempt >>= next).run.run w).1 = ((attempt >>= last).run.run w).1 := by
  rw [run_bind, run_bind]
  rcases attempt.run.run w with ⟨fault | a, after⟩
  · rfl
  · exact h a after

end Attempt

/-- A work keeps something true of the outside. -/
def Preserves (P : σ → Prop) (work : Work σ α) : Prop :=
  ∀ w, P w.outside → P (work.run w).2.outside

namespace Preserves

variable {P : σ → Prop} {work : Work σ α}

theorem pure (a : α) : Preserves P (pure a) :=
  fun _ h => h

theorem note (n : Notice) : Preserves P (Work.note n) :=
  fun _ h => h

theorem bind {next : α → Work σ β} (h : Preserves P work) (hnext : ∀ a, Preserves P (next a)) :
    Preserves P (work >>= next) :=
  fun w hw => hnext _ _ (h w hw)

/-- A question keeps what every answer to it keeps. -/
theorem observe {question : StateM σ α} (h : ∀ s, P s → P (question.run s).2) :
    Preserves P (Work.observe question) :=
  fun w hw => h w.outside hw

theorem mapM {f : α → Work σ β} (h : ∀ a, Preserves P (f a)) (items : List α) :
    Preserves P (items.mapM f) := by
  induction items with
  | nil =>
    rw [List.mapM_nil]
    exact pure []
  | cons a items ih =>
    rw [List.mapM_cons]
    exact (h a).bind fun b => ih.bind fun bs => pure (b :: bs)

theorem sure (h : Preserves P work) : Preserves P (Attempt.sure work).run := by
  rw [Attempt.run_sure]
  exact h.bind fun a => pure (Except.ok a)

theorem attempt_bind {attempt : Attempt σ α} {next : α → Attempt σ β}
    (h : Preserves P attempt.run) (hnext : ∀ a, Preserves P (next a).run) :
    Preserves P (attempt >>= next).run := by
  intro w hw
  have hfirst := h w hw
  have hrun := Attempt.run_bind attempt next w
  rcases hattempt : attempt.run.run w with ⟨fault | a, after⟩
  · rw [hattempt] at hrun hfirst
    rw [hrun]
    exact hfirst
  · rw [hattempt] at hrun hfirst
    rw [hrun]
    exact hnext a after hfirst

end Preserves

/-- A world in which operators were told more. -/
def World.told (w : World σ) (more : List Notice) : World σ :=
  { w with notices := w.notices ++ more }

/-- A piece of work that neither reads what operators were told nor tells them anything. -/
def Discreet (work : Work σ α) : Prop :=
  ∀ w more, work.run (w.told more) = ((work.run w).1, (work.run w).2.told more)

namespace Discreet

variable {work : Work σ α}

theorem pure (a : α) : Discreet (pure a : Work σ α) :=
  fun _ _ => rfl

theorem bind {next : α → Work σ β} (h : Discreet work) (hnext : ∀ a, Discreet (next a)) :
    Discreet (work >>= next) := by
  intro w more
  show (next (work.run (w.told more)).1).run (work.run (w.told more)).2 = _
  rw [h w more]
  exact hnext _ _ more

theorem attempt_bind {attempt : Attempt σ α} {next : α → Attempt σ β} (h : Discreet attempt.run)
    (hnext : ∀ a, Discreet (next a).run) : Discreet (attempt >>= next).run := by
  show Discreet (attempt.run >>= ExceptT.bindCont next)
  refine Discreet.bind h ?_
  rintro (fault | a)
  · exact pure (Except.error fault)
  · exact hnext a

theorem ask (question : Ask σ α) : Discreet (Attempt.ask question).run :=
  fun _ _ => rfl

end Discreet

end Helpdesk
