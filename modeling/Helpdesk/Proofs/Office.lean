import Helpdesk.Office
import Helpdesk.Proofs.World

/-!
# Helpdesk.Proofs.Office — how tasks run.

A task is a function from an office to a result and an office; a failure keeps what was done before
it. One equation for each way of putting tasks together is all that later proofs unfold. With a book
that can always be reached, work in the book asks nobody, so it is a function of the book alone.
-/
namespace Helpdesk

variable {σ α β : Type}

namespace Duty

theorem run_bind (duty : Duty σ α) (next : α → Duty σ β) (o : Office σ) :
    (duty >>= next).run o = (next (duty.run o).1).run (duty.run o).2 :=
  rfl

/-- A notice changes the world only. -/
theorem run_note (n : Notice) (o : Office σ) :
    (note n).run o = ((), { o with world := ((Work.note n).run o.world).2 }) :=
  rfl

theorem run_outcome (task : Task σ α) (o : Office σ) : (outcome task).run o = task.run.run o :=
  rfl

end Duty

namespace Task

theorem run_pure (a : α) (o : Office σ) : (pure a : Task σ α).run.run o = (.ok a, o) :=
  rfl

theorem run_throw (fault : Fault) (o : Office σ) :
    (throw fault : Task σ α).run.run o = (.error fault, o) :=
  rfl

theorem run_bind (task : Task σ α) (next : α → Task σ β) (o : Office σ) :
    (task >>= next).run.run o =
      match task.run.run o with
      | (.ok a, after) => (next a).run.run after
      | (.error fault, after) => (.error fault, after) := by
  show (match task.run.run o with
    | (result, after) => (ExceptT.bindCont next result).run after) = _
  rcases task.run.run o with ⟨fault | a, after⟩ <;> rfl

/-- A task that has a result had one at each of its parts. -/
theorem run_bind_eq_ok_iff {task : Task σ α} {next : α → Task σ β} {o last : Office σ} {b : β} :
    (task >>= next).run.run o = (.ok b, last) ↔
      ∃ a after, task.run.run o = (.ok a, after) ∧ (next a).run.run after = (.ok b, last) := by
  rw [run_bind]
  rcases task.run.run o with ⟨fault | a, after⟩
  · exact ⟨fun h => (by cases h), fun ⟨_, _, h, _⟩ => (by cases h)⟩
  · exact ⟨fun h => ⟨a, after, rfl, h⟩, fun ⟨_, _, hsame, h⟩ => (by cases hsame; exact h)⟩

theorem run_get (o : Office σ) : (get : Task σ (Office σ)).run.run o = (.ok o, o) :=
  rfl

theorem run_sure (duty : Duty σ α) (o : Office σ) :
    (sure duty).run.run o = (.ok (duty.run o).1, (duty.run o).2) :=
  rfl

theorem run_ofExcept (result : Except Fault α) (o : Office σ) :
    (ofExcept result : Task σ α).run.run o = (result, o) :=
  rfl

/-- An attempt on the world changes nothing else. -/
theorem run_ofAttempt (attempt : Attempt σ α) (o : Office σ) :
    (ofAttempt attempt).run.run o =
      ((attempt.run.run o.world).1, { o with world := (attempt.run.run o.world).2 }) :=
  rfl

/-- Work in a book that cannot be reached, or that does not go well, changes the world only. -/
theorem run_inBook_cases (sv : Services σ) (change : Book → Except Fault (α × Book))
    (o : Office σ) :
    (∃ fault world, (inBook sv change).run.run o = (.error fault, { o with world := world })) ∨
    ∃ a book world, change o.book = .ok (a, book) ∧
      (inBook sv change).run.run o = (.ok a, { o with world := world, book := book }) := by
  unfold inBook
  rw [run_bind, run_ofAttempt]
  rcases (Attempt.ask sv.reachBook).run.run o.world with ⟨fault | _, world⟩
  · exact Or.inl ⟨fault, world, rfl⟩
  · rcases hchange : change o.book with fault | ⟨a, book⟩
    · refine Or.inl ⟨fault, world, ?_⟩
      simp only [run_bind, run_get, run_ofExcept, hchange]
    · refine Or.inr ⟨a, book, world, rfl, ?_⟩
      simp only [run_bind, run_get, run_ofExcept, hchange]
      rfl

/-- Work in a book that is at hand. -/
theorem run_inBook {sv : Services σ} (hbook : sv.reachBook = pure ())
    (change : Book → Except Fault (α × Book)) (o : Office σ) :
    (inBook sv change).run.run o =
      match change o.book with
      | .ok (a, book) => (.ok a, { o with book := book })
      | .error fault => (.error fault, o) := by
  have hreach : (ofAttempt (Attempt.ask sv.reachBook)).run.run o = (.ok (), o) := by
    rw [hbook]
    rfl
  unfold inBook
  rw [run_bind, hreach]
  simp only [run_bind, run_get, run_ofExcept]
  rcases change o.book with fault | ⟨a, book⟩ <;> rfl

/-- A look into a book that is at hand changes nothing. -/
theorem run_lookUp {sv : Services σ} (hbook : sv.reachBook = pure ()) (view : Book → α)
    (o : Office σ) : (lookUp sv view).run.run o = (.ok (view o.book), o) :=
  run_inBook hbook _ o

end Task

/-- An office in which operators were told more. -/
def Office.told (o : Office σ) (more : List Notice) : Office σ :=
  { o with world := o.world.told more }

theorem Office.told_nil (o : Office σ) : o.told [] = o := by
  simp [Office.told, World.told]

theorem Office.told_told (o : Office σ) (first second : List Notice) :
    (o.told first).told second = o.told (first ++ second) := by
  simp [Office.told, World.told, List.append_assoc]

end Helpdesk
