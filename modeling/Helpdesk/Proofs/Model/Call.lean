import Helpdesk.Model.Call
import Helpdesk.Proofs.World

/-!
# Helpdesk.Proofs.Model.Call — when a model has decided.

A model is asked in the same way whatever operators were told before. What counts as a decision is a
record of the right form and nothing else, and all the ways to fail end in the same kind of fault.
-/
namespace Helpdesk.Model

variable {σ α β : Type}

/-- A model is built when there is none that serves, and then it is kept. -/
theorem run_obtain (p : Provider σ) (spec : Spec) (w : World σ) :
    (obtain p spec).run.run w =
      match w.models.find? spec.isSame with
      | some built => (.ok built, w)
      | none =>
        match (Attempt.ask (p.build spec)).run.run w with
        | (.ok _, after) => (.ok spec, { after with models := after.models ++ [spec] })
        | (.error fault, after) => (.error fault, after) := by
  have hget : (get : Attempt σ (World σ)).run.run w = (.ok w, w) := rfl
  unfold obtain
  rw [Attempt.run_bind, hget]
  simp only
  rcases w.models.find? spec.isSame with _ | built
  · rw [Attempt.run_bind]
    rcases (Attempt.ask (p.build spec)).run.run w with ⟨fault | _, after⟩ <;> rfl
  · rfl

theorem discreet_obtain (p : Provider σ) (spec : Spec) : Discreet (obtain p spec).run := by
  intro w more
  have hask := Discreet.ask (p.build spec) w more
  have hmodels : (w.told more).models = w.models := rfl
  rw [run_obtain, run_obtain, hask, hmodels]
  rcases w.models.find? spec.isSame with _ | built
  · rcases (Attempt.ask (p.build spec)).run.run w with ⟨fault | _, after⟩ <;> rfl
  · rfl

theorem discreet_decide (p : Provider σ) (spec : Spec) (form : Form α) (prompts : List Prompt) :
    Discreet (decide p spec form prompts) := by
  have hasked : Discreet (do
      let model ← obtain p spec
      Attempt.ask (p.decide model form.name prompts) : Attempt σ Value).run :=
    Discreet.attempt_bind (discreet_obtain p spec) fun model => Discreet.ask _
  exact Discreet.bind hasked fun answer => Discreet.pure _

theorem discreet_write (p : Provider σ) (spec : Spec) (prompts : List Prompt) :
    Discreet (write p spec prompts).run := by
  refine Discreet.attempt_bind (discreet_obtain p spec) fun model => ?_
  exact Discreet.attempt_bind (Discreet.ask _) fun answer => Discreet.pure _

/-- Models leave a part of the outside as it is when they are built and when they decide. -/
structure Provider.Spares (p : Provider σ) (view : σ → β) : Prop where
  build : ∀ spec s, view ((p.build spec).run.run s).2 = view s
  decide : ∀ spec form prompts s, view ((p.decide spec form prompts).run.run s).2 = view s

namespace Provider.Spares

variable {p : Provider σ} {view : σ → β}

theorem preserves_obtain (h : p.Spares view) (seen : β) (spec : Spec) :
    Preserves (fun s => view s = seen) (obtain p spec).run := by
  intro w hw
  have hbuilt : view ((Attempt.ask (p.build spec)).run.run w).2.outside = seen :=
    (h.build spec w.outside).trans hw
  rw [run_obtain]
  rcases w.models.find? spec.isSame with _ | built
  · rcases hask : (Attempt.ask (p.build spec)).run.run w with ⟨fault | _, after⟩
    all_goals
      rw [hask] at hbuilt
      exact hbuilt
  · exact hw

theorem preserves_decide (h : p.Spares view) (seen : β) (spec : Spec) (form : Form α)
    (prompts : List Prompt) :
    Preserves (fun s => view s = seen) (Model.decide p spec form prompts) := by
  have hasked : Preserves (fun s => view s = seen) (do
      let model ← obtain p spec
      Attempt.ask (p.decide model form.name prompts) : Attempt σ Value).run :=
    (h.preserves_obtain seen spec).attempt_bind fun model =>
      Preserves.observe fun s hs => (h.decide model form.name prompts s).trans hs
  exact hasked.bind fun answer => Preserves.pure _

end Provider.Spares

/-- Anything but a record of the form is a failed decision, and so is a model that could not be built
or did not answer. -/
theorem read_eq_ok_iff (form : Form α) (limit : Float) (answer : Except Fault Value) (a : α) :
    read form limit answer = .ok a ↔
      ∃ entries, answer = .ok (.object entries) ∧ form.shape (.object entries) = .valid a := by
  rcases answer with fault | v
  · cases fault <;> simp [read]
  · cases v
    case object entries =>
      rcases hshape : form.shape (.object entries) with b | issues <;> simp [read, hshape]
    all_goals simp [read]

end Helpdesk.Model
