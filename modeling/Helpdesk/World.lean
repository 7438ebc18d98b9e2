import Helpdesk.Fault
import Helpdesk.Model.Spec
import Helpdesk.Notice

/-!
# Helpdesk.World — questions to others, and work that asks them.

Models, stores, chats and files are other people's programs. The engine knows nothing about them but
what they answer, so they are a state `σ` of any type: a question is answered or fails, and either
way the state may be another one afterwards. That leaves open whether the same question is answered
the same way twice, and every statement about the engine has to hold whatever they do.

Work asks questions and leaves notices. Two kinds are told apart by their types: work that always
has a result, and an attempt, which may fail.
-/
namespace Helpdesk

/-- A question to the outside. -/
abbrev Ask (σ α : Type) := ExceptT Fault (StateM σ) α

/-- The outside, the models that were built so far, and what operators were told. -/
structure World (σ : Type) where
  outside : σ
  models : List Model.Spec
  notices : List Notice

/-- Work that always has a result. -/
abbrev Work (σ α : Type) := StateM (World σ) α

/-- Work that may fail. -/
abbrev Attempt (σ α : Type) := ExceptT Fault (StateM (World σ)) α

namespace Work

variable {σ α : Type}

/-- Leaves a notice. -/
def note (n : Notice) : Work σ Unit :=
  modify fun w => { w with notices := w.notices ++ [n] }

/-- Leaves notices. -/
def noteAll (notices : List Notice) : Work σ Unit :=
  modify fun w => { w with notices := w.notices ++ notices }

/-- Asks a question that cannot fail. -/
def observe (question : StateM σ α) : Work σ α := do
  let w ← get
  let (a, outside) := question.run w.outside
  set { w with outside := outside }
  return a

/-- Asks a question, and takes a failure as an answer. -/
def ask (question : Ask σ α) : Work σ (Except Fault α) :=
  observe question.run

/-- Work that may fail, with its failure as a result. -/
def outcome (attempt : Attempt σ α) : Work σ (Except Fault α) :=
  attempt.run

end Work

namespace Attempt

variable {σ α : Type}

/-- Work whose result may be a failure. -/
def ofWork (work : Work σ (Except Fault α)) : Attempt σ α :=
  ExceptT.mk work

/-- A result that may be a failure. -/
def ofExcept (result : Except Fault α) : Attempt σ α :=
  ofWork (pure result)

/-- A result of reading free-form data. -/
def ofMisfit (result : Except Misfit α) : Attempt σ α :=
  ofExcept (Fault.ofMisfit result)

/-- Work that does not fail. -/
def sure (work : Work σ α) : Attempt σ α :=
  ExceptT.lift work

/-- Asks a question, and fails when it does. -/
def ask (question : Ask σ α) : Attempt σ α :=
  ofWork (Work.ask question)

/-- Leaves a notice. -/
def note (n : Notice) : Attempt σ Unit :=
  sure (Work.note n)

end Attempt

end Helpdesk
