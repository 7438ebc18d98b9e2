import Helpdesk.Book
import Helpdesk.Conversation.Bag
import Helpdesk.Handoff.Channel
import Helpdesk.Handoff.Outbox
import Helpdesk.Knowledge.Retrieval
import Helpdesk.Model.Call
import Helpdesk.Template
import Helpdesk.Workflow.Cache

/-!
# Helpdesk.Office — everything that answering a ticket works with.

The office holds what the engine itself keeps: the book, the outbox and the compiled workflows, next
to the world outside. Its services say how the outside is reached. The book can be out of reach too,
so every look into it and every entry in it first asks for it; what is not reached stays as it was.
-/
namespace Helpdesk

/-- How an installation is set up, and how the outside is reached. -/
structure Services (σ : Type) where
  settings : Settings
  models : Model.Provider σ
  store : Knowledge.Store σ
  channels : Keyed (Handoff.Channel σ)
  /-- Asks for the book. -/
  reachBook : Ask σ Unit
  /-- The active bindings of scopes. -/
  bindings : Ask σ (List Workflow.Binding)

structure Office (σ : Type) where
  world : World σ
  book : Book
  outbox : Handoff.Outbox
  workflows : Workflow.Snapshot

/-- Work in an office that always has a result. -/
abbrev Duty (σ α : Type) := StateM (Office σ) α

/-- Work in an office that may fail. -/
abbrev Task (σ α : Type) := ExceptT Fault (StateM (Office σ)) α

namespace Duty

variable {σ α : Type}

/-- Work on the world. -/
def ofWork (work : Work σ α) : Duty σ α := do
  let o ← get
  let (a, world) := work.run o.world
  set { o with world := world }
  return a

/-- Leaves a notice. -/
def note (n : Notice) : Duty σ Unit :=
  ofWork (Work.note n)

/-- Leaves notices. -/
def noteAll (notices : List Notice) : Duty σ Unit :=
  ofWork (Work.noteAll notices)

/-- A task, with its failure as a result. -/
def outcome (task : Task σ α) : Duty σ (Except Fault α) :=
  task.run

end Duty

namespace Task

variable {σ α : Type}

/-- A duty as a task. -/
def sure (duty : Duty σ α) : Task σ α :=
  ExceptT.lift duty

/-- A duty whose result may be a failure. -/
def ofDuty (duty : Duty σ (Except Fault α)) : Task σ α :=
  ExceptT.mk duty

/-- A result that may be a failure. -/
def ofExcept (result : Except Fault α) : Task σ α :=
  ofDuty (pure result)

/-- A result of reading free-form data. -/
def ofMisfit (result : Except Misfit α) : Task σ α :=
  ofExcept (Fault.ofMisfit result)

/-- Work on the world. -/
def ofWork (work : Work σ α) : Task σ α :=
  sure (Duty.ofWork work)

/-- An attempt on the world. -/
def ofAttempt (attempt : Attempt σ α) : Task σ α :=
  ofDuty (Duty.ofWork attempt.run)

/-- Leaves a notice. -/
def note (n : Notice) : Task σ Unit :=
  sure (Duty.note n)

/-- Does something in the book, when it can be reached. -/
def inBook (sv : Services σ) (change : Book → Except Fault (α × Book)) : Task σ α := do
  ofAttempt (Attempt.ask sv.reachBook)
  let (a, book) ← ofExcept (change (← get).book)
  modify fun o => { o with book := book }
  return a

/-- Looks something up in the book. -/
def lookUp (sv : Services σ) (view : Book → α) : Task σ α :=
  inBook sv fun b => .ok (view b, b)

/-- Fills in a template; one with a mistake in it is noted and stands for itself. -/
def fill (template : String) (bag : Entries) : Task σ String := do
  match Template.render (some template) bag with
  | .rendered text => return text
  | .asWritten text =>
    note (.warning "template_render_failed" [])
    return text
  | .refused => throw .reservedVariable

end Task

end Helpdesk
