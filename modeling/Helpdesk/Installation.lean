import Helpdesk.Knowledge.Backend
import Helpdesk.Workflow.Bindings
import Helpdesk.Workflow.Cache

/-!
# Helpdesk.Installation — what an installation begins with.

An installation is set up from its settings and two files, one with tickets and one with bindings.
The tickets are read first, then the store is chosen, and then the workflows are compiled.
-/
namespace Helpdesk

structure Installation where
  backend : Knowledge.Backend
  book : Book
  workflows : Workflow.Snapshot

namespace Installation

/-- Sets up an installation from files that may be missing. -/
def ofFiles (s : Settings) (tickets bindings : Option String) :
    List Notice × Except Fault Installation :=
  let (ofTickets, book) := Book.ofFile tickets
  match book, Knowledge.Backend.ofSettings s with
  | .error fault, _ => (ofTickets, .error fault)
  | .ok _, .error fault => (ofTickets, .error fault)
  | .ok book, .ok backend =>
    match Workflow.Bindings.ofFile bindings with
    | (ofBindings, .error fault) => (ofTickets ++ ofBindings, .error fault)
    | (ofBindings, .ok bindings) =>
      let (ofWorkflows, workflows) := Workflow.Snapshot.build s.workflowRecursionLimit bindings
      (ofTickets ++ ofBindings ++ ofWorkflows, .ok ⟨backend, book, workflows⟩)

end Installation

end Helpdesk
