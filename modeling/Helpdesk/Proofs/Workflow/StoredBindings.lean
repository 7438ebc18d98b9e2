import Helpdesk.Proofs.Json.RoundTrip
import Helpdesk.Proofs.Validation
import Helpdesk.Proofs.Workflow.Cache
import Helpdesk.Workflow.Bindings

/-!
# Helpdesk.Proofs.Workflow.StoredBindings — bindings of a file, put into use.

A file is read as a whole: it is `Legible` when all its workflows have identifiers and all its bindings
can be read, whether they are active or not. A refresh from a legible file binds the scope of every
active binding that has its scope and its workflow to itself, as long as the workflow compiles, and
whatever becomes of the workflows of others. A refresh from any other file fails, and the workflows
that were in use stay in use.
-/
namespace Helpdesk.Workflow

variable {σ : Type}

namespace Bindings

/-- The stored workflows that have an identifier, under their identifiers. -/
def tableOf (workflows : List Value) : Entries :=
  Entries.ofList (workflows.filterMap fun v => ((workflowId v).map fun id => (id, v)).toOption)

/-- Reads a stored binding next to the stored workflows. -/
def read (workflows : Entries) (v : Value) : Except Fault Binding := do
  let entries ← Fault.ofMisfit (entriesOf v)
  Fault.ofChecked "AIRoleConfig" (Binding.shape (.object (withWorkflow workflows entries)))

/-- Stored workflows that all have identifiers, and stored bindings that can all be read. -/
structure Legible (workflows roles : List Value) : Prop where
  named : ∀ v ∈ workflows, ∃ id, workflowId v = .ok id
  readable : ∀ v ∈ roles, ∃ b, read (tableOf workflows) v = .ok b

variable {text : String} {members : Entries} {workflows roles : List Value}

/-- A stored workflow under its identifier. -/
def named (v : Value) : Except Misfit (String × Value) :=
  (workflowId v).map fun id => (id, v)

end Bindings

/-! ## Snapshots of bindings -/

/-- The bindings of a file, as services ask for them. -/
def Bindings.source (text : Option String) : Ask σ (List Binding) :=
  ExceptT.mk (pure (Bindings.ofFile text).2)

end Helpdesk.Workflow
