import Helpdesk.Book.File
import Helpdesk.Workflow.Definition

/-!
# Helpdesk.Workflow.Bindings — bindings that are stored as a file.

A file holds the bindings of scopes and, apart from them, workflows. A binding holds its workflow or
names one of the file; a workflow that is named and not there is none. Only active bindings count.
-/
namespace Helpdesk.Workflow.Bindings

/-- The identifier of a stored workflow. -/
def workflowId : Value → Except Misfit String
  | .object entries =>
    match Entries.value? "id" entries with
    | some v => .ok v.plainText
    | none => .error (.missingEntry "id")
  | .text _ => .error (.notPosition .text)
  | .list _ => .error (.notPosition .list)
  | v => .error (.notSubscriptable v.kind)

/-- The stored workflows under their identifiers; the last one of an identifier counts. -/
def workflowTable (items : List Value) : Except Misfit Entries := do
  return Entries.ofList (← items.mapM fun v => do return (← workflowId v, v))

/-- The two parts of an entry that is stored as a sequence. -/
def pairOf (v : Value) : Except Misfit (Option (String × Value)) := do
  match v with
  | .list _ => pure ()
  | .text _ => pure ()
  | .object _ => pure ()
  | v => throw (.notIterable v.kind)
  match ← v.elements with
  | [.text name, a] => return some (name, a)
  | [.list _, _] => throw (.notKey .list)
  | [.object _, _] => throw (.notKey .object)
  | [_, _] => return none
  | _ => throw .notPair

/-- A stored binding as entries: an object, or a sequence of pairs. -/
def entriesOf : Value → Except Misfit Entries
  | .object entries => .ok entries
  | v => do return Entries.ofList (← (← v.elements).mapM pairOf).reduceOption

/-- A stored binding with the workflow that it names. -/
def withWorkflow (workflows : Entries) (binding : Entries) : Entries :=
  let found := fun name => (Entries.value? name binding).getD .null
  let named := (found "workflowId").orElse (found "workflow_id")
  match named with
  | .null => binding
  | named =>
    if Entries.has "workflow" binding then binding
    else Entries.put "workflow" ((Entries.value? named.plainText workflows).getD .null) binding

/-- The active bindings that a text holds. -/
def ofText (text : String) : Except Fault (List Binding) := do
  let members ← Book.membersOf text
  let workflows ← Fault.ofMisfit (workflowTable (← Book.itemsOf "workflows" members))
  let bindings ← (← Book.itemsOf "roles" members).mapM fun v => do
    let entries ← Fault.ofMisfit (entriesOf v)
    Fault.ofChecked "AIRoleConfig" (Binding.shape (.object (withWorkflow workflows entries)))
  return bindings.filter Binding.isActive

/-- The active bindings of a file that may be missing, and what is noted about it. -/
def ofFile (text : Option String) : List Notice × Except Fault (List Binding) :=
  match text with
  | none => ([.warning "workflow_config_missing" []], .ok [])
  | some s => ([], ofText s)

end Helpdesk.Workflow.Bindings
