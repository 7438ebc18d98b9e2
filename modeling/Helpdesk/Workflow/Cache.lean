import Helpdesk.Keyed
import Helpdesk.Workflow.Compiled

/-!
# Helpdesk.Workflow.Cache — compiled workflows for the scopes that are bound.

A snapshot holds the workflows that compiled and, for each scope that is bound to one of them, the
persona that answers. Refreshing takes two steps: the bindings are loaded, and a snapshot built from
them takes the place of the old one as a whole. Each workflow is compiled once, from the first
binding that has it; one that does not compile only unbinds its own scopes.
-/
namespace Helpdesk.Workflow

/-- What a scope is bound to. -/
structure ScopeBinding where
  aiUserId : Int
  workflowId : String
  deriving DecidableEq

structure Snapshot where
  workflows : Keyed Compiled
  scopes : Keyed ScopeBinding

/-- A snapshot under construction. -/
structure SnapshotDraft where
  snapshot : Snapshot
  /-- Workflows that did not compile. -/
  failed : List String
  notices : List Notice

namespace Snapshot

def empty : Snapshot := ⟨[], []⟩

/-- The workflow that a scope is bound to; a scope without a name is bound to none. -/
def workflow? (s : Snapshot) (scope : Option String) : Option Compiled :=
  match scope.filter (!·.isEmpty) with
  | none => none
  | some scope => (s.scopes.get? scope).bind fun b => s.workflows.get? b.workflowId

/-- A workflow by its identifier. -/
def workflowOfId? (s : Snapshot) (id : String) : Option Compiled :=
  s.workflows.get? id

/-- The persona that answers in a scope. -/
def aiUserId? (s : Snapshot) (scope : String) : Option Int :=
  (s.scopes.get? scope).map ScopeBinding.aiUserId

/-- What is held, and what is known of some scopes. -/
def toValue (s : Snapshot) (asked : List String) : Value :=
  .object [
    ("scopes", .ofTexts s.scopes.names),
    ("size", .int s.scopes.length),
    ("workflows", .int s.workflows.length),
    ("users", .object (asked.map fun scope => (scope, .ofInt? (s.aiUserId? scope)))),
    ("has", .object (asked.map fun scope => (scope, .bool (s.scopes.has scope))))]

end Snapshot

namespace SnapshotDraft

/-- What is noted about a workflow that does not compile. -/
def failureNotice (b : Binding) (workflowId : String) (flaw : Flaw) : Notice :=
  .error "workflow_cache_compile_failed" [("config_id", .text b.id), ("scope", .text b.scope),
    ("workflow_id", .text workflowId), ("error", .text flaw.message), ("code", .text flaw.code)]

/-- Compiles the workflow of a binding, unless that was tried before. -/
def tryCompile (limit : Int) (b : Binding) (d : Definition) (draft : SnapshotDraft) :
    SnapshotDraft :=
  if draft.snapshot.workflows.has d.id || draft.failed.contains d.id then draft
  else
    match d.compile limit with
    | (notices, .ok compiled) =>
      { draft with
        snapshot := { draft.snapshot with
          workflows := draft.snapshot.workflows.put d.id compiled }
        notices := draft.notices ++ notices }
    | (notices, .error flaw) =>
      { draft with
        failed := d.id :: draft.failed
        notices := draft.notices ++ notices ++ [failureNotice b d.id flaw] }

/-- Binds the scope of a binding whose workflow compiled. -/
def bindScope (b : Binding) (workflowId : String) (draft : SnapshotDraft) : SnapshotDraft :=
  if draft.failed.contains workflowId then draft
  else
    { draft with snapshot := { draft.snapshot with
        scopes := draft.snapshot.scopes.put b.scope ⟨b.aiUserId, workflowId⟩ } }

/-- Adds a binding; one without a workflow adds nothing. -/
def add (limit : Int) (draft : SnapshotDraft) (b : Binding) : SnapshotDraft :=
  match b.workflow with
  | none => draft
  | some d => bindScope b d.id (tryCompile limit b d draft)

end SnapshotDraft

/-- The snapshot of some bindings, and what is noted while it is built. -/
def Snapshot.build (limit : Int) (bindings : List Binding) : List Notice × Snapshot :=
  let draft := bindings.foldl (SnapshotDraft.add limit) ⟨.empty, [], []⟩
  (draft.notices, draft.snapshot)

end Helpdesk.Workflow
