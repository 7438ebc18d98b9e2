import Helpdesk.Office

/-!
# Helpdesk.Workflow.Refresh — keeping the compiled workflows of an office up to date.

A refresh loads the bindings and then puts a snapshot that was built from them in the place of the
old one. When the bindings cannot be loaded the old snapshot stays.
-/
namespace Helpdesk.Workflow

variable {σ : Type}

/-- Loads the active bindings. -/
def load (sv : Services σ) : Task σ (List Binding) :=
  Task.ofAttempt (Attempt.ask sv.bindings)

/-- Puts the workflows of some bindings into use. -/
def install (sv : Services σ) (bindings : List Binding) : Duty σ Unit := do
  let (notices, snapshot) := Snapshot.build sv.settings.workflowRecursionLimit bindings
  Duty.noteAll notices
  modify fun o => { o with workflows := snapshot }

/-- Loads the bindings and puts their workflows into use. -/
def refresh (sv : Services σ) : Task σ Unit := do
  let bindings ← load sv
  Task.sure (install sv bindings)

/-- Puts all workflows out of use. -/
def clear : Duty σ Unit :=
  modify fun o => { o with workflows := .empty }

/-- The workflow of the fallback scope. -/
def fallback? (sv : Services σ) : Duty σ (Option Compiled) := do
  match (← get).workflows.workflow? (some sv.settings.fallbackScope) with
  | some w => return some w
  | none =>
    Duty.note (.error "fallback_workflow_missing" [("scope", .text sv.settings.fallbackScope)])
    return none

end Helpdesk.Workflow
