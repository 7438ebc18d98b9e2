import Helpdesk.Template.Rendering

/-!
# Helpdesk.Template — prompt templates.

Prompts and messages are written with outputs in double braces and tags in braces with percent
signs, over the variables of a run. A template with a mistake in it is shown as it is written: an
author then sees the mistake, and a customer still gets an answer.
-/
namespace Helpdesk.Template

/-- The name that no variable of a rendered template may have. -/
def reservedName : String := "self"

inductive Outcome where
  | rendered (text : String)
  /-- The template has a mistake and stands for itself. -/
  | asWritten (text : String)
  /-- A variable has the reserved name. -/
  | refused
  deriving DecidableEq

/-- Renders a template; no template and an empty one render as nothing. -/
def render (template : Option String) (vars : Entries) : Outcome :=
  match template with
  | none => .rendered ""
  | some s =>
    if s.isEmpty then .rendered ""
    else
      match Node.ofText? s with
      | none => .asWritten s
      | some nodes =>
        if Entries.has reservedName vars then .refused
        else
          match renderNodes nodes (.ofEntries vars) with
          | some ⟨text, .done, _⟩ => .rendered text
          | _ => .asWritten s

end Helpdesk.Template
