import Helpdesk.Decision
import Helpdesk.Json.Writer
import Helpdesk.Model.Spec
import Helpdesk.World

/-!
# Helpdesk.Model.Call — what models are asked, and what becomes of their answers.

A model either decides, which means that it fills in a record of a given form, or it writes. What it
sends for a decision is checked, and whatever goes wrong with a decision is one kind of fault, which
says in whose decision it went wrong. Models are built when they are first needed and kept.
-/
namespace Helpdesk.Model

/-- Who says something to a model. -/
inductive Speaker where
  | system
  | human
  deriving DecidableEq

/-- Something that is said to a model: text, or a list of parts with images. -/
structure Prompt where
  speaker : Speaker
  content : Value

/-- The two prompts of a step. -/
def Prompt.pair (instructions : String) (message : Value) : List Prompt :=
  [⟨.system, .text instructions⟩, ⟨.human, message⟩]

/-- Where models come from and how they are reached. -/
structure Provider (σ : Type) where
  /-- Builds a model. -/
  build : Spec → Ask σ Unit
  /-- Has a model fill in a record of a form. -/
  decide : Spec → String → List Prompt → Ask σ Value
  /-- Has a model write. -/
  write : Spec → List Prompt → Ask σ Value

/-- A form that decisions have. -/
structure Form (α : Type) where
  name : String
  shape : Shape α

namespace Form

def mood : Form Decision.Mood := ⟨"SentimentDecision", Decision.Mood.shape⟩

def searchNeed : Form Decision.SearchNeed := ⟨"SearchDecision", Decision.SearchNeed.shape⟩

def queries : Form Decision.Queries := ⟨"SearchQueries", Decision.Queries.shape⟩

def escalation : Form Decision.Escalation := ⟨"EscalationDecision", Decision.Escalation.shape⟩

def summary : Form Decision.Summary := ⟨"KnowledgeSummary", Decision.Summary.shape⟩

end Form

variable {σ α : Type}

/-- The model that serves a specification; it is built when there is none yet. -/
def obtain (p : Provider σ) (spec : Spec) : Attempt σ Spec := do
  match (← get).models.find? spec.isSame with
  | some built => return built
  | none =>
    Attempt.ask (p.build spec)
    modify fun w => { w with models := w.models ++ [spec] }
    return spec

/-- What is made of a model's answer. -/
def read (form : Form α) (limit : Float) : Except Fault Value → Except Fault α
  | .error .timedOut =>
    .error (.decision (form.name ++ " call timed out after " ++ (Value.float limit).literal ++ "s"))
  | .error fault => .error (.decision (form.name ++ " call failed: " ++ fault.message))
  | .ok (.object entries) =>
    match form.shape (.object entries) with
    | .valid a => .ok a
    | .invalid issues =>
      .error (.decision (form.name ++ " output failed validation: " ++
        Fault.invalidSummary form.name issues))
  | .ok _ => .error (.decision (form.name ++ " call returned no parseable output"))

/-- Has a model decide. -/
def decide (p : Provider σ) (spec : Spec) (form : Form α) (prompts : List Prompt) :
    Work σ (Except Fault α) := do
  let answer ← Work.outcome do
    let model ← obtain p spec
    Attempt.ask (p.decide model form.name prompts)
  return read form spec.timeLimit answer

/-- What a model wrote; anything but text is written as a record. -/
def writtenText : Value → String
  | .text s => s
  | v => Json.write v

/-- Has a model write. -/
def write (p : Provider σ) (spec : Spec) (prompts : List Prompt) : Attempt σ String := do
  let model ← obtain p spec
  return writtenText (← Attempt.ask (p.write model prompts))

end Helpdesk.Model
