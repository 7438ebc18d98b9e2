import Helpdesk.Handoff.Delivery
import Helpdesk.Workflow.HandOver
import Helpdesk.Workflow.Lookup
import Helpdesk.Workflow.Offer
import Helpdesk.Workflow.Reply

/-!
# Helpdesk.Workflow.Run — a run of a compiled workflow.

A run goes from step to step. A step does its work and writes what it found into the state; the
deliveries that are waiting then go out, and the route of the step says where the run goes next. A
run keeps the list of its visits, and it ends at the end of the workflow, at the first fault that a
step does not take care of, or when it has taken all the steps that it may take.
-/
namespace Helpdesk.Workflow

open Conversation

variable {σ : Type}

/-- Does the work of a step. -/
def Action.perform (sv : Services σ) (s : State) : Action → Task σ Fields
  | .emotionDetector c => detectMood sv c s
  | .rag c => lookUpKnowledge sv c s
  | .smartChat c => Task.sure (reply sv c s)
  | .escalationOffer c => offerEscalation sv c s
  | .handoff c => handOver sv c s

/-- A step that ran, and the state that it left. -/
structure Visit where
  id : String
  after : State

structure Run (σ : Type) where
  office : Office σ
  state : State
  /-- The steps that ran, the first one first. -/
  visits : List Visit
  /-- Where the run goes next, or what stopped it. -/
  next : Except Fault Target

/-- Where a run goes after a step that left some state. -/
def Route.follow (s : State) : Route → List Notice × Except Fault Target
  | .direct target => ([], .ok target)
  | .conditional branches otherwise =>
    match bag s with
    | .error misfit => ([], .error (.misfit misfit))
    | .ok bag =>
      match (Route.conditional branches otherwise).resolve bag with
      | (notices, .ok target) => (notices, .ok target)
      | (notices, .error fault) => (notices, .error (.condition fault))

namespace Run

/-- A run before its first step. -/
def start (w : Compiled) (office : Office σ) (s : State) : Run σ :=
  ⟨office, s, [], .ok w.entry⟩

/-- The run after a step has ended with an update or a fault, and deliveries have gone out. -/
def leave (r : Run σ) (step : Step) (office : Office σ) : Except Fault Fields → Run σ
  | .error fault => ⟨office, r.state, r.visits ++ [⟨step.id, r.state⟩], .error fault⟩
  | .ok update =>
    let state := r.state.write update
    let (notices, next) := step.route.follow state
    let world := { office.world with notices := office.world.notices ++ notices }
    ⟨{ office with world := world }, state, r.visits ++ [⟨step.id, state⟩], next⟩

/-- The run after a step. -/
def visit (sv : Services σ) (r : Run σ) (step : Step) : Run σ :=
  let (result, office) := (step.action.perform sv r.state).run.run r.office
  let (_, office) := (Handoff.settle sv).run office
  r.leave step office result

/-- The run after its next step; a run that goes to no step stays as it is. -/
def advance (sv : Services σ) (w : Compiled) (r : Run σ) : Run σ :=
  match r.next with
  | .ok (.node id) =>
    match w.step? id with
    | some step => r.visit sv step
    | none => { r with next := .ok .finish }
  | _ => r

/-- Whether a run has another step to take. -/
def hasNext (r : Run σ) : Bool :=
  match r.next with
  | .ok (.node _) => true
  | _ => false

/-- The run after at most so many steps. -/
def advanceAll (sv : Services σ) (w : Compiled) : Nat → Run σ → Run σ
  | 0, r => r
  | steps + 1, r => if r.hasNext then advanceAll sv w steps (r.advance sv w) else r

/-- The run, stopped if it has taken all its steps: to find itself at the end takes one as well. -/
def stop (w : Compiled) (r : Run σ) : Run σ :=
  match r.next with
  | .error _ => r
  | .ok _ =>
    if w.stepLimit ≤ r.visits.length then { r with next := .error (.stepLimit w.stepLimit) } else r

end Run

/-- A whole run of a workflow. -/
def Compiled.run (sv : Services σ) (w : Compiled) (office : Office σ) (s : State) : Run σ :=
  let (_, office) := (Handoff.settle sv).run office
  let r := Run.start w office s
  if w.stepLimit < 1 then { r with next := .error .noSteps }
  else (Run.advanceAll sv w w.stepLimit.toNat r).stop w

/-- The state at the end of a run, or what stopped it. -/
def Run.result (r : Run σ) : Except Fault State :=
  r.next.map fun _ => r.state

/-- Runs a workflow in an office. -/
def Compiled.invoke (sv : Services σ) (w : Compiled) (s : State) : Task σ State := do
  let r := w.run sv (← get) s
  set r.office
  Task.ofExcept r.result

end Helpdesk.Workflow
