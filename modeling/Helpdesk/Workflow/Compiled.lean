import Helpdesk.Conversation.State
import Helpdesk.Workflow.Flaw
import Helpdesk.Workflow.Graph
import Helpdesk.Workflow.Route

/-!
# Helpdesk.Workflow.Compiled — workflows that are ready to run.

Compiling checks a definition and keeps what a run needs: the steps that can be reached, how each of
them is left, and where a run begins. Edges that lead nowhere and edges back to the start are
dropped with a notice, and so are nodes that cannot be reached. A definition without exactly one
start, without an end that can be reached, or with more than one way out of the start is refused.
-/
namespace Helpdesk.Workflow

/-- A step of a compiled workflow. -/
structure Step where
  id : String
  action : Action
  route : Route

structure Compiled where
  workflowId : String
  name : String
  /-- Where a run begins. -/
  entry : Target
  steps : List Step
  excluded : List String
  hasCycle : Bool
  /-- The most steps that a run may take. -/
  stepLimit : Int

namespace Compiled

/-- The step of an identifier. -/
def step? (w : Compiled) (id : String) : Option Step :=
  w.steps.find? fun s => s.id = id

/-- The identifiers of the steps. -/
def stepIds (w : Compiled) : List String :=
  w.steps.map Step.id

/-- The name and the steps of a compiled workflow as a record. -/
def outline (w : Compiled) : Entries :=
  [("workflow_id", .text w.workflowId), ("name", .text w.name), ("nodes", .ofTexts w.stepIds)]

/-- A compiled workflow as a record. -/
def toValue (w : Compiled) : Value :=
  .object (w.outline ++ [
    ("excluded_nodes", .ofTexts w.excluded),
    ("has_cycle", .bool w.hasCycle),
    ("recursion_limit", .int w.stepLimit),
    ("routes", .object (w.steps.map fun s => (s.id, s.route.toValue)))])

end Compiled

/-! ## Checks -/

/-- Characters that no node identifier may hold. -/
def reservedChars : List Char := ['|', ':']

/-- Identifiers that no node may have: the two ends of every run and the names of the state. -/
def reservedIds : List String :=
  ["__start__", Target.finishName] ++ Conversation.State.names

/-- Whether a node may have an identifier. -/
def isValidId (id : String) : Bool :=
  !(id.toList.any reservedChars.contains) && !reservedIds.contains id

/-- The first flaw in the identifiers of nodes, where `seen` are the identifiers before them. -/
def idFlaw? (seen : List String) : List Node → Option Flaw
  | [] => none
  | n :: rest =>
    if !isValidId n.id then some (.invalidNodeId n.id)
    else if seen.contains n.id then some (.duplicateNodeId n.id)
    else idFlaw? (n.id :: seen) rest

namespace Definition

/-- The identifiers of the start nodes. -/
def starts (d : Definition) : List String :=
  (d.nodes.filter fun n => n.role == .start).map Node.id

/-- The identifiers of the end nodes. -/
def finishes (d : Definition) : List String :=
  (d.nodes.filter fun n => n.role == .finish).map Node.id

/-- Whether a node of an identifier exists. -/
def declares (d : Definition) (id : String) : Bool :=
  d.nodes.any fun n => n.id = id

/-- The start of a workflow whose identifiers, start and ends are as they should be. -/
def start? (d : Definition) : Except Flaw String :=
  match idFlaw? [] d.nodes with
  | some flaw => .error flaw
  | none =>
    match d.starts with
    | [] => .error (.noStart d.id)
    | [start] => if d.finishes.isEmpty then .error (.noEnd d.id) else .ok start
    | starts => .error (.multipleStart starts)

/-! ## Edges -/

/-- Whether both ends of an edge exist. -/
def connects (d : Definition) (e : Edge) : Bool :=
  d.declares e.source && d.declares e.target

/-- Whether an edge can be used. -/
def isUsable (d : Definition) (start : String) (e : Edge) : Bool :=
  d.connects e && e.target != start

/-- The edges that can be used. -/
def usableEdges (d : Definition) (start : String) : List Edge :=
  d.edges.filter (d.isUsable start)

/-- A notice about a workflow. -/
def note (d : Definition) (event : String) (fields : Entries) : Notice :=
  .warning event (("workflow_id", .text d.id) :: fields)

/-- What is noted about an edge that cannot be used. -/
def droppedNotice? (d : Definition) (start : String) (e : Edge) : Option Notice :=
  if !d.connects e then
    some (d.note "edge_unknown_node_dropped" [("edge_id", .text e.id), ("source", .text e.source),
      ("target", .text e.target)])
  else if e.target = start then some (d.note "edge_into_start_dropped" [("edge_id", .text e.id)])
  else none

/-- The nodes that can be reached from the start. -/
def reached (d : Definition) (start : String) : List String :=
  reachableFrom ((d.usableEdges start).map fun e => (e.source, e.target)) [start]

/-- The edges between nodes that can be reached. -/
def wiredEdges (d : Definition) (start : String) : List Edge :=
  let reached := d.reached start
  (d.usableEdges start).filter fun e => reached.contains e.source && reached.contains e.target

/-- The nodes that cannot be reached. -/
def unreached (d : Definition) (start : String) : List Node :=
  let reached := d.reached start
  d.nodes.filter fun n => !reached.contains n.id

/-- The steps that can be reached, with what they do. -/
def reachedActions (d : Definition) (start : String) : List (String × Action) :=
  let reached := d.reached start
  d.nodes.filterMap fun n =>
    match n.role with
    | .action a => if reached.contains n.id then some (n.id, a) else none
    | _ => none

/-! ## Routes -/

/-- Where an edge to a node leads; every end is the same end. -/
def targetOf (d : Definition) (id : String) : Target :=
  if d.finishes.contains id then .finish else .node id

/-- The branches of edges with conditions. -/
def branches (d : Definition) (edges : List Edge) : List (Condition × Target) :=
  edges.filterMap fun e => e.condition.map fun c => (.ofText c, d.targetOf e.target)

/-- Where the first edge without a condition leads. -/
def otherwise (d : Definition) (edges : List Edge) : Option Target :=
  (edges.find? fun e => e.condition.isNone).map fun e => d.targetOf e.target

/-- How a step with some edges is left. -/
def routeOf (d : Definition) (edges : List Edge) : Route :=
  match edges with
  | [] => .direct .finish
  | [e] => if e.condition.isNone then .direct (d.targetOf e.target)
    else .conditional (d.branches [e]) none
  | edges => .conditional (d.branches edges) (d.otherwise edges)

/-- The edges that leave a node. -/
def outgoing (edges : List Edge) (id : String) : List Edge :=
  edges.filter fun e => e.source = id

/-- The steps of a compiled workflow. -/
def steps (d : Definition) (start : String) : List Step :=
  let wired := d.wiredEdges start
  (d.reachedActions start).map fun (id, action) => ⟨id, action, d.routeOf (outgoing wired id)⟩

/-- The arrows between steps. -/
def arrows (d : Definition) (start : String) : List Arrow :=
  let ids := (d.reachedActions start).map Prod.fst
  let inner := fun (e : Edge) => ids.contains e.source && !d.finishes.contains e.target
  ((d.wiredEdges start).filter inner).map fun e => (e.source, e.target)

/-! ## Compiling -/

/-- The first flaw in how the ends and the start are connected, or where a run begins. -/
def entry? (d : Definition) (start : String) : Except Flaw Target :=
  if !(d.finishes.any (d.reached start).contains) then .error (.noReachableEnd d.id)
  else
    match outgoing (d.wiredEdges start) start with
    | [e] => if e.condition.isNone then .ok (d.targetOf e.target) else .error (.invalidStartEdges 1)
    | edges => .error (.invalidStartEdges edges.length)

/-- What is noted about edges and nodes that are left out. -/
def leftOutNotices (d : Definition) (start : String) : List Notice :=
  d.edges.filterMap (d.droppedNotice? start) ++
    (d.unreached start).map fun n => d.note "unreachable_node_excluded"
      [("node_id", .text n.id), ("node_type", .text n.role.kind.name)]

/-- What is noted about a workflow with a cycle. -/
def cycleNotices (d : Definition) (limit : Int) (hasCycle : Bool) : List Notice :=
  if hasCycle then [d.note "workflow_cycle_detected" [("recursion_limit", .int limit)]] else []

/-- Compiles a workflow for runs of at most so many steps. -/
def compile (d : Definition) (limit : Int) : List Notice × Except Flaw Compiled :=
  match d.start? with
  | .error flaw => ([], .error flaw)
  | .ok start =>
    match d.entry? start with
    | .error flaw => (d.leftOutNotices start, .error flaw)
    | .ok entry =>
      let steps := d.steps start
      let hasCycle := Workflow.hasCycle (d.arrows start) (steps.map Step.id)
      (d.leftOutNotices start ++ steps.flatMap (fun s => s.route.unreadable) ++
          d.cycleNotices limit hasCycle,
        .ok ⟨d.id, d.name, entry, steps, (d.unreached start).map Node.id, hasCycle, limit⟩)

end Definition

end Helpdesk.Workflow
