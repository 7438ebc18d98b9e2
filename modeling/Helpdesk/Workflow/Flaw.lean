import Helpdesk.Value.Literal

/-!
# Helpdesk.Workflow.Flaw — why a workflow cannot be used.
-/
namespace Helpdesk.Workflow

inductive Flaw where
  | invalidNodeId (id : String)
  | duplicateNodeId (id : String)
  | noStart (workflow : String)
  | multipleStart (starts : List String)
  | noEnd (workflow : String)
  | noReachableEnd (workflow : String)
  | invalidStartEdges (count : Nat)
  deriving DecidableEq

namespace Flaw

/-- The short name of a flaw. -/
def code : Flaw → String
  | invalidNodeId _ => "invalid_node_id"
  | duplicateNodeId _ => "duplicate_node_id"
  | noStart _ => "no_start"
  | multipleStart _ => "multiple_start"
  | noEnd _ => "no_end"
  | noReachableEnd _ => "no_reachable_end"
  | invalidStartEdges _ => "invalid_start_edges"

/-- What an author is told. -/
def message : Flaw → String
  | invalidNodeId id => "Invalid node id: " ++ Text.quoted id
  | duplicateNodeId id => "Duplicate node id: " ++ Text.quoted id
  | noStart _ => "Workflow has no start node"
  | multipleStart _ => "Workflow has multiple start nodes"
  | noEnd _ => "Workflow has no end node"
  | noReachableEnd _ => "No end node is reachable from start"
  | invalidStartEdges _ => "Start node must have exactly one unconditional outgoing edge"

/-- What belongs to a flaw. -/
def details : Flaw → Entries
  | invalidNodeId id => [("node_id", .text id)]
  | duplicateNodeId id => [("node_id", .text id)]
  | noStart workflow => [("workflow_id", .text workflow)]
  | multipleStart starts => [("start_nodes", .ofTexts starts)]
  | noEnd workflow => [("workflow_id", .text workflow)]
  | noReachableEnd workflow => [("workflow_id", .text workflow)]
  | invalidStartEdges count => [("edge_count", .int count)]

end Flaw

end Helpdesk.Workflow
