import Helpdesk.Catalog
import Helpdesk.Main
import Helpdesk.Installation
import Helpdesk.Api
import Helpdesk.Rehearsal
import Helpdesk.Knowledge.Indexing
import Helpdesk.Answering
import Helpdesk.Workflow.Run
import Helpdesk.Handoff.Delivery
import Helpdesk.Knowledge.Retrieval
import Helpdesk.Model.Call
import Helpdesk.Workflow.Cache
import Helpdesk.Workflow.Bindings
import Helpdesk.Handoff.Card
import Helpdesk.Workflow.Compiled
import Helpdesk.Decision
import Helpdesk.Knowledge.Backend
import Helpdesk.Knowledge.Remote
import Helpdesk.Knowledge.Embedding
import Helpdesk.Knowledge.Index
import Helpdesk.Fault
import Helpdesk.Knowledge.Passage
import Helpdesk.Knowledge.Transcript
import Helpdesk.Knowledge.Ranking
import Helpdesk.Digest
import Helpdesk.Settings
import Helpdesk.Triage
import Helpdesk.Knowledge.Query
import Helpdesk.Conversation.Bag
import Helpdesk.RichText
import Helpdesk.Condition
import Helpdesk.Template
import Helpdesk.Ticket
import Helpdesk.Decimal.Significant
import Helpdesk.Json.Reader
import Helpdesk.Number
import Helpdesk.Json.Writer
import Helpdesk.Text.Blank
import Helpdesk.Text.Case
import Helpdesk.Text.Identifier
import Helpdesk.Text.Word
import Helpdesk.Proofs.Keyed
import Helpdesk.Proofs.Entries
import Helpdesk.Proofs.Validation
import Helpdesk.Proofs.Score
import Helpdesk.Proofs.Score.Grid
import Helpdesk.Proofs.Score.Rounding
import Helpdesk.Proofs.Score.Growth
import Helpdesk.Proofs.Score.Numbers
import Helpdesk.Proofs.Sorting
import Helpdesk.Proofs.World
import Helpdesk.Proofs.Office
import Helpdesk.Proofs.RichText
import Helpdesk.Proofs.Answering
import Helpdesk.Proofs.Answering.VisibleMessages
import Helpdesk.Proofs.Answering.Production
import Helpdesk.Proofs.Answering.Attempts
import Helpdesk.Proofs.Text.Slice
import Helpdesk.Proofs.Text.Blank
import Helpdesk.Proofs.Text.Folding
import Helpdesk.Proofs.Text.Line
import Helpdesk.Proofs.Json.Scalar
import Helpdesk.Proofs.Json.Numeral
import Helpdesk.Proofs.Json.RoundTrip
import Helpdesk.Proofs.Model.Call
import Helpdesk.Proofs.Conversation.Bag
import Helpdesk.Proofs.Handoff.Ledger
import Helpdesk.Proofs.Handoff.Shift
import Helpdesk.Proofs.Knowledge.Rows
import Helpdesk.Proofs.Knowledge.History
import Helpdesk.Proofs.Knowledge.Journal
import Helpdesk.Proofs.Knowledge.Metadata
import Helpdesk.Proofs.Knowledge.Retrieval
import Helpdesk.Proofs.Knowledge.Fusion
import Helpdesk.Proofs.Knowledge.FusedScores
import Helpdesk.Proofs.Knowledge.Evidence
import Helpdesk.Proofs.Knowledge.Diversity
import Helpdesk.Proofs.Knowledge.Expansion
import Helpdesk.Proofs.Knowledge.QueryOrder
import Helpdesk.Proofs.Knowledge.HiddenMessages
import Helpdesk.Proofs.Knowledge.Transcript
import Helpdesk.Proofs.Knowledge.Reindexing
import Helpdesk.Proofs.Knowledge.Sources
import Helpdesk.Proofs.Knowledge.Identity
import Helpdesk.Proofs.Knowledge.Fingerprint
import Helpdesk.Proofs.Knowledge.Search
import Helpdesk.Proofs.Knowledge.Query
import Helpdesk.Proofs.Knowledge.Remote
import Helpdesk.Proofs.Knowledge.Passage
import Helpdesk.Proofs.Knowledge.Overlap
import Helpdesk.Proofs.Workflow.Reachability
import Helpdesk.Proofs.Workflow.Acceptance
import Helpdesk.Proofs.Workflow.Itinerary
import Helpdesk.Proofs.Workflow.Resilience
import Helpdesk.Proofs.Workflow.Cycles
import Helpdesk.Proofs.Workflow.Endings
import Helpdesk.Proofs.Workflow.Outward
import Helpdesk.Proofs.Workflow.Desk
import Helpdesk.Proofs.Workflow.Blind
import Helpdesk.Proofs.Workflow.Recurrence
import Helpdesk.Proofs.Workflow.Cache
import Helpdesk.Proofs.Workflow.StoredBindings
import Helpdesk.Proofs.Workflow.Overtaking
import Helpdesk.Proofs.Workflow.Rereading
import Helpdesk.Proofs.Workflow.Provenance
import Helpdesk.Proofs.Workflow.HandOver
import Helpdesk.Proofs.Workflow.Partition
import Helpdesk.Proofs.Workflow.NextStep
import Helpdesk.Proofs.Workflow.Journal
import Helpdesk.Proofs.Workflow.Searching
import Helpdesk.Proofs.Condition.Faults
import Helpdesk.Proofs.Condition.Script
import Helpdesk.Proofs.Condition.Phrase
import Helpdesk.Proofs.Condition.Spelling
import Helpdesk.Proofs.Condition.Writing
import Helpdesk.Proofs.Condition.Scanning
import Helpdesk.Proofs.Condition.Descent
import Helpdesk.Proofs.Condition.Meaning
import Helpdesk.Proofs.Condition.Names
import Helpdesk.Proofs.Condition.Literals
import Helpdesk.Proofs.RichText.Tidy
import Helpdesk.Proofs.RichText.Outline
import Helpdesk.Proofs.RichText.Labels
import Helpdesk.Proofs.Conversation.Images
import Helpdesk.Proofs.Conversation.History
