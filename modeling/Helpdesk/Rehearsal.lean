import Helpdesk.Office

/-!
# Helpdesk.Rehearsal — an outside that follows a script.

A workflow can be rehearsed before anybody relies on it: models, the store and the channels then
follow a script, and what the engine asked them is written down in the order in which it was asked.
A model plays one cue for each call; when there is no cue left the call fails. The store gives back
the hits that its script has for a query, and everything that was written to it as neighbours.
-/
namespace Helpdesk.Rehearsal

/-! ## Scripts -/

/-- What a model does when it is called. -/
inductive Cue where
  | answer (v : Value)
  | fail (said : String)
  | stall

/-- The cue that a record stands for. -/
def Cue.ofValue : Value → Cue
  | .object e =>
    match Entries.value? "raise" e with
    | some said => fail said.plainText
    | none => if Entries.has "timeout" e then stall else answer ((Entries.value? "value" e).getD .null)
  | _ => answer .null

structure ModelScript where
  /-- Cues for decisions of each form. -/
  decisions : Keyed (List Cue) := []
  writings : List Cue := []
  /-- What is said when a model is built; nothing when that works. -/
  unbuildable : Option String := none

/-- The entries of a record that may be missing. -/
def members (v : Value) : Entries :=
  (v.entries?).getD []

/-- The items of a list that may be missing. -/
def items : Value → List Value
  | .list vs => vs
  | _ => []

/-- The cues in a list. -/
def cues (v : Value) : List Cue :=
  (items v).map Cue.ofValue

/-- The script of the models in a record. -/
def ModelScript.ofValue (v : Value) : ModelScript where
  decisions := (members (v.field "structured")).map fun (form, script) => (form, cues script)
  writings := cues (v.field "completions")
  unbuildable := (v.field "factory_error").text?

structure StoreScript where
  /-- The hits for each query. -/
  results : Keyed (List Knowledge.Hit) := []
  /-- Queries whose search fails. -/
  failing : List String := []
  /-- Queries whose search takes too long. -/
  stalling : List String := []
  neighborsFail : Bool := false
  /-- Hits that are given back with any neighbours. -/
  extraNeighbors : List Knowledge.Hit := []
  countUseFails : Bool := false
  upsertFails : Bool := false

/-- The hits in a list. -/
def hits (v : Value) : Except Fault (List Knowledge.Hit) :=
  (items v).mapM fun item => Fault.ofChecked "SearchHit" (Knowledge.Hit.shape item)

/-- The texts in a list. -/
def queries (v : Value) : List String :=
  (items v).filterMap Value.text?

/-- The script of the store in a record. -/
def StoreScript.ofValue (v : Value) : Except Fault StoreScript := do
  let results ← (members (v.field "results")).mapM fun (query, found) => do
    return (query, ← hits found)
  return {
    results := results
    failing := queries (v.field "failing")
    stalling := queries (v.field "timeouts")
    neighborsFail := (v.field "neighbors_fail").counts
    extraNeighbors := ← hits (v.field "extra_neighbors")
    countUseFails := (v.field "access_fail").counts
    upsertFails := (v.field "upsert_fail").counts }

/-- What a channel does with a handoff. -/
inductive ChannelScript where
  | take
  | fail (said : String)
  /-- The handoff is taken, and nothing is written down. -/
  | pass

/-- The script of a channel that a text stands for. -/
def ChannelScript.ofText (s : String) : ChannelScript :=
  if s = "ok" then take
  else
    match Text.stripWord "fail:".toList s.toList with
    | some said => fail (String.ofList said)
    | none => pass

/-! ## The stage -/

/-- What the engine asked a model; a form for a decision, none for writing. -/
structure ModelCall where
  form : Option String
  spec : Model.Spec
  prompts : List Model.Prompt

/-- A prompt as a pair. -/
def promptValue (p : Model.Prompt) : Value :=
  .list [.text (match p.speaker with
    | .system => "system"
    | .human => "human"), p.content]

/-- A call of a model as a record. -/
def ModelCall.toValue (c : ModelCall) : Value :=
  .object [
    ("call", .text (c.form.getD "complete")),
    ("model", .text c.spec.model),
    ("api_key", .ofText? c.spec.apiKey),
    ("base_url", .ofText? c.spec.baseUrl),
    ("temperature", Model.Spec.temperatureValue c.spec.temperature),
    ("messages", .list (c.prompts.map promptValue))]

/-- What the engine asked the store. -/
inductive StoreCall where
  | search (query : String) (count : Int) (filter : Option Knowledge.Filter)
  | neighbors (sourceType : String) (sourceId : Option String) (number window : Int)
  | countUse (keys : List String) (context : Entries)
  | upsert (keys : List String)

/-- A call of the store as a record. -/
def StoreCall.toValue : StoreCall → Value
  | search query count filter => .object [
      ("call", .text "search"),
      ("query", .text query),
      ("k", .int count),
      ("filters", (filter.map Knowledge.Filter.toValue).getD .null)]
  | neighbors sourceType sourceId number window => .object [
      ("call", .text "neighbors"),
      ("source_type", .text sourceType),
      ("source_id", .ofText? sourceId),
      ("chunk_id", .int number),
      ("window", .int window)]
  | countUse keys context => .object [
      ("call", .text "access"),
      ("ids", .ofTexts keys),
      ("context", .object context)]
  | upsert keys => .object [("call", .text "upsert"), ("keys", .ofTexts keys)]

/-- A handoff that a channel took. -/
structure Told where
  channel : String
  recordId : Option Int
  ticketId : String

/-- A handoff that a channel took, as a record. -/
def Told.toValue (t : Told) : Value :=
  .object [
    ("channel", .text t.channel),
    ("record_id", .ofInt? t.recordId),
    ("ticket_id", .text t.ticketId)]

structure Stage where
  models : ModelScript := {}
  store : StoreScript := {}
  /-- The chunks that the store holds, under their keys. -/
  chunks : Keyed Knowledge.Hit := []
  bindings : List Workflow.Binding := []
  /-- What is said when the bindings are loaded; nothing when that works. -/
  bindingsFail : Option String := none
  modelCalls : List ModelCall := []
  storeCalls : List StoreCall := []
  told : List Told := []

/-- The stage with nothing written down. -/
def Stage.cleared (s : Stage) : Stage :=
  { s with modelCalls := [], storeCalls := [], told := [] }

/-! ## Models -/

/-- Plays a cue. -/
def play (name : String) : Option Cue → Ask Stage Value
  | none => throw (.failure (name ++ " not scripted"))
  | some (.answer v) => return v
  | some (.fail said) => throw (.failure said)
  | some .stall => throw .timedOut

/-- Writes down a call of a model. -/
def noteModelCall (call : ModelCall) : Ask Stage Unit :=
  modify fun s => { s with modelCalls := s.modelCalls ++ [call] }

/-- Takes the next cue for a decision. -/
def takeDecision (form : String) : Ask Stage (Option Cue) := do
  let s ← get
  let cues := (s.models.decisions.get? form).getD []
  set { s with models :=
    { s.models with decisions := s.models.decisions.put form cues.tail } }
  return cues.head?

/-- Takes the next cue for writing. -/
def takeWriting : Ask Stage (Option Cue) := do
  let s ← get
  set { s with models := { s.models with writings := s.models.writings.tail } }
  return s.models.writings.head?

/-- The models of a rehearsal. -/
def models : Model.Provider Stage where
  build _ := do
    match (← get).models.unbuildable with
    | some said => throw (.unbuildable said)
    | none => return ()
  decide spec form prompts := do
    noteModelCall ⟨some form, spec, prompts⟩
    play form (← takeDecision form)
  write spec prompts := do
    noteModelCall ⟨none, spec, prompts⟩
    play "completion" (← takeWriting)

/-! ## The store -/

/-- Writes down a call of the store. -/
def noteStoreCall (call : StoreCall) : Ask Stage Unit :=
  modify fun s => { s with storeCalls := s.storeCalls ++ [call] }

/-- Whether a query is among some queries; a star stands for all of them. -/
def covers (queries : List String) (query : String) : Bool :=
  queries.contains query || queries.contains "*"

/-- The number of a hit, where a missing number counts as the number of a summary. -/
def numberOf (h : Knowledge.Hit) : Int :=
  h.number.getD 0

/-- The stored chunks around a number in a source, in the order of their numbers. -/
def nearby (s : Stage) (sourceType : String) (sourceId : Option String) (number window : Int) :
    List Knowledge.Hit :=
  let near := s.chunks.entries.filter fun h =>
    h.sourceType = sourceType && h.sourceId = sourceId &&
      decide ((numberOf h - number).natAbs ≤ window)
  near.mergeSort fun a b => decide (numberOf a ≤ numberOf b)

/-- A fault of the store. -/
def storeFault (said : String) : Fault :=
  .store said []

/-- Fails when the script says so. -/
def failIf (condition : Bool) (fault : Fault) : Ask Stage Unit :=
  if condition then throw fault else return ()

/-- The store of a rehearsal. -/
def store : Knowledge.Store Stage where
  search query count filter := do
    noteStoreCall (.search query count filter)
    let script := (← get).store
    failIf (covers script.stalling query) .timedOut
    failIf (covers script.failing query) (storeFault ("search failed for " ++ query))
    return Text.upTo ((script.results.get? query).getD []) count
  neighbors sourceType sourceId number window := do
    noteStoreCall (.neighbors sourceType sourceId number window)
    let s ← get
    failIf s.store.neighborsFail (storeFault "neighbors unavailable")
    return nearby s sourceType sourceId number window ++ s.store.extraNeighbors
  countUse keys context := do
    noteStoreCall (.countUse keys context)
    failIf (← get).store.countUseFails (storeFault "access unavailable")
  ofSource sourceType sourceId := do
    return (← get).chunks.entries.filter fun h =>
      h.sourceType = sourceType && h.sourceId = some sourceId
  upsert chunks := do
    noteStoreCall (.upsert (chunks.map Knowledge.Chunk.key))
    failIf (← get).store.upsertFails (storeFault "upsert unavailable")
    modify fun s => { s with chunks := chunks.foldl (fun table c =>
      table.put c.key (Knowledge.Hit.ofChunk c 0.0)) s.chunks }
  deleteSource sourceType sourceId :=
    modify fun s => { s with chunks := s.chunks.filter fun (_, h) =>
      !(h.sourceType = sourceType && h.sourceId = some sourceId) }
  health := do return !(← get).store.neighborsFail
  clock := pure 0

/-! ## Channels and bindings -/

/-- A channel of a rehearsal. -/
def channel (name : String) (script : ChannelScript) : Handoff.Channel Stage :=
  fun record ticket =>
    match script with
    | .take => modify fun s => { s with told := s.told ++ [⟨name, record.id, ticket.id⟩] }
    | .fail said => throw (.failure said)
    | .pass => pure ()

/-- The active bindings of a rehearsal. -/
def bindings : Ask Stage (List Workflow.Binding) := do
  let s ← get
  match s.bindingsFail with
  | some said => throw (.failure said)
  | none => return s.bindings.filter Workflow.Binding.isActive

/-- The services of a rehearsal. -/
def services (settings : Settings) (channels : Keyed ChannelScript) : Services Stage where
  settings := settings
  models := models
  store := store
  channels := channels.map fun (name, script) => (name, channel name script)
  reachBook := pure ()
  bindings := bindings

/-- An office before its first rehearsal. -/
def office (stage : Stage) (book : Book) : Office Stage :=
  ⟨⟨stage, [], []⟩, book, .empty, .empty⟩

end Helpdesk.Rehearsal
