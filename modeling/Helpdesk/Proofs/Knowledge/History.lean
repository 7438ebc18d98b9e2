import Helpdesk.Ingestion
import Helpdesk.Proofs.Knowledge.Rows
import Helpdesk.Proofs.Text.Slice
import Mathlib.Data.List.DropRight

/-!
# Helpdesk.Proofs.Knowledge.History — rows are what was written, deleted and counted.

A knowledge base begins empty and goes through a history of operations. Any request may fail on the
way, also between the reading and the writing of one operation, and a request that fails changes
nothing. What a history says about a key is read off its list of events and nothing else: the events
since its source was last removed, the latest chunk that was written under it among them, and the uses
that were counted since the first. A collection holds exactly that, row by row. Histories are lists
with the latest event last.
-/
namespace Helpdesk.Knowledge

/-! ## Programs with requests that fail -/

/-- How a program may end: whether all its requests were answered, with what result and in which
collection. A request is answered by the collection, or it fails and changes nothing. -/
def Program.MayEnd {α : Type} (distance : Distance) :
    Program α → Collection → Bool → α → Collection → Prop
  | .done a, c, answered, result, last => answered = true ∧ result = a ∧ last = c
  | .ask r next, c, answered, result, last =>
    (∃ rest, (next none).MayEnd distance c rest result last ∧ answered = false) ∨
    ∃ answer after, r.answer? distance c = some (answer, after) ∧
      (next (some answer)).MayEnd distance after answered result last

/-- What a store does over a collection is one of the ways in which a program may end. -/
theorem Program.mayEnd_run {α : Type} (distance : Distance) (fails : RequestKind → Bool)
    (p : Program α) (c : Collection) :
    ∃ answered, p.MayEnd distance c answered (p.run distance fails c).1
      (p.run distance fails c).2 := by
  induction p generalizing c with
  | done a => exact ⟨true, rfl, rfl, rfl⟩
  | ask r next ih =>
    unfold Program.run
    by_cases hfails : r.kind?.any fails = true
    · rw [if_pos hfails]
      obtain ⟨rest, hrest⟩ := ih none c
      exact ⟨false, Or.inl ⟨rest, hrest, rfl⟩⟩
    · rw [if_neg hfails]
      -- A request that the collection refuses looks to a program like one that failed.
      rcases hanswer : r.answer? distance c with _ | ⟨answer, after⟩
      · obtain ⟨rest, hrest⟩ := ih none c
        exact ⟨false, Or.inl ⟨rest, hrest, rfl⟩⟩
      · obtain ⟨answered, hrest⟩ := ih (some answer) after
        exact ⟨answered, Or.inr ⟨answer, after, hanswer, hrest⟩⟩

theorem Program.mayEnd_request {α β : Type} {distance : Distance} {r : Request β}
    {answer : β → α} {otherwise : α} {c last : Collection} {answered : Bool} {result : α} :
    (Program.request r answer otherwise).MayEnd distance c answered result last ↔
      (answered = false ∧ result = otherwise ∧ last = c) ∨
      ∃ b, r.answer? distance c = some (b, last) ∧ answered = true ∧ result = answer b := by
  simp only [Program.request, Program.MayEnd]
  constructor
  · rintro (⟨rest, ⟨_, rfl, rfl⟩, rfl⟩ | ⟨b, after, hanswer, rfl, rfl, rfl⟩)
    · exact Or.inl ⟨rfl, rfl, rfl⟩
    · exact Or.inr ⟨b, hanswer, rfl, rfl⟩
  · rintro (⟨rfl, rfl, rfl⟩ | ⟨b, hanswer, rfl, rfl⟩)
    · exact Or.inl ⟨true, ⟨rfl, rfl, rfl⟩, rfl⟩
    · exact Or.inr ⟨b, last, hanswer, rfl, rfl, rfl⟩

/-! ## Histories -/

/-- What a knowledge base is asked to do. -/
inductive Operation where
  | upsert (chunks : List Chunk)
  | countUse (keys : List String)
  | deleteSource (sourceType sourceId : String)
  | reset
  | search (query : String) (count : Int) (filter : Option Filter)
  | neighbors (sourceType sourceId : String) (number window : Int)
  | ofSource (sourceType sourceId : String)

/-- Whether an operation only reads. -/
def Operation.reads : Operation → Bool
  | .search _ _ _ | .neighbors _ _ _ _ | .ofSource _ _ => true
  | .upsert _ | .countUse _ | .deleteSource _ _ | .reset => false

/-- An operation that took place. -/
structure Event where
  operation : Operation
  /-- Whether all its requests to the collection were answered. -/
  answered : Bool
  /-- Whether it ended with a fault. -/
  raised : Bool

/-- A program whose end is an event. -/
def Event.EndsAs {α : Type} (e : Event) (distance : Distance) (p : Program (Outcome α))
    (c last : Collection) : Prop :=
  ∃ outcome, p.MayEnd distance c e.answered outcome last ∧ e.raised = !outcome.isOk

/-- What a store over a collection does is an event, whichever of its requests fail. -/
theorem Event.endsAs_askCollection {α : Type} (operation : Operation) (distance : Distance)
    (fails : RequestKind → Bool) (p : Program (Outcome α)) (c : Collection) :
    ∃ answered, Event.EndsAs
      ⟨operation, answered, !((Store.askCollection distance fails p).run.run c).1.isOk⟩ distance p c
      ((Store.askCollection distance fails p).run.run c).2 := by
  obtain ⟨answered, hend⟩ := p.mayEnd_run distance fails c
  exact ⟨answered, _, hend, rfl⟩

/-- How an event may change a collection. -/
def Event.Ends (e : Event) (distance : Distance) (c last : Collection) : Prop :=
  match e.operation with
  | .upsert chunks => e.EndsAs distance (upsert chunks) c last
  | .countUse keys => e.EndsAs distance (countUse keys) c last
  | .deleteSource sourceType sourceId => e.EndsAs distance (deleteSource sourceType sourceId) c last
  | .reset =>
    (e.answered = false ∧ e.raised = true ∧ last = c) ∨
    (e.answered = true ∧ e.raised = false ∧
      last = ((Ingestion.shelfOfCollection distance fun _ => false).reset.run c).2)
  | .search query count filter => e.EndsAs distance (search query count filter) c last
  | .neighbors sourceType sourceId number window =>
    e.EndsAs distance (neighbors sourceType sourceId number window) c last
  | .ofSource sourceType sourceId => e.EndsAs distance (ofSource sourceType sourceId) c last

/-- A knowledge base that began empty went through some events, and this is its collection now. -/
inductive History : List Event → Collection → Prop
  | start : History [] .empty
  | step {h : List Event} {c last : Collection} (hh : History h c) (distance : Distance) (e : Event)
      (he : e.Ends distance c last) : History (h ++ [e]) last

namespace Event

/-- Whether an event removed everything of a source. -/
def wipes (t : SourceType) (sourceId : String) (e : Event) : Bool :=
  !e.raised &&
    match e.operation with
    | .deleteSource type id => type == t.name && id == sourceId
    | .reset => true
    | _ => false

/-- The chunk that an event wrote under a key. -/
def written? (key : String) (e : Event) : Option Chunk :=
  if e.raised then none
  else
    match e.operation with
    | .upsert chunks => chunks.find? fun c => c.key = key
    | _ => none

/-- Whether an event counted a use of a key. -/
def uses (key : String) (e : Event) : Bool :=
  e.answered &&
    match e.operation with
    | .countUse keys => keys.contains key
    | _ => false

end Event

/-- The events since a source was last removed. -/
def since (t : SourceType) (sourceId : String) (h : List Event) : List Event :=
  h.rtakeWhile fun e => !e.wipes t sourceId

/-- The chunk that was written last under a key. -/
def latest? (key : String) (h : List Event) : Option Chunk :=
  (h.filterMap (Event.written? key)).getLast?

/-- The uses of a key since it was first written. -/
def useCount (key : String) (h : List Event) : Nat :=
  (h.dropWhile fun e => (e.written? key).isNone).countP (Event.uses key)

/-! ## One operation -/

variable {distance : Distance} {c last : Collection} {answered : Bool}

/-- The rows that are written for chunks, with the counts that are there. -/
def Collection.rowsOf (c : Collection) (chunks : List Chunk) : List Row :=
  let counts := (c.withKeys (chunks.map Chunk.key)).map fun row => (row.key, row.count)
  chunks.map fun ch => .ofChunk ch ((counts.lookup ch.key).getD 0)

theorem Collection.find?_rowsOf (c : Collection) (chunks : List Chunk) (key : String) :
    ((c.rowsOf chunks).find? fun r => r.key = key) =
      (chunks.find? fun ch => ch.key = key).map fun ch =>
        .ofChunk ch (((c.row? key).map Row.count).getD 0) := by
  unfold rowsOf
  rw [List.find?_map]
  show (chunks.find? fun ch => ch.key = key).map _ = _
  rcases hfind : chunks.find? fun ch => ch.key = key with _ | ch
  · rw [hfind]
    rfl
  · have hsame : ch.key = key := by simpa using List.find?_some hfind
    have hmem : key ∈ chunks.map Chunk.key :=
      hsame ▸ List.mem_map_of_mem (List.mem_of_find?_eq_some hfind)
    rw [hfind, Option.map_some, Option.map_some, lookup_map_key, find?_withKeys, hsame, if_pos hmem]

theorem areOfChunks_rowsOf (c : Collection) (chunks : List Chunk) : AreOfChunks (c.rowsOf chunks) := by
  intro row hrow
  obtain ⟨ch, _, rfl⟩ := List.mem_map.mp hrow
  exact ⟨ch, _, rfl⟩

/-- To write chunks is to write all their rows or none. -/
theorem mayEnd_upsert (h : c.Sound) {chunks : List Chunk} {outcome : Outcome Unit}
    (hend : (upsert chunks).MayEnd distance c answered outcome last) :
    (answered = false ∧ outcome.isOk = false ∧ last = c) ∨
    (answered = true ∧ outcome.isOk = true ∧ last.Sound ∧
      ∀ key, last.row? key =
        ((chunks.find? fun ch => ch.key = key).map fun ch =>
          .ofChunk ch (((c.row? key).map Row.count).getD 0)).or (c.row? key)) := by
  unfold upsert at hend
  by_cases hempty : chunks.isEmpty = true
  · rw [if_pos hempty] at hend
    obtain ⟨rfl, rfl, rfl⟩ := hend
    refine Or.inr ⟨rfl, rfl, h, ?_⟩
    intro key
    rw [List.isEmpty_iff.mp hempty]
    rfl
  rw [if_neg hempty] at hend
  -- Counts are read first, and reading leaves the collection that is written to as it is.
  rcases hend with ⟨rest, ⟨_, rfl, rfl⟩, rfl⟩ | ⟨rows, after, hread, hwrite⟩
  · exact Or.inl ⟨rfl, rfl, rfl⟩
  cases hread
  simp only [accessCounts_eq (h.ofChunks_withKeys _), Program.mayEnd_request] at hwrite
  rcases hwrite with ⟨rfl, rfl, rfl⟩ | ⟨_, hanswer, rfl, rfl⟩
  · exact Or.inl ⟨rfl, rfl, rfl⟩
  obtain ⟨written, hwritten, hsame⟩ := Option.map_eq_some_iff.mp hanswer
  cases hsame
  refine Or.inr ⟨rfl, rfl, h.upsert (areOfChunks_rowsOf c chunks) hwritten, ?_⟩
  intro key
  rw [Collection.row?_upsert hwritten]
  exact congrArg (Option.or · (c.row? key)) (c.find?_rowsOf chunks key)

/-- To count uses is to count one for each row whose key is listed, or none. -/
theorem mayEnd_countUse (h : c.Sound) {keys : List String} {outcome : Outcome Unit}
    (hend : (countUse keys).MayEnd distance c answered outcome last) :
    (answered = false ∧ outcome.isOk = false ∧ last = c) ∨
    (answered = true ∧ outcome.isOk = true ∧ last.Sound ∧
      ∀ key, last.row? key =
        (c.row? key).map fun row => if key ∈ keys then row.counted else row) := by
  -- Nothing changes for a key that is not listed or has no row.
  have hsame : (∀ key ∈ keys, c.row? key = none) → ∀ key, c.row? key =
      (c.row? key).map fun row => if key ∈ keys then row.counted else row := by
    intro hnone key
    by_cases hkey : key ∈ keys
    · rw [hnone key hkey]
      rfl
    · simp only [if_neg hkey, Option.map_id']
  unfold countUse at hend
  simp only at hend
  by_cases hempty : (Text.distinct keys).isEmpty = true
  · rw [if_pos hempty] at hend
    obtain ⟨rfl, rfl, rfl⟩ := hend
    refine Or.inr ⟨rfl, rfl, h, hsame ?_⟩
    intro key hkey
    rw [← Text.mem_distinct, List.isEmpty_iff.mp hempty] at hkey
    exact absurd hkey List.not_mem_nil
  rw [if_neg hempty] at hend
  rcases hend with ⟨rest, ⟨_, rfl, rfl⟩, rfl⟩ | ⟨rows, after, hread, hcount⟩
  · exact Or.inl ⟨rfl, rfl, rfl⟩
  obtain ⟨rfl, rfl⟩ := Prod.mk.inj (Option.some.inj hread)
  rcases hrows : c.withKeys (Text.distinct keys) with _ | ⟨row, rest⟩
  · simp only [hrows] at hcount
    obtain ⟨rfl, rfl, rfl⟩ := hcount
    refine Or.inr ⟨rfl, rfl, h, hsame ?_⟩
    intro key hkey
    have hfind := Collection.find?_withKeys (Text.distinct keys) key (c := last)
    rw [hrows, if_pos (Text.mem_distinct.mpr hkey)] at hfind
    exact hfind.symm
  · simp only [hrows] at hcount
    rw [← hrows, mapM_countedUse_eq (h.ofChunks_withKeys _)] at hcount
    simp only [Program.mayEnd_request] at hcount
    rcases hcount with ⟨rfl, rfl, rfl⟩ | ⟨_, hanswer, rfl, rfl⟩
    · exact Or.inl ⟨rfl, rfl, rfl⟩
    cases hanswer
    refine Or.inr ⟨rfl, rfl, h.update _, ?_⟩
    intro key
    have hupdate := h.row?_update (Text.distinct keys) key
    simp only [Text.mem_distinct] at hupdate
    exact hupdate

/-- To remove a source is one request. -/
theorem mayEnd_deleteSource {sourceType sourceId : String} {outcome : Outcome Unit}
    (hend : (deleteSource sourceType sourceId).MayEnd distance c answered outcome last) :
    (answered = false ∧ outcome.isOk = false ∧ last = c) ∨
    (answered = true ∧ outcome.isOk = true ∧ last = c.delete (.source sourceType sourceId)) := by
  unfold deleteSource at hend
  rcases Program.mayEnd_request.mp hend with ⟨rfl, rfl, rfl⟩ | ⟨_, hanswer, rfl, rfl⟩
  · exact Or.inl ⟨rfl, rfl, rfl⟩
  · cases hanswer
    exact Or.inr ⟨rfl, rfl, rfl⟩

/-- Reading a part of a collection changes nothing. -/
theorem eq_of_mayEnd_get {r : Restriction} {score : Float} {outcome : Outcome (List Hit)}
    (hend : (get r score).MayEnd distance c answered outcome last) : last = c := by
  unfold get at hend
  rcases Program.mayEnd_request.mp hend with ⟨_, _, rfl⟩ | ⟨_, hanswer, _⟩
  · rfl
  · cases hanswer
    rfl

/-- A search changes nothing. -/
theorem eq_of_mayEnd_search {query : String} {count : Int} {filter : Option Filter}
    {outcome : Outcome (List Hit)}
    (hend : (search query count filter).MayEnd distance c answered outcome last) : last = c := by
  unfold search at hend
  by_cases hcount : count ≤ 0
  · rw [if_pos hcount] at hend
    exact hend.2.2
  rw [if_neg hcount] at hend
  rcases hend with ⟨_, hfailed, _⟩ | ⟨total, after, htotal, hquery⟩
  · exact hfailed.2.2
  cases htotal
  by_cases hnone : c.rows.length = 0
  · simp only [if_pos hnone] at hquery
    exact hquery.2.2
  · simp only [if_neg hnone] at hquery
    rcases Program.mayEnd_request.mp hquery with ⟨_, _, rfl⟩ | ⟨_, hanswer, _⟩
    · rfl
    · cases hanswer
      rfl

namespace Event

variable {e : Event}

/-- An operation that only reads changes nothing. -/
theorem eq_of_reads (he : e.Ends distance c last) (hreads : e.operation.reads = true) : last = c := by
  obtain ⟨operation, answered, raised⟩ := e
  cases operation with
  | search query count filter => exact eq_of_mayEnd_search he.choose_spec.1
  | neighbors sourceType sourceId number window => exact eq_of_mayEnd_get he.choose_spec.1
  | ofSource sourceType sourceId => exact eq_of_mayEnd_get he.choose_spec.1
  | upsert _ => cases hreads
  | countUse _ => cases hreads
  | deleteSource _ _ => cases hreads
  | reset => cases hreads

/-- What an event does to the row under a key. -/
def effect (e : Event) (t : SourceType) (sourceId key : String) (row : Option Row) : Option Row :=
  if e.wipes t sourceId then none
  else
    match e.written? key with
    | some chunk => some (.ofChunk chunk ((row.map Row.count).getD 0))
    | none => row.map fun row => if e.uses key then row.counted else row

/-- An event that failed has no effect. -/
theorem effect_of_failed (hanswered : e.answered = false) (hraised : e.raised = true)
    (t : SourceType) (sourceId key : String) (row : Option Row) :
    e.effect t sourceId key row = row := by
  simp [effect, wipes, written?, uses, hanswered, hraised]

theorem effect_of_reads (hreads : e.operation.reads = true) (t : SourceType)
    (sourceId key : String) (row : Option Row) : e.effect t sourceId key row = row := by
  obtain ⟨operation, answered, raised⟩ := e
  cases operation with
  | search _ _ _ => simp [effect, wipes, written?, uses]
  | neighbors _ _ _ _ => simp [effect, wipes, written?, uses]
  | ofSource _ _ => simp [effect, wipes, written?, uses]
  | upsert _ => cases hreads
  | countUse _ => cases hreads
  | deleteSource _ _ => cases hreads
  | reset => cases hreads

theorem effect_upsert (chunks : List Chunk) (t : SourceType) (sourceId key : String)
    (row : Option Row) :
    effect ⟨.upsert chunks, true, false⟩ t sourceId key row =
      ((chunks.find? fun ch => ch.key = key).map fun ch =>
        .ofChunk ch ((row.map Row.count).getD 0)).or row := by
  simp only [effect, wipes, written?, uses]
  rcases hfind : chunks.find? fun ch => ch.key = key with _ | ch
  · simp [hfind]
  · simp [hfind]

theorem effect_countUse (keys : List String) (t : SourceType) (sourceId key : String)
    (row : Option Row) :
    effect ⟨.countUse keys, true, false⟩ t sourceId key row =
      row.map fun row => if key ∈ keys then row.counted else row := by
  simp [effect, wipes, written?, uses]

theorem effect_deleteSource (sourceType sourceId : String) (t : SourceType) (source key : String)
    (row : Option Row) :
    effect ⟨.deleteSource sourceType sourceId, true, false⟩ t source key row =
      if sourceType = t.name ∧ sourceId = source then none else row := by
  by_cases hmeant : sourceType = t.name ∧ sourceId = source
  · simp [effect, wipes, hmeant]
  · simp [effect, wipes, written?, uses, hmeant]

/-- **One event**: a writing operation that was not answered raised a fault and changed nothing. Else
it raised none, and the row under every key is what the event makes of it. -/
theorem ends_cases (h : c.Sound) (he : e.Ends distance c last) (hwrites : e.operation.reads = false) :
    (e.answered = false ∧ e.raised = true ∧ last = c) ∨
    (e.answered = true ∧ e.raised = false ∧ last.Sound ∧ ∀ (t : SourceType) sourceId (n : Nat),
      last.row? (keyOf t.name sourceId n) =
        e.effect t sourceId (keyOf t.name sourceId n) (c.row? (keyOf t.name sourceId n))) := by
  obtain ⟨operation, answered, raised⟩ := e
  cases operation with
  | upsert chunks =>
    obtain ⟨outcome, hend, hraised⟩ := he
    rcases mayEnd_upsert h hend with ⟨rfl, hfault, rfl⟩ | ⟨rfl, hfine, hsound, hrow⟩
    · exact Or.inl ⟨rfl, by rw [hraised, hfault]; rfl, rfl⟩
    · obtain rfl : raised = false := hraised.trans (by rw [hfine]; rfl)
      refine Or.inr ⟨rfl, rfl, hsound, ?_⟩
      intro t sourceId n
      rw [hrow, effect_upsert]
  | countUse keys =>
    obtain ⟨outcome, hend, hraised⟩ := he
    rcases mayEnd_countUse h hend with ⟨rfl, hfault, rfl⟩ | ⟨rfl, hfine, hsound, hrow⟩
    · exact Or.inl ⟨rfl, by rw [hraised, hfault]; rfl, rfl⟩
    · obtain rfl : raised = false := hraised.trans (by rw [hfine]; rfl)
      refine Or.inr ⟨rfl, rfl, hsound, ?_⟩
      intro t sourceId n
      rw [hrow, effect_countUse]
  | deleteSource sourceType id =>
    obtain ⟨outcome, hend, hraised⟩ := he
    rcases mayEnd_deleteSource hend with ⟨rfl, hfault, rfl⟩ | ⟨rfl, hfine, rfl⟩
    · exact Or.inl ⟨rfl, by rw [hraised, hfault]; rfl, rfl⟩
    · obtain rfl : raised = false := hraised.trans (by rw [hfine]; rfl)
      refine Or.inr ⟨rfl, rfl, h.delete _, ?_⟩
      intro t sourceId n
      rw [h.row?_delete_source, effect_deleteSource]
  | reset =>
    rcases he with ⟨hanswered, hraised, rfl⟩ | ⟨rfl, rfl, rfl⟩
    · exact Or.inl ⟨hanswered, hraised, rfl⟩
    · exact Or.inr ⟨rfl, rfl, Collection.sound_empty, fun _ _ _ => rfl⟩
  | search _ _ _ => cases hwrites
  | neighbors _ _ _ _ => cases hwrites
  | ofSource _ _ => cases hwrites

end Event

/-! ## One event more -/

/-- The row that a history tells of under the key of a chunk. -/
def rowAfter (h : List Event) (t : SourceType) (sourceId : String) (n : Nat) : Option Row :=
  let key := keyOf t.name sourceId n
  (latest? key (since t sourceId h)).map fun chunk =>
    .ofChunk chunk (useCount key (since t sourceId h))

theorem latest?_concat (key : String) (h : List Event) (e : Event) :
    latest? key (h ++ [e]) = (e.written? key).or (latest? key h) := by
  unfold latest?
  rw [List.filterMap_append]
  rcases hwritten : e.written? key with _ | chunk
  · simp [hwritten]
  · simp [hwritten]

theorem latest?_eq_none_iff {key : String} {h : List Event} :
    latest? key h = none ↔ ∀ e ∈ h, e.written? key = none := by
  simp [latest?]

theorem isSome_latest?_iff {key : String} {h : List Event} :
    (latest? key h).isSome ↔ ∃ e ∈ h, (e.written? key).isSome := by
  rw [Option.isSome_iff_ne_none, Ne, latest?_eq_none_iff]
  simp only [Classical.not_forall, Option.isSome_iff_ne_none, Ne, exists_prop]

theorem uses_eq_false_of_written? {key : String} {e : Event} {chunk : Chunk}
    (h : e.written? key = some chunk) : e.uses key = false := by
  obtain ⟨operation, answered, raised⟩ := e
  cases operation <;> simp_all [Event.written?, Event.uses]

/-- Uses count from the first chunk on. -/
theorem useCount_concat (key : String) (h : List Event) (e : Event) :
    useCount key (h ++ [e]) =
      if latest? key h = none then 0 else useCount key h + if e.uses key then 1 else 0 := by
  unfold useCount
  rw [List.dropWhile_append]
  -- Without a chunk so far no use counts yet; with one the first of them stays the first.
  by_cases hnone : latest? key h = none
  · have hempty : (h.dropWhile fun e => (e.written? key).isNone) = [] := by
      refine List.dropWhile_eq_nil_iff.mpr ?_
      intro e he
      rw [latest?_eq_none_iff.mp hnone e he]
      rfl
    rw [if_pos hnone, hempty]
    rcases hwritten : e.written? key with _ | chunk
    · simp [hwritten]
    · simp [hwritten, uses_eq_false_of_written? hwritten]
  · have hkept : (h.dropWhile fun e => (e.written? key).isNone).isEmpty = false := by
      rw [List.isEmpty_eq_false_iff]
      intro hempty
      refine hnone (latest?_eq_none_iff.mpr ?_)
      intro e he
      exact Option.isNone_iff_eq_none.mp (List.dropWhile_eq_nil_iff.mp hempty e he)
    rw [if_neg hnone, hkept]
    simp [List.countP_append, List.countP_cons]

/-- **One event more** has the effect on what a history tells that it has on a row. -/
theorem rowAfter_concat (h : List Event) (e : Event) (t : SourceType) (sourceId : String) (n : Nat) :
    rowAfter (h ++ [e]) t sourceId n =
      e.effect t sourceId (keyOf t.name sourceId n) (rowAfter h t sourceId n) := by
  have hsince : since t sourceId (h ++ [e]) =
      if e.wipes t sourceId then [] else since t sourceId h ++ [e] := by
    unfold since
    rw [List.rtakeWhile_concat]
    by_cases hwipes : e.wipes t sourceId = true <;> simp [hwipes]
  unfold rowAfter Event.effect
  rw [hsince]
  -- Nothing before the last removal is looked at from here on.
  generalize since t sourceId h = recent
  generalize keyOf t.name sourceId n = key
  by_cases hwipes : e.wipes t sourceId = true
  · simp [hwipes, latest?]
  simp only [hwipes, Bool.false_eq_true, if_false, latest?_concat, useCount_concat]
  rcases hwritten : e.written? key with _ | chunk
  · rcases hlatest : latest? key recent with _ | chunk
    · simp
    · by_cases huses : e.uses key = true
      · simp [huses, Row.counted_ofChunk]
      · simp [huses]
  · have huses := uses_eq_false_of_written? hwritten
    rcases hlatest : latest? key recent with _ | old
    · simp
    · simp [huses, Row.count_ofChunk]

/-- A collection holds what its history tells of. -/
structure Recorded (h : List Event) (c : Collection) : Prop where
  sound : c.Sound
  row : ∀ (t : SourceType) sourceId (n : Nat),
    c.row? (keyOf t.name sourceId n) = rowAfter h t sourceId n

theorem Recorded.step {h : List Event} {c last : Collection} (hc : Recorded h c) {e : Event}
    (he : e.Ends distance c last) : Recorded (h ++ [e]) last := by
  -- Events that fail or only read leave both sides alone; the others change both alike.
  rcases hreads : e.operation.reads
  · rcases e.ends_cases hc.sound he hreads with
      ⟨hanswered, hraised, rfl⟩ | ⟨_, _, hsound, heffect⟩
    · refine ⟨hc.sound, ?_⟩
      intro t sourceId n
      rw [rowAfter_concat, Event.effect_of_failed hanswered hraised]
      exact hc.row t sourceId n
    · refine ⟨hsound, ?_⟩
      intro t sourceId n
      rw [rowAfter_concat, heffect, hc.row]
  · obtain rfl := Event.eq_of_reads he hreads
    refine ⟨hc.sound, ?_⟩
    intro t sourceId n
    rw [rowAfter_concat, Event.effect_of_reads hreads]
    exact hc.row t sourceId n

/-- **Whole histories**: every history is recorded in its collection. -/
theorem History.recorded {h : List Event} {c : Collection} (hh : History h c) : Recorded h c := by
  induction hh with
  | start => exact ⟨Collection.sound_empty, fun _ _ _ => rfl⟩
  | step _ _ _ he ih => exact ih.step he

/-- What holds of a knowledge base after a history. -/
structure Kept (h : List Event) (c : Collection) : Prop where
  /-- Rows stand under the keys of chunks, one under each. -/
  distinct : c.Distinct
  keys : ∀ row ∈ c.rows, ∃ (t : SourceType) (sourceId : String) (n : Nat),
    row.key = keyOf t.name sourceId n
  /-- There is a row exactly when a chunk was written since the source was last removed. -/
  present : ∀ (t : SourceType) (sourceId : String) (n : Nat),
    (∃ row ∈ c.rows, row.key = keyOf t.name sourceId n) ↔
      ∃ e ∈ since t sourceId h, (e.written? (keyOf t.name sourceId n)).isSome
  /-- A row is made of the chunk that was written last and of the uses since the first. -/
  content : ∀ (t : SourceType) (sourceId : String) (n : Nat), ∀ row ∈ c.rows,
    row.key = keyOf t.name sourceId n →
      ∃ chunk, latest? (keyOf t.name sourceId n) (since t sourceId h) = some chunk ∧
        row = .ofChunk chunk (useCount (keyOf t.name sourceId n) (since t sourceId h)) ∧
        accessCount row.metadata =
          .ok (useCount (keyOf t.name sourceId n) (since t sourceId h) : Int) ∧
        ∀ name, name ≠ "access_count" →
          Entries.value? name row.metadata = Entries.value? name (chunk.flatMetadata 0)
  /-- An operation that only reads changes no row, and neither does one that ends with a fault. -/
  unchanged : ∀ (distance : Distance) (e : Event) (last : Collection), e.Ends distance c last →
    e.operation.reads = true ∨ e.raised = true → last = c
  /-- An operation that writes ends with a fault exactly when a request of it failed. -/
  faults : ∀ (distance : Distance) (e : Event) (last : Collection), e.Ends distance c last →
    e.operation.reads = false → e.raised = !e.answered

/-- **Rows follow history.** Whatever a knowledge base was asked to do and whichever requests failed,
its rows are those that were written and not removed since, each with the content that was written last
and the number of uses that were counted since it was there. -/
theorem rows_follow_history {h : List Event} {c : Collection} (hh : History h c) : Kept h c := by
  have hc := hh.recorded
  have hrow : ∀ (t : SourceType) sourceId (n : Nat), ∀ row ∈ c.rows,
      row.key = keyOf t.name sourceId n → rowAfter h t sourceId n = some row := by
    intro t sourceId n row hmem hkey
    rw [← hc.row]
    exact (Collection.row?_eq_some_iff hc.sound.distinct).mpr ⟨hmem, hkey⟩
  refine ⟨hc.sound.distinct, ?_, ?_, ?_, ?_, ?_⟩
  · intro row hmem
    obtain ⟨chunk, _, rfl⟩ := hc.sound.ofChunks row hmem
    exact ⟨chunk.sourceType, chunk.sourceId, chunk.number, rfl⟩
  · intro t sourceId n
    have hfound : (c.row? (keyOf t.name sourceId n)).isSome ↔
        ∃ row ∈ c.rows, row.key = keyOf t.name sourceId n := by
      simp [Collection.row?]
    rw [← hfound, ← isSome_latest?_iff, hc.row, rowAfter, Option.isSome_map]
  · intro t sourceId n row hmem hkey
    obtain ⟨chunk, hlatest, rfl⟩ := Option.map_eq_some_iff.mp (hrow t sourceId n row hmem hkey)
    refine ⟨chunk, hlatest, rfl, accessCount_flatMetadata _ _, ?_⟩
    intro name hname
    exact value?_flatMetadata chunk _ 0 hname
  · intro distance e last he hcase
    rcases hreads : e.operation.reads
    · rcases e.ends_cases hc.sound he hreads with ⟨_, _, hsame⟩ | ⟨_, hfine, _⟩
      · exact hsame
      · rw [hreads, hfine] at hcase
        simp at hcase
    · exact Event.eq_of_reads he hreads
  · intro distance e last he hreads
    rcases e.ends_cases hc.sound he hreads with ⟨hanswered, hraised, _⟩ | ⟨hanswered, hraised, _⟩
    · rw [hanswered, hraised]
      rfl
    · rw [hanswered, hraised]
      rfl

/-- A chunk of a guide. -/
def guide : Chunk :=
  ⟨.generalKnowledge, "guide", 0, none, "Switch it off and on again.", []⟩

/-- The guide is written, used in two passages of one answer, and used again when nothing can be
changed. -/
def guideEvents : List Event :=
  [⟨.upsert [guide], true, false⟩, ⟨.countUse [guide.key, guide.key], true, false⟩,
    ⟨.countUse [guide.key], false, true⟩]

theorem history_guideEvents : History guideEvents ⟨[.ofChunk guide 1]⟩ := by
  let distance : Distance := fun _ _ => 0.0
  have hwrite : Event.Ends ⟨.upsert [guide], true, false⟩ distance .empty ⟨[.ofChunk guide 0]⟩ :=
    ⟨.ok (), Or.inr ⟨[], .empty, rfl, Or.inr ⟨(), _, rfl, rfl, rfl, rfl⟩⟩, rfl⟩
  have hcount : Event.Ends ⟨.countUse [guide.key, guide.key], true, false⟩ distance
      ⟨[.ofChunk guide 0]⟩ ⟨[.ofChunk guide 1]⟩ := by
    have hkeys : Text.distinct [guide.key, guide.key] = [guide.key] := by simp [Text.distinct]
    have hrows : Collection.withKeys ⟨[.ofChunk guide 0]⟩ [guide.key] = [.ofChunk guide 0] := by
      simp [Collection.withKeys, Row.ofChunk]
    refine ⟨.ok (), ?_, rfl⟩
    unfold countUse
    rw [hkeys]
    refine Or.inr ⟨_, _, rfl, ?_⟩
    rw [hrows]
    refine Or.inr ⟨(), _, ?_, rfl, rfl, rfl⟩
    simp [Request.answer?, Collection.update, Row.ofChunk, put_flatMetadata]
  have hrefused : Event.Ends ⟨.countUse [guide.key], false, true⟩ distance ⟨[.ofChunk guide 1]⟩
      ⟨[.ofChunk guide 1]⟩ :=
    ⟨.error (storeFault "access count update"), Or.inl ⟨true, ⟨rfl, rfl, rfl⟩, rfl⟩, rfl⟩
  exact ((History.start.step distance _ hwrite).step distance _ hcount).step distance _ hrefused

theorem rows_follow_guideEvents : Kept guideEvents ⟨[.ofChunk guide 1]⟩ :=
  rows_follow_history history_guideEvents

end Helpdesk.Knowledge
