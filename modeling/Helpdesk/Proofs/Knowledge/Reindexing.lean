import Helpdesk.Knowledge.Indexing
import Helpdesk.Proofs.Knowledge.History
import Helpdesk.Proofs.Knowledge.Metadata
import Helpdesk.Proofs.Model.Call
import Helpdesk.Proofs.Sorting
import Mathlib.Data.List.Sort
import Mathlib.Tactic.Choose

/-!
# Helpdesk.Proofs.Knowledge.Reindexing — what a source holds after it was indexed again.

Indexing writes one row for each chunk, under a key that is made of the source and the number of the
chunk, and it removes nothing. So what was there under the same number is written over, the other
sources are out of reach, and what the source had under further numbers stays. Reading the source
gives the new chunks together with those leftovers, in the order of their numbers; when no key is left
over, it gives the chunks and nothing else.
-/
namespace Helpdesk.Knowledge

variable {σ : Type}

/-! ## Reading a row -/

/-- A chunk as its source gives it back. -/
def Chunk.stored (c : Chunk) : Hit :=
  { Hit.ofChunk c 0.0 with metadata := c.titledMetadata }

/-- Metadata with the title that stands beside it in a row, when there is one. -/
def titled (flat : Entries) (metadata : Value) : Except Fault Value :=
  let title := (Entries.value? "title" flat).getD .null
  if title.counts then Fault.ofMisfit (withTitle title metadata) else .ok metadata

/-- A row is read in three steps: its metadata, the title in it, and the hit. -/
theorem toHit_eq_bind (row : Row) (score : Float) :
    row.toHit score = readMetadata row.metadata >>= fun read =>
      titled row.metadata read >>= fun metadata =>
        Fault.ofChecked "SearchHit" (Hit.shape (.object [
          ("id", .text row.key),
          ("content", Value.orElse (.text row.document) (.text "")),
          ("source_type", (Entries.value? "source_type" row.metadata).getD (.text "")),
          ("source_id", (Entries.value? "source_id" row.metadata).getD .null),
          ("chunk_id", (Entries.value? "chunk_id" row.metadata).getD .null),
          ("score", .float score),
          ("metadata", metadata)])) := by
  unfold Row.toHit readHit titled
  refine congrArg (readMetadata row.metadata >>= ·) (funext fun read => ?_)
  dsimp only
  rcases ((Entries.value? "title" row.metadata).getD .null).counts <;> rfl

/-- Whatever the metadata in the row of a chunk is read as, the hit stands in the place of the
chunk. -/
theorem eq_of_toHit {c : Chunk} {n : Int} {score : Float} {hit : Hit}
    (h : (Row.ofChunk c n).toHit score = .ok hit) :
    hit = { Hit.ofChunk c score with metadata := hit.metadata } := by
  rw [toHit_eq_bind] at h
  obtain ⟨read, _, h⟩ := bind_eq_ok_iff.mp h
  obtain ⟨metadata, _, h⟩ := bind_eq_ok_iff.mp h
  have hshape := congrArg (Fault.ofChecked "SearchHit")
    (shape_flatMetadata c n score metadata)
  cases hshape.symm.trans h
  rfl

theorem titled_flatMetadata (c : Chunk) (n : Int) :
    titled (c.flatMetadata n) (.object c.metadata) = .ok (.object c.titledMetadata) := by
  unfold titled
  rw [value?_title_flatMetadata]
  rcases htitle : (c.title.getD "").isEmpty with _ | _
  · have hcounts : Value.counts (.text (c.title.getD "")) = true := by
      simpa [Value.counts, String.isEmpty_iff] using htitle
    simp only [Bool.false_eq_true, ↓reduceIte, hcounts, withTitle_metadata htitle, Fault.ofMisfit]
  · have hplain : c.titledMetadata = c.metadata := by simp [Chunk.titledMetadata, htitle]
    rw [hplain]
    rfl

theorem toHit_ofChunk {c : Chunk} (h : Json.Legible (.object c.metadata)) (n : Int) :
    (Row.ofChunk c n).toHit 0.0 = .ok c.stored := by
  have hmetadata : readMetadata (c.flatMetadata n) = .ok (.object c.metadata) := by
    rw [readMetadata_flatMetadata, readMetadataText, Json.read_write h]
  rw [toHit_eq_bind]
  refine bind_eq_ok_iff.mpr ⟨_, hmetadata, bind_eq_ok_iff.mpr ⟨_, titled_flatMetadata c n, ?_⟩⟩
  exact congrArg (Fault.ofChecked "SearchHit") (shape_flatMetadata c n 0.0 (.object c.titledMetadata))

/-! ## Reading a source -/

theorem Program.run_request {α β : Type} {distance : Distance} {fails : RequestKind → Bool}
    {r : Request β} {answered : β → α} {otherwise : α} {c last : Collection} {b : β}
    (hfails : r.kind?.any fails = false) (hanswer : r.answer? distance c = some (b, last)) :
    (Program.request r answered otherwise).run distance fails c = (answered b, last) := by
  unfold Program.request Program.run
  rw [hfails, hanswer]
  rfl

/-- One hit has a smaller number than another. -/
def Hit.Precedes (a b : Hit) : Prop :=
  a.number.getD 0 < b.number.getD 0

instance : Std.Irrefl Hit.Precedes :=
  ⟨fun _ h => lt_irrefl _ h⟩

instance : Std.Antisymm Hit.Precedes :=
  ⟨fun _ _ h hback => absurd h (lt_asymm hback)⟩

/-- Hits that are put in the order of their numbers precede one another when no number occurs
twice. -/
theorem pairwise_byNumber {hits : List Hit} (h : (hits.map fun hit => hit.number.getD 0).Nodup) :
    (byNumber hits).Pairwise Hit.Precedes := by
  have hsorted : (byNumber hits).Pairwise fun a b => a.number.getD 0 ≤ b.number.getD 0 :=
    pairwise_mergeSort_key (fun hit : Hit => hit.number.getD 0) hits
  have hdistinct : ((byNumber hits).map fun hit => hit.number.getD 0).Nodup :=
    ((List.mergeSort_perm hits _).map _).nodup_iff.mpr h
  -- Sorting says that no number is smaller than the one before; different numbers say the rest.
  refine (hsorted.and (List.pairwise_map.mp hdistinct)).imp ?_
  rintro a b ⟨hle, hne⟩
  exact lt_of_le_of_ne hle hne

/-- The rows of a source. -/
def Collection.ofSource (c : Collection) (t : SourceType) (id : String) : List Row :=
  c.satisfying (.source t.name id)

theorem Collection.mem_ofSource_iff {c : Collection} {t : SourceType} {id : String} {ch : Chunk}
    {n : Int} : Row.ofChunk ch n ∈ c.ofSource t id ↔
      Row.ofChunk ch n ∈ c.rows ∧ ch.sourceType = t ∧ ch.sourceId = id := by
  unfold ofSource satisfying
  rw [List.mem_filter]
  refine and_congr_right fun _ => (holds_source_iff ch n t.name id).trans ?_
  constructor
  · rintro ⟨htype, rfl⟩
    exact ⟨(SourceType.eq_of_name_eq htype).symm, rfl⟩
  · rintro ⟨rfl, rfl⟩
    exact ⟨rfl, rfl⟩

/-- **A part of a source is read row by row.** When each of its rows can be read, there is one hit for
each, in the order of the numbers. -/
theorem exists_get_run {c : Collection} (hc : c.Sound) {sourceType id : String} {r : Restriction}
    {score : Float} (distance : Distance) {fails : RequestKind → Bool} (hget : fails .get = false)
    (hpart : ∀ row ∈ c.satisfying r, row ∈ c.satisfying (.source sourceType id))
    (hread : ∀ row ∈ c.satisfying r, ∃ hit, row.toHit score = .ok hit) :
    ∃ hits, (get r score).run distance fails c = (.ok hits, c) ∧
      hits.Pairwise Hit.Precedes ∧
      ∀ hit, hit ∈ hits ↔ ∃ row ∈ c.satisfying r, row.toHit score = .ok hit := by
  have : Nonempty Hit := ⟨⟨"", "", "", none, none, 0.0, []⟩⟩
  choose! hitOf hhit using hread
  have hrun : (get r score).run distance fails c =
      (((c.satisfying r).mapM fun row => row.toHit score) >>= fun hits => .ok (byNumber hits), c) := by
    unfold get
    rw [Program.run_request (r := .getWhere r) hget rfl]
    rfl
  -- The keys of a source differ in their numbers only, and a hit has the key of its row.
  have hplace : ∀ row ∈ c.satisfying r,
      row.key = keyOf sourceType id ((hitOf row).number.getD 0) := by
    intro row hrow
    obtain ⟨ch, n, rfl⟩ := hc.ofChunks row (List.mem_of_mem_filter hrow)
    obtain ⟨rfl, rfl⟩ := (holds_source_iff _ _ _ _).mp (List.mem_filter.mp (hpart _ hrow)).2
    rw [eq_of_toHit (hhit _ hrow)]
    rfl
  have hkeys : (c.satisfying r).map Row.key =
      (((c.satisfying r).map hitOf).map fun hit => hit.number.getD 0).map (keyOf sourceType id) := by
    rw [List.map_map, List.map_map]
    exact List.map_congr_left hplace
  have hnumbers : (((c.satisfying r).map hitOf).map fun hit => hit.number.getD 0).Nodup :=
    List.Nodup.of_map (keyOf sourceType id)
      (hkeys ▸ hc.distinct.sublist (List.filter_sublist.map _))
  refine ⟨byNumber ((c.satisfying r).map hitOf), ?_, pairwise_byNumber hnumbers, ?_⟩
  · rw [hrun, mapM_eq_ok hhit]
    rfl
  · intro hit
    rw [byNumber, List.mem_mergeSort, List.mem_map]
    refine exists_congr fun row => and_congr_right fun hrow => ?_
    rw [hhit row hrow, Except.ok.injEq]

/-- A source is read row by row. -/
theorem exists_ofSource_run {c : Collection} (hc : c.Sound) {t : SourceType} {id : String}
    {distance : Distance} {fails : RequestKind → Bool} (hget : fails .get = false)
    (hread : ∀ row ∈ c.ofSource t id, ∃ hit, row.toHit 0.0 = .ok hit) :
    ∃ hits, ((ofSource t.name id).run distance fails c).1 = .ok hits ∧
      hits.Pairwise Hit.Precedes ∧
      ∀ hit, hit ∈ hits ↔ ∃ row ∈ c.ofSource t id, row.toHit 0.0 = .ok hit := by
  obtain ⟨hits, hrun, hordered, hhits⟩ :=
    exists_get_run hc distance hget (fun _ hrow => hrow) hread
  exact ⟨hits, congrArg Prod.fst hrun, hordered, hhits⟩

/-! ## Chunks of a source -/

/-- Chunks of one source in the order of their numbers, with metadata that can be read back. -/
structure Chunked (t : SourceType) (id : String) (chunks : List Chunk) : Prop where
  source : ∀ ch ∈ chunks, ch.sourceType = t ∧ ch.sourceId = id
  ordered : (chunks.map Chunk.number).Pairwise (· < ·)
  legible : ∀ ch ∈ chunks, Json.Legible (.object ch.metadata)

namespace Chunked

variable {t : SourceType} {id : String} {chunks : List Chunk}

theorem key_eq (h : Chunked t id chunks) {ch : Chunk} (hch : ch ∈ chunks) :
    ch.key = keyOf t.name id ch.number := by
  obtain ⟨rfl, rfl⟩ := h.source ch hch
  rfl

theorem nodup_keys (h : Chunked t id chunks) : (chunks.map Chunk.key).Nodup := by
  have hnumbers : (chunks.map Chunk.number).Nodup := h.ordered.imp fun hlt => ne_of_lt hlt
  -- Keys of one source differ in their numbers only.
  refine List.Nodup.map_on ?_ (List.Nodup.of_map _ hnumbers)
  intro a ha b hb hkey
  rw [h.key_eq ha, h.key_eq hb] at hkey
  exact List.inj_on_of_nodup_map hnumbers ha hb (keyOf_inj hkey).2.2

theorem pairwise_stored (h : Chunked t id chunks) :
    (chunks.map Chunk.stored).Pairwise Hit.Precedes := by
  rw [List.pairwise_map]
  refine (List.pairwise_map.mp h.ordered).imp ?_
  intro a b hlt
  exact Int.ofNat_lt.mpr hlt

theorem nil : Chunked t id [] :=
  ⟨fun _ h => absurd h List.not_mem_nil, .nil, fun _ h => absurd h List.not_mem_nil⟩

theorem cons (h : Chunked t id chunks) {first : Chunk}
    (hsource : first.sourceType = t ∧ first.sourceId = id)
    (hfirst : ∀ ch ∈ chunks, first.number < ch.number)
    (hlegible : Json.Legible (.object first.metadata)) : Chunked t id (first :: chunks) := by
  refine ⟨List.forall_mem_cons.mpr ⟨hsource, h.source⟩, ?_,
    List.forall_mem_cons.mpr ⟨hlegible, h.legible⟩⟩
  rw [List.map_cons, List.pairwise_cons]
  exact ⟨List.forall_mem_map.mpr hfirst, h.ordered⟩

end Chunked

theorem mem_numbered_le {α : Type} {n : Nat} {items : List α} {a : Nat × α}
    (h : a ∈ numbered n items) : n ≤ a.1 := by
  induction items generalizing n with
  | nil => cases h
  | cons item items ih =>
    rcases List.mem_cons.mp h with rfl | hrest
    · exact le_refl n
    · exact Nat.le_of_succ_le (ih hrest)

/-- Chunks that are made of numbered items are in order. -/
theorem chunked_map_numbered {α : Type} {t : SourceType} {id : String} {f : Nat × α → Chunk}
    (hnumber : ∀ a, (f a).number = a.1) (hsource : ∀ a, (f a).sourceType = t ∧ (f a).sourceId = id)
    (hlegible : ∀ a, Json.Legible (.object (f a).metadata)) (n : Nat) (items : List α) :
    Chunked t id ((numbered n items).map f) := by
  induction items generalizing n with
  | nil => exact .nil
  | cons item items ih =>
    refine (ih (n + 1)).cons (hsource _) ?_ (hlegible _)
    intro ch hch
    obtain ⟨a, ha, rfl⟩ := List.mem_map.mp hch
    rw [hnumber, hnumber]
    exact mem_numbered_le ha

/-! ### Their metadata -/

theorem legible_ofText? (text : Option String) : Json.Legible (.ofText? text) := by
  rcases text with _ | s
  · exact .null
  · exact .text s

theorem legible_ofTexts (texts : List String) : Json.Legible (.ofTexts texts) := by
  refine .list fun v hv => ?_
  obtain ⟨s, _, rfl⟩ := List.mem_map.mp hv
  exact .text s

theorem legible_conversationMetadata (t : Ticket) (d : Decision.Summary) :
    Json.Legible (.object (conversationMetadata t d)) := by
  have hnames : Entries.names (conversationMetadata t d) = ["ticket_id", "module", "area", "category",
      "problem_summary", "solution_steps", "generated_queries", "tags"] := rfl
  refine .object (hnames ▸ by decide) fun e he => ?_
  simp only [conversationMetadata, Decision.Summary.toEntries, List.cons_append, List.nil_append,
    List.mem_cons, List.not_mem_nil, or_false] at he
  rcases he with rfl | rfl | rfl | rfl | rfl | rfl | rfl | rfl
  · exact .text _
  · exact legible_ofText? _
  · exact legible_ofText? _
  · exact legible_ofText? _
  · exact .text _
  · exact legible_ofTexts _
  · exact legible_ofTexts _
  · exact legible_ofTexts _

theorem legible_summaryMark {metadata : Entries} (h : Json.Legible (.object metadata)) (b : Bool) :
    Json.Legible (.object (summaryMark b metadata)) := by
  obtain ⟨hnames, hvalues⟩ : (Entries.names metadata).Nodup ∧ ∀ e ∈ metadata, Json.Legible e.2 := by
    cases h with
    | object hnames hvalues => exact ⟨hnames, hvalues⟩
  refine .object (Entries.nodup_names_put hnames) fun e he => ?_
  rcases Entries.eq_or_mem_of_mem_put he with rfl | hold
  · exact .bool b
  · exact hvalues e hold

theorem chunked_conversation {s : Settings} {source : SourceType} {t : Ticket} {transcript : String}
    {d : Decision.Summary} {chunks : List Chunk}
    (h : conversationChunks s source t transcript d = .ok chunks) : Chunked source t.id chunks := by
  unfold conversationChunks at h
  obtain ⟨content, _, h⟩ := bind_eq_ok_iff.mp h
  obtain ⟨passages, _, h⟩ := bind_eq_ok_iff.mp h
  cases h
  have hmarked := legible_summaryMark (legible_conversationMetadata t d)
  refine Chunked.cons ?_ ⟨rfl, rfl⟩ ?_ (hmarked true)
  · refine chunked_map_numbered ?_ ?_ ?_ 1 passages
    · exact fun _ => rfl
    · exact fun _ => ⟨rfl, rfl⟩
    · exact fun _ => hmarked false
  · intro ch hch
    obtain ⟨a, ha, rfl⟩ := List.mem_map.mp hch
    exact mem_numbered_le ha

/-- A title that is no text stops a document at its first passage. -/
theorem chunked_document {s : Settings} {d : Document} {id : String} {chunks : List Chunk}
    (hid : d.sourceId = .text id) (hlegible : Json.Legible (.object d.metadata))
    (h : d.chunks s = .ok chunks) : Chunked .generalKnowledge id chunks := by
  unfold Document.chunks at h
  obtain ⟨passages, _, h⟩ := bind_eq_ok_iff.mp h
  rcases htitle : Shape.orNull Shape.text d.title with title | issues
  · have hchunk : ∀ a ∈ numbered 1 passages, d.chunk a.1 a.2 =
        .ok ⟨.generalKnowledge, id, a.1, title, a.2, summaryMark false d.metadata⟩ := by
      intro a _
      unfold Document.chunk
      rw [hid, htitle]
      rfl
    rw [mapM_eq_ok hchunk] at h
    cases h
    refine chunked_map_numbered ?_ ?_ ?_ 1 passages
    · exact fun _ => rfl
    · exact fun _ => ⟨rfl, rfl⟩
    · exact fun _ => legible_summaryMark hlegible false
  · rcases passages with _ | ⟨passage, passages⟩
    · cases h
      exact .nil
    · rw [numbered, List.mapM_cons] at h
      obtain ⟨first, hfirst, _⟩ := bind_eq_ok_iff.mp h
      unfold Document.chunk at hfirst
      rw [hid, htitle] at hfirst
      cases hfirst

/-! ## Writing over a source -/

section Writing

variable {c last : Collection} {t : SourceType} {id : String} {chunks : List Chunk}
  {distance : Distance} {fails : RequestKind → Bool}

/-- The rows of a source that stay when chunks are written. -/
def Collection.leftover (c : Collection) (t : SourceType) (id : String) (chunks : List Chunk) :
    List Row :=
  (c.ofSource t id).filter fun row => row.key ∉ chunks.map Chunk.key

theorem Collection.mem_rows_of_mem_leftover {row : Row} (h : row ∈ c.leftover t id chunks) :
    row ∈ c.rows :=
  have hsource : row ∈ c.ofSource t id := List.mem_of_mem_filter h
  List.mem_of_mem_filter hsource

theorem Collection.map_key_rowsOf (c : Collection) (chunks : List Chunk) :
    (c.rowsOf chunks).map Row.key = chunks.map Chunk.key := by
  rw [rowsOf, List.map_map]
  rfl

/-- What a collection holds after chunks were written. -/
theorem row?_of_upsert (hc : c.Sound)
    (hwrite : (upsert chunks).run distance fails c = (.ok (), last)) :
    last.Sound ∧ ∀ key, last.row? key =
      ((c.rowsOf chunks).find? fun r => r.key = key).or (c.row? key) := by
  obtain ⟨answered, hend⟩ := (upsert chunks).mayEnd_run distance fails c
  rw [hwrite] at hend
  rcases mayEnd_upsert hc hend with ⟨_, hfailed, _⟩ | ⟨_, _, hsound, hrow⟩
  · cases hfailed
  · refine ⟨hsound, fun key => ?_⟩
    rw [hrow key, c.find?_rowsOf]

/-- Chunks are written when their keys are different and no request fails. -/
theorem exists_run_upsert (hc : c.Sound) (hkeys : (chunks.map Chunk.key).Nodup) :
    ∃ last, (upsert chunks).run distance (fun _ => false) c = (.ok (), last) := by
  by_cases hempty : chunks.isEmpty = true
  · exact ⟨c, by rw [upsert, if_pos hempty]; rfl⟩
  · have hdistinct : Collection.haveDistinctKeys (c.rowsOf chunks) = true := by
      rw [Collection.haveDistinctKeys_iff, c.map_key_rowsOf]
      exact hkeys
    obtain ⟨last, hlast⟩ : ∃ last, c.upsert? (c.rowsOf chunks) = some last := by
      unfold Collection.upsert?
      rw [if_pos hdistinct]
      exact ⟨_, rfl⟩
    have hanswer : Request.answer? distance c (.upsert (c.rowsOf chunks)) = some ((), last) := by
      rw [Request.answer?, hlast]
      rfl
    refine ⟨last, ?_⟩
    unfold upsert
    simp only [hempty, Program.run, Request.kind?, Option.any_some, Bool.false_eq_true, ↓reduceIte,
      Request.answer?, accessCounts_eq (hc.ofChunks_withKeys _)]
    exact Program.run_request rfl hanswer

/-- After any history chunks can be written when their keys are different. -/
theorem History.exists_write {h : List Event} (hh : History h c)
    (hkeys : (chunks.map Chunk.key).Nodup) :
    ∃ last, History (h ++ [⟨.upsert chunks, true, false⟩]) last := by
  obtain ⟨last, hrun⟩ : ∃ last, (upsert chunks).run (fun _ _ => 0.0) (fun _ => false) c =
      (.ok (), last) := exists_run_upsert hh.recorded.sound hkeys
  obtain ⟨answered, hend⟩ := (upsert chunks).mayEnd_run (fun _ _ => 0.0) (fun _ => false) c
  rw [hrun] at hend
  -- What was written without a fault was answered.
  rcases mayEnd_upsert hh.recorded.sound hend with ⟨_, hfault, _⟩ | ⟨rfl, _⟩
  · cases hfault
  · exact ⟨last, hh.step _ _ ⟨_, hend, rfl⟩⟩

theorem mem_rows_of_upsert (hc : c.Sound) (hchunks : Chunked t id chunks)
    (hwrite : (upsert chunks).run distance fails c = (.ok (), last)) (row : Row) :
    row ∈ last.rows ↔
      row ∈ c.rowsOf chunks ∨ row ∈ c.rows ∧ row.key ∉ chunks.map Chunk.key := by
  obtain ⟨hlast, hrow⟩ := row?_of_upsert hc hwrite
  have hdistinct : Collection.Distinct ⟨c.rowsOf chunks⟩ := by
    unfold Collection.Distinct
    rw [c.map_key_rowsOf]
    exact hchunks.nodup_keys
  -- A row is in a collection when it stands under its key.
  have hmem : row ∈ last.rows ↔ last.row? row.key = some row := by
    rw [Collection.row?_eq_some_iff hlast.distinct, and_iff_left rfl]
  have hold : row ∈ c.rows ↔ c.row? row.key = some row := by
    rw [Collection.row?_eq_some_iff hc.distinct, and_iff_left rfl]
  have hnew : row ∈ c.rowsOf chunks ↔
      ((c.rowsOf chunks).find? fun r => r.key = row.key) = some row :=
    (and_iff_left rfl).symm.trans (Collection.row?_eq_some_iff hdistinct).symm
  have hnone : ((c.rowsOf chunks).find? fun r => r.key = row.key) = none ↔
      row.key ∉ chunks.map Chunk.key := by
    rw [List.find?_eq_none, ← c.map_key_rowsOf, List.mem_map]
    simp
  rw [hmem, hrow, Option.or_eq_some_iff, ← hnew, hnone, ← hold]
  exact or_congr_right and_comm

theorem mem_ofSource_of_upsert (hc : c.Sound) (hchunks : Chunked t id chunks)
    (hwrite : (upsert chunks).run distance fails c = (.ok (), last)) (row : Row) :
    row ∈ last.ofSource t id ↔ row ∈ c.rowsOf chunks ∨ row ∈ c.leftover t id chunks := by
  -- The restriction to the source lets every row pass that is written for it.
  have hnew : row ∈ c.rowsOf chunks →
      (Restriction.source t.name id).holds row.metadata = true := by
    intro hrow
    obtain ⟨ch, hch, rfl⟩ := List.mem_map.mp hrow
    obtain ⟨rfl, rfl⟩ := hchunks.source ch hch
    exact (holds_source_iff ch _ _ _).mpr ⟨rfl, rfl⟩
  unfold Collection.leftover Collection.ofSource Collection.satisfying
  rw [List.mem_filter, List.mem_filter, List.mem_filter, mem_rows_of_upsert hc hchunks hwrite,
    decide_eq_true_eq]
  tauto

/-- **What a source gives after chunks of it were written**: the chunks, and what can be read of its
other rows. -/
theorem exists_ofSource_of_upsert (hc : c.Sound) (hchunks : Chunked t id chunks)
    (hwrite : (upsert chunks).run distance fails c = (.ok (), last)) (hget : fails .get = false)
    (hread : ∀ row ∈ c.leftover t id chunks, ∃ hit, row.toHit 0.0 = .ok hit) :
    ∃ hits, ((ofSource t.name id).run distance fails last).1 = .ok hits ∧
      hits.Pairwise Hit.Precedes ∧
      ∀ hit, hit ∈ hits ↔
        hit ∈ chunks.map Chunk.stored ∨ ∃ row ∈ c.leftover t id chunks, row.toHit 0.0 = .ok hit := by
  have hmem := mem_ofSource_of_upsert hc hchunks hwrite
  have hnew : ∀ row ∈ c.rowsOf chunks, ∃ ch ∈ chunks, row.toHit 0.0 = .ok ch.stored := by
    intro row hrow
    obtain ⟨ch, hch, rfl⟩ := List.mem_map.mp hrow
    exact ⟨ch, hch, toHit_ofChunk (hchunks.legible ch hch) _⟩
  have hreadable : ∀ row ∈ last.ofSource t id, ∃ hit, row.toHit 0.0 = .ok hit := by
    intro row hrow
    rcases (hmem row).mp hrow with hwritten | hleft
    · obtain ⟨ch, _, hstored⟩ := hnew row hwritten
      exact ⟨ch.stored, hstored⟩
    · exact hread row hleft
  obtain ⟨hits, hrun, hordered, hhits⟩ :=
    exists_ofSource_run (row?_of_upsert hc hwrite).1 hget hreadable
  refine ⟨hits, hrun, hordered, fun hit => (hhits hit).trans ?_⟩
  constructor
  · rintro ⟨row, hrow, hhit⟩
    rcases (hmem row).mp hrow with hwritten | hleft
    · obtain ⟨ch, hch, hstored⟩ := hnew row hwritten
      cases hstored.symm.trans hhit
      exact Or.inl (List.mem_map_of_mem hch)
    · exact Or.inr ⟨row, hleft, hhit⟩
  · rintro (hwritten | ⟨row, hleft, hhit⟩)
    · obtain ⟨ch, hch, rfl⟩ := List.mem_map.mp hwritten
      exact ⟨_, (hmem _).mpr (Or.inl (List.mem_map_of_mem hch)),
        toHit_ofChunk (hchunks.legible ch hch) _⟩
    · exact ⟨row, (hmem row).mpr (Or.inr hleft), hhit⟩

/-- Keys of other sources are not written. -/
theorem row?_of_upsert_of_ne (hc : c.Sound) (hchunks : Chunked t id chunks)
    (hwrite : (upsert chunks).run distance fails c = (.ok (), last)) {u : SourceType}
    {other : String} (hother : (u, other) ≠ (t, id)) (n : Nat) :
    last.row? (keyOf u.name other n) = c.row? (keyOf u.name other n) := by
  have hnone : ((c.rowsOf chunks).find? fun r => r.key = keyOf u.name other n) = none := by
    refine List.find?_eq_none.mpr ?_
    intro row hrow hkey
    obtain ⟨ch, hch, rfl⟩ := List.mem_map.mp hrow
    have hsame := keyOf_inj ((hchunks.key_eq hch).symm.trans (of_decide_eq_true hkey))
    exact hother (by rw [hsame.1, hsame.2.1])
  rw [(row?_of_upsert hc hwrite).2, hnone, Option.none_or]

end Writing

/-! ## Indexing -/

/-- A question is put to a collection that is a part of the outside. -/
def Asks {α : Type} (question : Ask σ α) (view : σ → Collection) (distance : Distance)
    (fails : RequestKind → Bool) (p : Program (Outcome α)) : Prop :=
  ∀ s, ((question.run.run s).1, view (question.run.run s).2) = p.run distance fails (view s)

/-- A store that keeps its sources in a collection. -/
structure Store.Over (store : Store σ) (view : σ → Collection) (distance : Distance)
    (fails : RequestKind → Bool) : Prop where
  upsert : ∀ chunks, Asks (store.upsert chunks) view distance fails (Knowledge.upsert chunks)
  ofSource : ∀ sourceType id, Asks (store.ofSource sourceType id) view distance fails
    (Knowledge.ofSource sourceType id)

theorem Store.over_ofCollection (distance : Distance) (fails : RequestKind → Bool) :
    (Store.ofCollection distance fails).Over id distance fails :=
  ⟨fun _ _ => rfl, fun _ _ _ => rfl⟩

/-- What can be indexed. -/
inductive Matter where
  | conversation (source : SourceType) (t : Ticket) (messages : List Message)
  | document (id : String) (title : Value) (text : String) (metadata : Entries)

namespace Matter

/-- The type of the source that it is indexed as. -/
def sourceType : Matter → SourceType
  | conversation source _ _ => source
  | document _ _ _ _ => .generalKnowledge

/-- The source that it is indexed as. -/
def id : Matter → String
  | conversation _ t _ => t.id
  | document id _ _ _ => id

/-- Indexes it. -/
def index (m : Matter) (p : Model.Provider σ) (store : Store σ) (s : Settings) :
    Attempt σ (List Chunk) :=
  match m with
  | conversation source t messages => indexConversation p store s source t messages
  | document id title text metadata => indexDocument store s ⟨.text id, title, text, metadata⟩

/-- What its author adds to its chunks can be read back. -/
def IsLegible : Matter → Prop
  | conversation _ _ _ => True
  | document _ _ _ metadata => Json.Legible (.object metadata)

end Matter

theorem preserves_summarize {p : Model.Provider σ} {view : σ → Collection} (hp : p.Spares view)
    (c : Collection) (s : Settings) (t : Ticket) (content : Value) :
    Preserves (fun outside => view outside = c) (summarize p s t content) := by
  unfold summarize
  refine (hp.preserves_decide c _ _ _).bind fun answer => ?_
  rcases answer with fault | summary
  · exact (Preserves.note _).bind fun _ => Preserves.pure _
  · exact Preserves.pure _

theorem eq_of_indexed {store : Store σ} {chunks found : List Chunk} {w last : World σ}
    (h : (indexed store chunks).run.run w = (.ok found, last)) :
    found = chunks ∧ (store.upsert chunks).run.run w.outside = (.ok (), last.outside) := by
  obtain ⟨_, after, hask, hpure⟩ := Attempt.run_bind_eq_ok_iff.mp h
  obtain ⟨hfound, rfl⟩ := Prod.mk.inj hpure
  obtain ⟨hwritten, rfl⟩ := Prod.mk.inj hask
  cases hfound
  exact ⟨rfl, Prod.ext hwritten rfl⟩

/-- Whatever is indexed, all that happens to the collection is that chunks of its source are
written. -/
theorem upsert_run_of_index {p : Model.Provider σ} {store : Store σ} {view : σ → Collection}
    {distance : Distance} {fails : RequestKind → Bool} (hp : p.Spares view)
    (hstore : store.Over view distance fails) {s : Settings} {m : Matter} (hm : m.IsLegible)
    {w last : World σ} {chunks : List Chunk}
    (h : (m.index p store s).run.run w = (.ok chunks, last)) :
    Chunked m.sourceType m.id chunks ∧
      (upsert chunks).run distance fails (view w.outside) = (.ok (), view last.outside) := by
  have hwritten : ∀ outside, view outside = view w.outside →
      (store.upsert chunks).run.run outside = (.ok (), last.outside) →
        (upsert chunks).run distance fails (view w.outside) = (.ok (), view last.outside) := by
    intro outside hsame hwrite
    rw [← hsame, ← hstore.upsert chunks outside, hwrite]
  cases m with
  | conversation source t messages =>
    obtain ⟨said, _, hsaid, h⟩ := Attempt.run_bind_eq_ok_iff.mp h
    obtain ⟨images, _, himages, h⟩ := Attempt.run_bind_eq_ok_iff.mp h
    obtain ⟨prompt, _, hprompt, h⟩ := Attempt.run_bind_eq_ok_iff.mp h
    obtain ⟨summary, asked, hsummary, h⟩ := Attempt.run_bind_eq_ok_iff.mp h
    obtain ⟨made, _, hmade, h⟩ := Attempt.run_bind_eq_ok_iff.mp h
    obtain ⟨_, rfl⟩ := Prod.mk.inj hsaid
    obtain ⟨_, rfl⟩ := Prod.mk.inj himages
    obtain ⟨_, rfl⟩ := Prod.mk.inj hprompt
    obtain ⟨hchunks, rfl⟩ := Prod.mk.inj hmade
    obtain ⟨rfl, hwrite⟩ := eq_of_indexed h
    -- Only the question for the summary comes before, and it leaves the collection as it is.
    have hkept := (preserves_summarize hp (view w.outside) s t (withImages prompt images)).sure w rfl
    rw [hsummary] at hkept
    exact ⟨chunked_conversation hchunks, hwritten asked.outside hkept hwrite⟩
  | document id title text metadata =>
    obtain ⟨made, _, hmade, h⟩ := Attempt.run_bind_eq_ok_iff.mp h
    obtain ⟨hchunks, rfl⟩ := Prod.mk.inj hmade
    obtain ⟨rfl, hwrite⟩ := eq_of_indexed h
    refine ⟨chunked_document rfl ?_ hchunks, hwritten w.outside rfl hwrite⟩
    exact hm

/-- **Indexing a source again writes over its chunks by their numbers.** The collection before may be
any that a history of the knowledge base ends in, since these are sound. Afterwards the source gives,
in the order of their numbers, the chunks that were returned and what was left over from before: the
rows of the source whose keys are not among the new ones. So it gives the chunks and nothing else when
no row is left over. The rows of other sources are as they were. -/
theorem reindexing_writes_over_chunks {p : Model.Provider σ} {store : Store σ}
    {view : σ → Collection} {distance : Distance} {fails : RequestKind → Bool}
    (hp : p.Spares view) (hstore : store.Over view distance fails) (hget : fails .get = false)
    {s : Settings} {m : Matter} (hm : m.IsLegible) {w last : World σ} {chunks : List Chunk}
    (hindex : (m.index p store s).run.run w = (.ok chunks, last)) (hsound : (view w.outside).Sound)
    (hread : ∀ row ∈ (view w.outside).leftover m.sourceType m.id chunks,
      ∃ hit, row.toHit 0.0 = .ok hit) :
    (∃ hits, ((store.ofSource m.sourceType.name m.id).run.run last.outside).1 = .ok hits ∧
      hits.Pairwise Hit.Precedes ∧
      (∀ hit, hit ∈ hits ↔ hit ∈ chunks.map Chunk.stored ∨
        ∃ row ∈ (view w.outside).leftover m.sourceType m.id chunks, row.toHit 0.0 = .ok hit) ∧
      ((view w.outside).leftover m.sourceType m.id chunks = [] →
        hits = chunks.map Chunk.stored)) ∧
    ∀ t id (n : Nat), (t, id) ≠ (m.sourceType, m.id) →
      (view last.outside).row? (keyOf t.name id n) = (view w.outside).row? (keyOf t.name id n) := by
  obtain ⟨hchunks, hwrite⟩ := upsert_run_of_index hp hstore hm hindex
  obtain ⟨hits, hrun, hordered, hhits⟩ :=
    exists_ofSource_of_upsert hsound hchunks hwrite hget hread
  have hasked : ((store.ofSource m.sourceType.name m.id).run.run last.outside).1 = .ok hits := by
    rw [← hrun, ← hstore.ofSource m.sourceType.name m.id last.outside]
  refine ⟨⟨hits, hasked, hordered, hhits, fun hnone => ?_⟩, fun t id n hother =>
    row?_of_upsert_of_ne hsound hchunks hwrite hother n⟩
  refine hordered.eq_of_mem_iff hchunks.pairwise_stored fun hit => ?_
  rw [hhits, hnone]
  simp only [List.not_mem_nil, false_and, exists_false, or_false]

/-! ### A document that got shorter -/

theorem passages?_letter {limit : Int} (h : 1 ≤ limit) : passages? "b" limit = some ["b"] := by
  have hparagraphs : paragraphs "b".toList = [['b']] := by
    simp [paragraphs, paragraphsFrom]
  have hfit : Packing.fit? limit ⟨[], []⟩ ['b'] = some ⟨[], ['b']⟩ := by
    simp [Packing.fit?, Packing.joined, h]
  unfold passages?
  rw [hparagraphs, List.foldlM_cons, Packing.addParagraph?, hfit]
  rfl

/-- A passage of a guide. -/
def guidePart (number : Nat) (content : String) : Chunk :=
  ⟨.generalKnowledge, "guide", number, none, content, [("is_summary", .bool false)]⟩

/-- A guide of two passages, the first of which was used. -/
def longGuide : Collection :=
  ⟨[.ofChunk (guidePart 1 "a") 5, .ofChunk (guidePart 2 "c") 0]⟩

/-- The guide when all but one letter was taken out of it. -/
def shortGuide : Matter :=
  .document "guide" .null "b" []

/-- A store over a collection whose requests do not fail. -/
def steadyStore : Store Collection :=
  .ofCollection (fun _ _ => 0.0) fun _ => false

/-- A model that gives no answer. -/
def absentModel : Model.Provider Collection where
  build := fun _ => pure ()
  decide := fun _ _ _ => throw .timedOut
  write := fun _ _ => throw .timedOut

theorem spares_absentModel : absentModel.Spares id :=
  ⟨fun _ _ => rfl, fun _ _ _ _ => rfl⟩

theorem legible_guidePart (number : Nat) (content : String) :
    Json.Legible (.object (guidePart number content).metadata) := by
  refine .object (List.pairwise_singleton _ _) fun e he => ?_
  rw [List.mem_singleton.mp he]
  exact .bool false

theorem chunked_guidePart : Chunked .generalKnowledge "guide" [guidePart 1 "a", guidePart 2 "c"] :=
  ⟨by simp [guidePart], by decide, fun ch hch => by
    rcases List.mem_pair.mp hch with rfl | rfl <;> exact legible_guidePart _ _⟩

theorem sound_longGuide : longGuide.Sound := by
  refine ⟨chunked_guidePart.nodup_keys, fun row hrow => ?_⟩
  rcases List.mem_pair.mp hrow with rfl | rfl <;> exact ⟨_, _, rfl⟩

/-- Both keys of the long guide are kept; the first stands for another text afterwards. -/
theorem exists_index_shortGuide : ∃ s after, Settings.shape (.object []) = .valid s ∧
    (shortGuide.index absentModel steadyStore s).run.run ⟨longGuide, [], []⟩ =
      (.ok [guidePart 1 "b"], ⟨after, [], []⟩) := by
  obtain ⟨s, hs, hroom⟩ : ∃ s, Settings.shape (.object []) = .valid s ∧ 1 ≤ s.chunkMaxChars :=
    ⟨_, rfl, by decide⟩
  have hchunks : Document.chunks s ⟨.text "guide", .null, "b", []⟩ = .ok [guidePart 1 "b"] := by
    unfold Document.chunks passagesOf
    rw [passages?_letter hroom]
    rfl
  obtain ⟨after, hwrite⟩ : ∃ after, (upsert [guidePart 1 "b"]).run (fun _ _ => 0.0) (fun _ => false)
      longGuide = (.ok (), after) :=
    exists_run_upsert sound_longGuide (List.pairwise_singleton _ _)
  have hask : (Attempt.ask (steadyStore.upsert [guidePart 1 "b"])).run.run ⟨longGuide, [], []⟩ =
      (.ok (), ⟨after, [], []⟩) :=
    congrArg (fun written : Outcome Unit × Collection =>
      (written.1, (⟨written.2, [], []⟩ : World Collection))) hwrite
  refine ⟨s, after, hs, ?_⟩
  refine Attempt.run_bind_eq_ok_iff.mpr ⟨_, _, congrArg (·, _) hchunks, ?_⟩
  exact Attempt.run_bind_eq_ok_iff.mpr ⟨(), _, hask, rfl⟩

theorem leftover_longGuide : Row.ofChunk (guidePart 2 "c") 0 ∈
    longGuide.leftover .generalKnowledge "guide" [guidePart 1 "b"] := by
  refine List.mem_filter.mpr ⟨Collection.mem_ofSource_iff.mpr ⟨?_, rfl, rfl⟩, decide_eq_true ?_⟩
  · exact List.mem_cons_of_mem _ List.mem_cons_self
  · intro hmem
    have hsame := keyOf_inj (List.mem_singleton.mp hmem)
    exact absurd hsame.2.2 (by decide)

theorem legible_shortGuide : shortGuide.IsLegible :=
  .object .nil fun _ he => absurd he List.not_mem_nil

theorem readable_longGuide (row : Row)
    (hrow : row ∈ longGuide.leftover .generalKnowledge "guide" [guidePart 1 "b"]) :
    ∃ hit, row.toHit 0.0 = .ok hit := by
  have hmem : row ∈ longGuide.rows := Collection.mem_rows_of_mem_leftover hrow
  rcases List.mem_pair.mp hmem with rfl | rfl
  all_goals exact ⟨_, toHit_ofChunk (legible_guidePart _ _) _⟩

theorem reindexing_writes_over_chunks_shortGuide : ∃ s last,
    Settings.shape (.object []) = .valid s ∧
    (shortGuide.index absentModel steadyStore s).run.run ⟨longGuide, [], []⟩ =
      (.ok [guidePart 1 "b"], last) ∧
    ∃ hits, ((steadyStore.ofSource "general_knowledge" "guide").run.run last.outside).1 = .ok hits ∧
      hits.Pairwise Hit.Precedes ∧ (guidePart 1 "b").stored ∈ hits ∧
      (guidePart 2 "c").stored ∈ hits := by
  obtain ⟨s, after, hs, hindex⟩ := exists_index_shortGuide
  obtain ⟨⟨hits, hread, hordered, hhits, _⟩, _⟩ := reindexing_writes_over_chunks spares_absentModel
    (Store.over_ofCollection _ _) rfl legible_shortGuide hindex sound_longGuide readable_longGuide
  refine ⟨s, _, hs, hindex, hits, hread, hordered, (hhits _).mpr (Or.inl List.mem_cons_self), ?_⟩
  exact (hhits _).mpr (Or.inr ⟨_, leftover_longGuide, toHit_ofChunk (legible_guidePart 2 "c") 0⟩)

/-- A passage beyond the end of the shorter guide is still given for it. -/
theorem shortGuide_keeps_passage : ∃ s chunks last hits,
    Settings.shape (.object []) = .valid s ∧ longGuide.Sound ∧
    (shortGuide.index absentModel steadyStore s).run.run ⟨longGuide, [], []⟩ = (.ok chunks, last) ∧
    ((steadyStore.ofSource "general_knowledge" "guide").run.run last.outside).1 = .ok hits ∧
    hits ≠ chunks.map Chunk.stored := by
  obtain ⟨s, after, hs, hindex⟩ := exists_index_shortGuide
  obtain ⟨hchunks, hwrite⟩ := upsert_run_of_index spares_absentModel (Store.over_ofCollection _ _)
    legible_shortGuide hindex
  obtain ⟨hits, hread, _, hhits⟩ :=
    exists_ofSource_of_upsert sound_longGuide hchunks hwrite rfl readable_longGuide
  refine ⟨s, _, _, hits, hs, sound_longGuide, hindex, hread, fun hsame => ?_⟩
  have hmem : (guidePart 2 "c").stored ∈ hits :=
    (hhits _).mpr (Or.inr ⟨_, leftover_longGuide, toHit_ofChunk (legible_guidePart 2 "c") 0⟩)
  rw [hsame] at hmem
  have hnumber : (2 : Int) = 1 :=
    Option.some.inj (congrArg Hit.number (List.mem_singleton.mp hmem))
  exact absurd hnumber (by decide)

end Helpdesk.Knowledge
