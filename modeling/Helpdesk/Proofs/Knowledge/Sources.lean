import Helpdesk.Proofs.Json.Numeral
import Helpdesk.Proofs.Knowledge.Reindexing

/-!
# Helpdesk.Proofs.Knowledge.Sources — what a source gives, what stands around a number, what is removed.

A source is read, looked around in and removed by restrictions on the flat entries of its rows. All
three speak of the chunks that a history tells of under the source, and of no others: a restriction
compares whole texts, so a colon in an id or an id that another one starts with makes no difference.
Hits carry metadata as its text reads back. Text is read back unless an integer in it has more digits
than are read; an integer like that is refused when the text is written, so no row holds one, and the
chunks here are taken to hold none.
-/
namespace Helpdesk.Knowledge

/-! ## What a row carries -/

/-- Metadata as its text reads back. -/
def carriedMetadata (metadata : Entries) : Entries :=
  (((Json.read (Json.write (.object metadata))).toOption.bind Value.entries?)).getD []

/-- A chunk as its row carries it. -/
def Chunk.carried (c : Chunk) : Chunk :=
  { c with metadata := carriedMetadata c.metadata }

/-- No integer in the metadata of a chunk has more digits than are read. -/
def Chunk.Readable (c : Chunk) : Prop :=
  Json.Short (.object c.metadata)

/-- Legible metadata is carried as it is. -/
theorem Chunk.carried_of_legible {c : Chunk} (h : Json.Legible (.object c.metadata)) :
    c.carried = c := by
  have hsame : carriedMetadata c.metadata = c.metadata := by
    rw [carriedMetadata, Json.read_write h]
    rfl
  rw [carried, hsame]

theorem Chunk.Readable.readMetadata {c : Chunk} (h : c.Readable) (n : Int) :
    readMetadata (c.flatMetadata n) = .ok (.object c.carried.metadata) := by
  obtain ⟨found, hfound⟩ := Json.exists_read_write_object h
  have hcarried : c.carried.metadata = found := by
    show carriedMetadata c.metadata = found
    rw [carriedMetadata, hfound]
    rfl
  rw [readMetadata_flatMetadata, readMetadataText, hfound, hcarried]

/-- The chunk that a history tells of under a source and a number: the one that was written last, if
any was since the source was last removed. -/
def Stored (h : List Event) (sourceType sourceId : String) (n : Nat) (c : Chunk) : Prop :=
  ∃ t : SourceType, t.name = sourceType ∧
    latest? (keyOf t.name sourceId n) (since t sourceId h) = some c

/-- The chunk that was written last was written by some event, under its own key. -/
theorem exists_written_of_latest? {key : String} {h : List Event} {c : Chunk}
    (hlatest : latest? key h = some c) :
    c.key = key ∧ ∃ e ∈ h, ∃ chunks, e.operation = .upsert chunks ∧ c ∈ chunks := by
  obtain ⟨e, he, hwritten⟩ := List.mem_filterMap.mp (List.mem_of_getLast? hlatest)
  unfold Event.written? at hwritten
  split at hwritten
  · cases hwritten
  · split at hwritten
    · next chunks hoperation =>
      exact ⟨by simpa using List.find?_some hwritten, e, he, chunks, hoperation,
        List.mem_of_find?_eq_some hwritten⟩
    · cases hwritten

/-- What is stored under a source and a number is a chunk of that source and that number. -/
theorem Stored.place {h : List Event} {sourceType sourceId : String} {n : Nat} {c : Chunk}
    (hstored : Stored h sourceType sourceId n c) :
    c.sourceType.name = sourceType ∧ c.sourceId = sourceId ∧ c.number = n := by
  obtain ⟨t, rfl, hlatest⟩ := hstored
  obtain ⟨rfl, hid, hnumber⟩ := keyOf_inj (exists_written_of_latest? hlatest).1
  exact ⟨rfl, hid, hnumber⟩

theorem Stored.written {h : List Event} {sourceType sourceId : String} {n : Nat} {c : Chunk}
    (hstored : Stored h sourceType sourceId n c) :
    ∃ e ∈ h, ∃ chunks, e.operation = .upsert chunks ∧ c ∈ chunks := by
  obtain ⟨t, _, hlatest⟩ := hstored
  obtain ⟨_, e, he, hwritten⟩ := exists_written_of_latest? hlatest
  exact ⟨e, (List.rtakeWhile_suffix _ h).subset he, hwritten⟩

section Recorded

variable {h : List Event} {c : Collection} {distance : Distance} {fails : RequestKind → Bool}

/-- The hits that are no farther away from a number than a window, with another score. -/
def around (hits : List Hit) (number window : Int) (score : Float) : List Hit :=
  (hits.filter fun hit => decide (|hit.number.getD 0 - number| ≤ window)).map fun hit =>
    { hit with score := score }

end Recorded

/-! ## Removing a source -/

variable {h : List Event} {c last : Collection} {distance : Distance} {fails : RequestKind → Bool}

/-- A note without metadata. -/
def note (id : String) : Chunk :=
  ⟨.generalKnowledge, id, 0, none, "Ask the night shift.", []⟩

end Helpdesk.Knowledge
