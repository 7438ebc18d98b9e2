import Helpdesk.Knowledge.Row
import Helpdesk.Proofs.Json.RoundTrip
import Helpdesk.Proofs.Validation

/-!
# Helpdesk.Proofs.Knowledge.Metadata — what a chunk says of itself survives its row.

A row keeps the free-form metadata of a chunk as one text, its title beside it, and its source and
number once more as flat entries. Reading the row gives the chunk back as a hit. The title moves into
the metadata on the way, unless it is empty or the metadata has a title of its own. Integers with more
digits than JSON text is read with are the one thing that goes in and does not come out.
-/
namespace Helpdesk.Knowledge

/-- The metadata of a chunk together with its title: one more entry, at the end, when the title is
not empty and the metadata has no title. -/
def Chunk.titledMetadata (c : Chunk) : Entries :=
  if (c.title.getD "").isEmpty || Entries.has "title" c.metadata then c.metadata
  else c.metadata ++ [("title", .text (c.title.getD ""))]

/-! ## What the flat metadata holds -/

theorem value?_metadata_flatMetadata (c : Chunk) (n : Int) :
    Entries.value? "metadata_json" (c.flatMetadata n) =
      some (.text (Json.write (.object c.metadata))) := by
  simp [Chunk.flatMetadata, Entries.value?]

theorem value?_title_flatMetadata (c : Chunk) (n : Int) :
    (Entries.value? "title" (c.flatMetadata n)).getD .null =
      if (c.title.getD "").isEmpty then .null else .text (c.title.getD "") := by
  by_cases htitle : (c.title.getD "").isEmpty
  · by_cases hmodule : c.namesModule <;>
      simp [Chunk.flatMetadata, Entries.value?, textEntry, htitle, hmodule]
  · simp [Chunk.flatMetadata, Entries.value?, textEntry, htitle]

theorem write_object_ne_empty (entries : Entries) : Json.write (.object entries) ≠ "" := by
  intro h
  have hchars := congrArg String.toList h
  rw [Json.write, String.toList_ofList] at hchars
  rcases entries with _ | ⟨⟨k, v⟩, entries⟩ <;> simp [Json.writeChars] at hchars

theorem readMetadata_flatMetadata (c : Chunk) (n : Int) :
    readMetadata (c.flatMetadata n) = readMetadataText (Json.write (.object c.metadata)) := by
  -- The text of an object counts, so the default for a missing text is not taken.
  have hcounts : Value.counts (.text (Json.write (.object c.metadata))) = true := by
    simp [Value.counts, write_object_ne_empty]
  simp only [readMetadata, value?_metadata_flatMetadata, Option.getD_some, Value.orElse, hcounts,
    ↓reduceIte]

/-! ## Reading it -/

theorem withTitle_metadata {c : Chunk} (h : (c.title.getD "").isEmpty = false) :
    withTitle (.text (c.title.getD "")) (.object c.metadata) = .ok (.object c.titledMetadata) := by
  rw [withTitle, Chunk.titledMetadata, h, Bool.false_or]
  cases hhas : Entries.has "title" c.metadata with
  | true => rfl
  | false => simp [Entries.put_of_notMem (Entries.has_eq_false_iff.mp hhas)]

/-- The flat entries of a chunk make a hit in the same place, whatever its metadata was read as. -/
theorem shape_flatMetadata (c : Chunk) (n : Int) (score : Float) (metadata : Value) :
    Hit.shape (.object [
      ("id", .text c.key),
      ("content", Value.orElse (.text c.content) (.text "")),
      ("source_type", (Entries.value? "source_type" (c.flatMetadata n)).getD (.text "")),
      ("source_id", (Entries.value? "source_id" (c.flatMetadata n)).getD .null),
      ("chunk_id", (Entries.value? "chunk_id" (c.flatMetadata n)).getD .null),
      ("score", .float score),
      ("metadata", metadata)]) =
      .valid { Hit.ofChunk c score with metadata := metadata.entries?.getD [] } := by
  have hcontent : Value.orElse (.text c.content) (.text "") = .text c.content := by
    by_cases hempty : c.content = "" <;> simp [Value.orElse, Value.counts, hempty]
  rw [hcontent]
  rfl

/-- **Stored metadata decodes back.** A row of a chunk is read as the chunk: its key, content, source
and number, the score that the search gave it, and its metadata with its title. -/
theorem stored_metadata_decodes (c : Chunk) (count : Int) (score : Float)
    (h : Json.Legible (.object c.metadata)) :
    readHit c.key (.text c.content) (c.flatMetadata count) (.float score) =
      .ok { Hit.ofChunk c score with metadata := c.titledMetadata } := by
  have hmetadata : readMetadata (c.flatMetadata count) = .ok (.object c.metadata) := by
    rw [readMetadata_flatMetadata, readMetadataText, Json.read_write h]
  have hshape := congrArg (Fault.ofChecked "SearchHit")
    (shape_flatMetadata c count score (.object c.titledMetadata))
  unfold readHit
  rw [hmetadata, value?_title_flatMetadata]
  cases htitle : (c.title.getD "").isEmpty with
  | true =>
    have hplain : c.titledMetadata = c.metadata := by simp [Chunk.titledMetadata, htitle]
    rw [hplain] at hshape ⊢
    exact hshape
  | false =>
    have hcounts : Value.counts (.text (c.title.getD "")) = true := by
      simpa [Value.counts, String.isEmpty_iff] using htitle
    simp only [Bool.false_eq_true, ↓reduceIte, hcounts, bind, Except.bind,
      withTitle_metadata htitle, Fault.ofMisfit]
    exact hshape

/-- A chunk of a ticket with a title and nested metadata. -/
def loginChunk : Chunk where
  sourceType := .historicalTicket
  sourceId := "T-42"
  number := 3
  title := some "Login \"loops\""
  content := "Clear the cookies."
  metadata := [
    ("steps", .list [.text "open \\ close\n", .int (-12), .null, .list []]),
    ("rating", .object [("mean", .float 0.5), ("done", .bool true)])]

/-- Whether a certain float was read. -/
def isFloatRead (x : Float) : Except Json.ReadError Value → Bool
  | .ok (.float y) => decide (y = x)
  | _ => false

theorem eq_of_isFloatRead {x : Float} {found : Except Json.ReadError Value}
    (h : isFloatRead x found = true) : found = .ok (.float x) := by
  unfold isFloatRead at h
  split at h
  · rw [of_decide_eq_true h]
  · cases h

theorem legible_loginChunk : Json.Legible (.object loginChunk.metadata) := by
  have hfloat : Json.read (Json.write (.float 0.5)) = .ok (.float 0.5) :=
    eq_of_isFloatRead (by decide +kernel)
  have hint : (-12 : Int).natAbs < 10 ^ Json.maxIntegerDigits :=
    Nat.lt_of_lt_of_le (by decide : 12 < 10 ^ 2) (Nat.pow_le_pow_right (by decide) (by decide))
  refine .object (by decide) fun e he => ?_
  simp only [loginChunk, List.mem_cons, List.not_mem_nil, or_false] at he
  rcases he with rfl | rfl
  · refine .list fun v hv => ?_
    simp only [List.mem_cons, List.not_mem_nil, or_false] at hv
    rcases hv with rfl | rfl | rfl | rfl
    · exact .text _
    · exact .int hint
    · exact .null
    · exact .list fun w hw => by cases hw
  · refine .object (by decide) fun e he => ?_
    simp only [List.mem_cons, List.not_mem_nil, or_false] at he
    rcases he with rfl | rfl
    · exact .float hfloat
    · exact .bool true

theorem stored_metadata_decodes_loginChunk :
    Json.Legible (.object loginChunk.metadata) ∧
      readHit loginChunk.key (.text loginChunk.content) (loginChunk.flatMetadata 7) (.float 0.25) =
        .ok { Hit.ofChunk loginChunk 0.25 with
          metadata := loginChunk.metadata ++ [("title", .text "Login \"loops\"")] } :=
  ⟨legible_loginChunk, stored_metadata_decodes loginChunk 7 0.25 legible_loginChunk⟩

/-! ## The limit on digits -/

theorem readHit_of_hugeInteger {c : Chunk} {name : String} {n : Int}
    (hc : c.metadata = [(name, .int n)]) (h : 10 ^ Json.maxIntegerDigits ≤ n.natAbs) (count : Int)
    (score : Float) :
    readHit c.key (.text c.content) (c.flatMetadata count) (.float score) = .error .hugeInteger := by
  have hmetadata : readMetadata (c.flatMetadata count) = .error .hugeInteger := by
    rw [readMetadata_flatMetadata, readMetadataText, hc, Json.read_write_hugeInteger name h]
  unfold readHit
  rw [hmetadata]
  rfl

/-- A chunk whose metadata holds an integer with one digit more than is read. -/
def countingChunk : Chunk where
  sourceType := .generalKnowledge
  sourceId := "a"
  number := 1
  title := none
  content := "d"
  metadata := [("n", .int (10 ^ Json.maxIntegerDigits))]

/-- A row with an integer of too many digits is not read at all. -/
theorem countingChunk_unread :
    readHit countingChunk.key (.text countingChunk.content) (countingChunk.flatMetadata 0)
        (.float 0.5) ≠
      .ok { Hit.ofChunk countingChunk 0.5 with metadata := countingChunk.titledMetadata } := by
  have hsize : 10 ^ Json.maxIntegerDigits ≤ (10 ^ Json.maxIntegerDigits : Int).natAbs := by
    simp [Int.natAbs_pow]
  have hread := readHit_of_hugeInteger (c := countingChunk) rfl hsize 0 0.5
  intro h
  rw [hread] at h
  cases h

end Helpdesk.Knowledge
