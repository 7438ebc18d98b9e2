import Helpdesk.Proofs.Knowledge.Sources

/-!
# Helpdesk.Proofs.Knowledge.Identity — what tells chunks apart.

A chunk has its place in a source, and its key is that place in one line of text: the name of the
type, the id and the number, with colons between them. Only the id may have colons and digits of its
own, and it stands between a name without a colon and a number without one, so no key can be read in
two ways. The store knows nothing but keys. What it says of two chunks it therefore says of their
places.
-/
namespace Helpdesk.Knowledge

/-- Two chunks have one place: they are of one source and have one number in it. -/
structure Chunk.SamePlace (a b : Chunk) : Prop where
  sourceType : a.sourceType = b.sourceType
  sourceId : a.sourceId = b.sourceId
  number : a.number = b.number

/-- Keys are equal when places are, whatever stands in the ids. -/
theorem Chunk.key_eq_iff {a b : Chunk} : a.key = b.key ↔ a.SamePlace b := by
  constructor
  · intro hkey
    obtain ⟨htype, hid, hnumber⟩ := keyOf_inj hkey
    exact ⟨htype, hid, hnumber⟩
  · rintro ⟨htype, hid, hnumber⟩
    rw [key, key, htype, hid, hnumber]

/-! ## The row of a chunk -/

/-- An event wrote a chunk, alone or among others. -/
def Event.Writes (e : Event) (a : Chunk) : Prop :=
  e.raised = false ∧ ∃ chunks, e.operation = .upsert chunks ∧ a ∈ chunks

/-- A chunk was written, and its source was not removed since. -/
def Present (h : List Event) (a : Chunk) : Prop :=
  ∃ e ∈ since a.sourceType a.sourceId h, e.Writes a

/-- A chunk is kept in a row: it stands under the key of the chunk and is made of a chunk in the same
place, the one that was written there last. -/
structure Collection.Keeps (c : Collection) (a : Chunk) (row : Row) : Prop where
  under : c.row? a.key = some row
  place : ∃ ch n, row = .ofChunk ch n ∧ ch.SamePlace a

theorem Event.Writes.isSome_written? {e : Event} {a : Chunk} (h : e.Writes a) :
    (e.written? a.key).isSome := by
  obtain ⟨hfine, chunks, hoperation, ha⟩ := h
  have hfound : (chunks.find? fun ch => ch.key = a.key).isSome :=
    List.find?_isSome.mpr ⟨a, ha, decide_eq_true rfl⟩
  simpa [written?, hfine, hoperation] using hfound

section Recorded

variable {h : List Event} {c : Collection} {a b : Chunk}

/-- What was written is kept. -/
theorem Recorded.exists_keeps (hc : Recorded h c) (ha : Present h a) : ∃ row, c.Keeps a row := by
  obtain ⟨e, he, hwrites⟩ := ha
  obtain ⟨ch, hlatest⟩ :=
    Option.isSome_iff_exists.mp (isSome_latest?_iff.mpr ⟨e, he, hwrites.isSome_written?⟩)
  have hrow : c.row? a.key = rowAfter h a.sourceType a.sourceId a.number := hc.row _ _ _
  refine ⟨_, hrow.trans (congrArg (Option.map _) hlatest), ch, _, rfl, ?_⟩
  exact Chunk.key_eq_iff.mp (exists_written_of_latest? hlatest).1

/-- Two chunks that are kept are kept in one row exactly when they have one place. -/
theorem Collection.Keeps.eq_iff {rowA rowB : Row} (ha : c.Keeps a rowA) (hb : c.Keeps b rowB) :
    rowA = rowB ↔ a.SamePlace b := by
  rw [← Chunk.key_eq_iff]
  constructor
  · rintro rfl
    exact (Collection.key_of_row? ha.under).symm.trans (Collection.key_of_row? hb.under)
  · intro hkey
    exact Option.some.inj (ha.under.symm.trans (hkey ▸ hb.under))

end Recorded

/-- **Keys identify chunks.** Two chunks have one key exactly when their source types, source ids and
numbers are equal, whatever strings the ids are; the key that is made of the three is the key of the
chunk; and when two chunks were written in the course of any history, each is kept in a row, and it
is one row for both exactly when the three are equal. -/
theorem keys_identify_chunks :
    (∀ a b : Chunk, a.key = b.key ↔ a.SamePlace b) ∧
    (∀ a : Chunk, keyOf a.sourceType.name a.sourceId a.number = a.key) ∧
    ∀ (h : List Event) (c : Collection), History h c → ∀ a b : Chunk, Present h a → Present h b →
      ∃ rowA rowB, c.Keeps a rowA ∧ c.Keeps b rowB ∧ (rowA = rowB ↔ a.SamePlace b) := by
  refine ⟨fun _ _ => Chunk.key_eq_iff, fun _ => rfl, ?_⟩
  intro h c hh a b ha hb
  obtain ⟨rowA, hrowA⟩ := hh.recorded.exists_keeps ha
  obtain ⟨rowB, hrowB⟩ := hh.recorded.exists_keeps hb
  exact ⟨rowA, rowB, hrowA, hrowB, hrowA.eq_iff hrowB⟩

/-- A part of a leaflet. -/
def leafletPart (id : String) (number : Nat) (content : String) : Chunk :=
  ⟨.generalKnowledge, id, number, none, content, []⟩

/-- Parts with colons and digits in their ids; the first and the last have one place. -/
def leafletParts : List Chunk :=
  [leafletPart "1:2" 3 "a", leafletPart "1" 23 "b", leafletPart "1:2" 3 "c"]

/-- They are written one after another. -/
def leafletEvents : List Event :=
  leafletParts.map fun part => ⟨.upsert [part], true, false⟩

theorem exists_history_leafletEvents : ∃ c, History leafletEvents c := by
  have hone (part : Chunk) : ([part].map Chunk.key).Nodup := List.nodup_singleton _
  obtain ⟨_, hfirst⟩ := History.start.exists_write (hone (leafletPart "1:2" 3 "a"))
  obtain ⟨_, hsecond⟩ := hfirst.exists_write (hone (leafletPart "1" 23 "b"))
  exact hsecond.exists_write (hone (leafletPart "1:2" 3 "c"))

theorem present_leafletEvents {part : Chunk} (h : part ∈ leafletParts) :
    Present leafletEvents part := by
  -- Nothing was removed.
  have hall : since part.sourceType part.sourceId leafletEvents = leafletEvents := rfl
  refine ⟨⟨.upsert [part], true, false⟩, ?_, rfl, [part], rfl, List.mem_singleton.mpr rfl⟩
  rw [hall]
  exact List.mem_map_of_mem h

theorem keys_identify_chunks_leafletEvents : ∃ c, History leafletEvents c ∧
    (∃ rowA rowB, c.Keeps (leafletPart "1:2" 3 "a") rowA ∧ c.Keeps (leafletPart "1" 23 "b") rowB ∧
      rowA ≠ rowB) ∧
    ∃ row, c.Keeps (leafletPart "1:2" 3 "a") row ∧ c.Keeps (leafletPart "1:2" 3 "c") row := by
  obtain ⟨c, hc⟩ := exists_history_leafletEvents
  have hfirst : leafletPart "1:2" 3 "a" ∈ leafletParts := List.mem_cons_self
  have hsecond : leafletPart "1" 23 "b" ∈ leafletParts :=
    List.mem_cons_of_mem _ List.mem_cons_self
  have hthird : leafletPart "1:2" 3 "c" ∈ leafletParts :=
    List.mem_cons_of_mem _ (List.mem_cons_of_mem _ List.mem_cons_self)
  refine ⟨c, hc, ?_, ?_⟩
  · obtain ⟨rowA, rowB, hA, hB, hsame⟩ := keys_identify_chunks.2.2 leafletEvents c hc _ _
      (present_leafletEvents hfirst) (present_leafletEvents hsecond)
    exact ⟨rowA, rowB, hA, hB, fun heq => absurd (hsame.mp heq).sourceId (by decide)⟩
  · obtain ⟨rowA, rowB, hA, hB, hsame⟩ := keys_identify_chunks.2.2 leafletEvents c hc _ _
      (present_leafletEvents hfirst) (present_leafletEvents hthird)
    obtain rfl := hsame.mpr ⟨rfl, rfl, rfl⟩
    exact ⟨rowA, hA, hB⟩

end Helpdesk.Knowledge
