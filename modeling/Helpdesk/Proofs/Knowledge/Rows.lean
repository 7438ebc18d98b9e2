import Helpdesk.Knowledge.Index
import Helpdesk.Proofs.Keyed
import Helpdesk.Proofs.Validation
import Mathlib.Data.List.Basic
import Mathlib.Data.List.Nodup

/-!
# Helpdesk.Proofs.Knowledge.Rows — rows, their keys and what requests do to them.

A key spells its source and its number: source types have no colon, numbers have none either, so a
source may have as many as it likes. The row of a chunk is a function of the chunk and a count, and
whatever is read off it or written into it is said in these two. What a request does to a collection
is one equation for the row under a key.
-/
namespace Helpdesk.Knowledge

/-! ## Keys -/

theorem SourceType.colon_notMem_name (t : SourceType) : ':' ∉ t.name.toList := by
  cases t <;> decide

theorem SourceType.eq_of_name_eq {t u : SourceType} (h : t.name = u.name) : t = u := by
  cases t <;> cases u <;> first | rfl | exact absurd h (by decide)

theorem toList_decimal (n : Nat) : (decimal n).toList = Nat.toDigits 10 n := by
  have hpos : ¬ (n : Int) < 0 := by omega
  rw [decimal, if_neg hpos, String.toList_ofList]
  rfl

theorem colon_notMem_decimal (n : Nat) : ':' ∉ (decimal n).toList := by
  rw [toList_decimal]
  intro hmem
  have hdigit := Nat.isDigit_of_mem_toDigits (by decide) (by decide) hmem
  exact absurd hdigit (by decide)

theorem eq_of_decimal_eq {n m : Nat} (h : decimal n = decimal m) : n = m := by
  have hdigits : Nat.toDigits 10 n = Nat.toDigits 10 m := by
    rw [← toList_decimal, ← toList_decimal, h]
  have hread := congrArg (Nat.ofDigitChars 10 · 0) hdigits
  simpa only [Nat.ofDigitChars_ten_toDigits] using hread

/-- What stands before the first separator and what stands after it. -/
theorem eq_of_append_cons_eq {c : Char} {a b rest last : List Char} (ha : c ∉ a) (hb : c ∉ b)
    (h : a ++ c :: rest = b ++ c :: last) : a = b ∧ rest = last := by
  induction a generalizing b with
  | nil =>
    rcases b with _ | ⟨d, b⟩
    · exact ⟨rfl, List.tail_eq_of_cons_eq h⟩
    · have hhead : c = d := List.head_eq_of_cons_eq h
      exact absurd (hhead ▸ List.mem_cons_self) hb
  | cons d a ih =>
    rcases b with _ | ⟨e, b⟩
    · have hhead : d = c := List.head_eq_of_cons_eq h
      exact absurd (hhead ▸ List.mem_cons_self) ha
    · have hhead : d = e := List.head_eq_of_cons_eq h
      have htail : a ++ c :: rest = b ++ c :: last := List.tail_eq_of_cons_eq h
      have hsplit := ih (fun hc => ha (List.mem_cons_of_mem _ hc))
        (fun hc => hb (List.mem_cons_of_mem _ hc)) htail
      exact ⟨by rw [hhead, hsplit.1], hsplit.2⟩

/-- **Keys tell sources and numbers apart.** -/
theorem keyOf_inj {t u : SourceType} {source other : String} {n m : Nat}
    (h : keyOf t.name source n = keyOf u.name other m) : t = u ∧ source = other ∧ n = m := by
  have hchars := congrArg String.toList h
  have hcolon : (":" : String).toList = [':'] := rfl
  simp only [keyOf, String.toList_append, hcolon, List.append_assoc, List.cons_append,
    List.nil_append] at hchars
  obtain ⟨htype, hrest⟩ := eq_of_append_cons_eq t.colon_notMem_name u.colon_notMem_name hchars
  -- A source may have colons of its own, so the number is split off from the end.
  have hback := congrArg List.reverse hrest
  simp only [List.reverse_append, List.reverse_cons, List.append_assoc, List.cons_append,
    List.nil_append]
    at hback
  obtain ⟨hnumber, hsource⟩ := eq_of_append_cons_eq
    (fun hc => colon_notMem_decimal n (List.mem_reverse.mp hc))
    (fun hc => colon_notMem_decimal m (List.mem_reverse.mp hc)) hback
  refine ⟨SourceType.eq_of_name_eq (String.toList_inj.mp htype), ?_, ?_⟩
  · exact String.toList_inj.mp (List.reverse_inj.mp hsource)
  · exact eq_of_decimal_eq (String.toList_inj.mp (List.reverse_inj.mp hnumber))

/-! ## The row of a chunk -/

theorem accessCount_flatMetadata (c : Chunk) (n : Int) : accessCount (c.flatMetadata n) = .ok n := by
  simp [accessCount, Chunk.flatMetadata, Entries.value?, Value.toInteger]

theorem put_flatMetadata (c : Chunk) (n m : Int) :
    Entries.put "access_count" (.int m) (c.flatMetadata n) = c.flatMetadata m := by
  simp [Chunk.flatMetadata, Entries.put]

/-- A count is all that the metadata of one chunk differs in. -/
theorem value?_flatMetadata (c : Chunk) (n m : Int) {name : String} (h : name ≠ "access_count") :
    Entries.value? name (c.flatMetadata n) = Entries.value? name (c.flatMetadata m) := by
  simp [Chunk.flatMetadata, Entries.value?, Ne.symm h]

/-- The restriction to a source lets the chunks of that source pass and no others. -/
theorem holds_source_iff (c : Chunk) (n : Int) (sourceType sourceId : String) :
    (Restriction.source sourceType sourceId).holds (c.flatMetadata n) = true ↔
      sourceType = c.sourceType.name ∧ sourceId = c.sourceId := by
  have hholds : (Restriction.source sourceType sourceId).holds (c.flatMetadata n) = true ↔
      c.sourceType.name = sourceType ∧ c.sourceId = sourceId := by
    simp [Restriction.source, Restriction.holds, Restriction.holdAll, Restriction.text?,
      Chunk.flatMetadata, Entries.value?, Value.text?]
  rw [hholds]
  constructor
  · rintro ⟨rfl, rfl⟩
    exact ⟨rfl, rfl⟩
  · rintro ⟨rfl, rfl⟩
    exact ⟨rfl, rfl⟩

/-- The uses that a row has counted; none when its metadata holds no count. -/
def Row.count (row : Row) : Int :=
  match accessCount row.metadata with
  | .ok n => n
  | .error _ => 0

/-- A row with one use more. -/
def Row.counted (row : Row) : Row :=
  { row with metadata := Entries.put "access_count" (.int (row.count + 1)) row.metadata }

theorem Row.count_ofChunk (c : Chunk) (n : Int) : (Row.ofChunk c n).count = n := by
  simp only [Row.count, Row.ofChunk, accessCount_flatMetadata]

theorem Row.counted_ofChunk (c : Chunk) (n : Int) :
    (Row.ofChunk c n).counted = .ofChunk c (n + 1) := by
  rw [Row.counted, Row.count_ofChunk]
  simp only [Row.ofChunk, put_flatMetadata]

/-- Rows that were made of chunks. -/
def AreOfChunks (rows : List Row) : Prop :=
  ∀ row ∈ rows, ∃ c n, row = .ofChunk c n

/-- Counts of rows that were made of chunks can be read. -/
theorem accessCounts_eq {rows : List Row} (h : AreOfChunks rows) :
    accessCounts rows = .ok (rows.map fun row => (row.key, row.count)) := by
  refine mapM_eq_ok ?_
  intro row hrow
  obtain ⟨c, n, rfl⟩ := h row hrow
  show (accessCount (c.flatMetadata n) >>= fun count => pure (c.key, count)) = _
  rw [accessCount_flatMetadata, Row.count_ofChunk]
  rfl

theorem mapM_countedUse_eq {rows : List Row} (h : AreOfChunks rows) :
    rows.mapM countedUse = .ok (rows.map fun row => (row.key, row.counted.metadata)) := by
  refine mapM_eq_ok ?_
  intro row hrow
  obtain ⟨c, n, rfl⟩ := h row hrow
  show (accessCount (c.flatMetadata n) >>= fun count => pure (c.key,
    Entries.put "access_count" (.int (count + 1)) (c.flatMetadata n))) = _
  rw [Row.counted, Row.count_ofChunk, accessCount_flatMetadata]
  rfl

theorem lookup_map_key {β : Type} (view : Row → β) (rows : List Row) (key : String) :
    (rows.map fun row => (row.key, view row)).lookup key =
      (rows.find? fun r => r.key = key).map view := by
  induction rows with
  | nil => rfl
  | cons r rest ih =>
    rw [List.map_cons, List.lookup_cons, ih, List.find?_cons]
    by_cases hkey : r.key = key
    · simp [hkey]
    · have hne : (key == r.key) = false := beq_eq_false_iff_ne.mpr (Ne.symm hkey)
      simp [hkey, hne]

/-! ## Requests that write -/

namespace Collection

/-- The row under a key. -/
def row? (c : Collection) (key : String) : Option Row :=
  c.rows.find? fun r => r.key = key

/-- No two rows have the same key. -/
def Distinct (c : Collection) : Prop :=
  (c.rows.map Row.key).Nodup

theorem haveDistinctKeys_iff {rows : List Row} :
    haveDistinctKeys rows = true ↔ (rows.map Row.key).Nodup := by
  induction rows with
  | nil => simp [haveDistinctKeys]
  | cons r rest ih => simp [haveDistinctKeys, ih]

/-! Rows are a table of entries that know their names, so what is written over what is settled there. -/

/-- Rows under their keys. -/
def table (rows : List Row) : Keyed Row :=
  rows.map fun r => (r.key, r)

theorem get?_table (rows : List Row) (key : String) :
    Keyed.get? key (table rows) = rows.find? fun r => r.key = key := by
  induction rows with
  | nil => rfl
  | cons r rest ih =>
    show (if r.key = key then some r else Keyed.get? key (table rest)) = _
    rw [ih, List.find?_cons]
    by_cases hkey : r.key = key <;> simp [hkey]

theorem names_table (rows : List Row) : Keyed.names (table rows) = rows.map Row.key := by
  rw [Keyed.names, table, List.map_map]
  rfl

theorem entries_table (rows : List Row) : Keyed.entries (table rows) = rows := by
  rw [Keyed.entries, table, List.map_map]
  exact List.map_id rows

theorem table_putRow (row : Row) (rows : List Row) :
    table (putRow row rows) = Keyed.put row.key row (table rows) := by
  induction rows with
  | nil => rfl
  | cons r rest ih =>
    show table (putRow row (r :: rest)) =
      if r.key = row.key then (r.key, row) :: table rest
      else (r.key, r) :: Keyed.put row.key row (table rest)
    by_cases hkey : r.key = row.key
    · rw [putRow, if_pos hkey, if_pos hkey, hkey]
      rfl
    · rw [putRow, if_neg hkey, if_neg hkey, ← ih]
      rfl

theorem key_of_row? {c : Collection} {key : String} {row : Row} (h : c.row? key = some row) :
    row.key = key := by
  simpa using List.find?_some h

theorem row?_eq_some_iff {c : Collection} (h : c.Distinct) {key : String} {row : Row} :
    c.row? key = some row ↔ row ∈ c.rows ∧ row.key = key := by
  unfold row?
  constructor
  · intro hfind
    exact ⟨List.mem_of_find?_eq_some hfind, key_of_row? hfind⟩
  · rintro ⟨hrow, rfl⟩
    rw [← get?_table]
    refine Keyed.get?_eq_some_of_mem ?_ (List.mem_map_of_mem hrow)
    rw [names_table]
    exact h

theorem find?_putRow (row : Row) (rows : List Row) (key : String) :
    ((putRow row rows).find? fun r => r.key = key) =
      if row.key = key then some row else rows.find? fun r => r.key = key := by
  rw [← get?_table, table_putRow, Keyed.get?_put, get?_table]

theorem eq_or_mem_of_mem_putRow {row r : Row} {rows : List Row} (h : r ∈ putRow row rows) :
    r = row ∨ r ∈ rows := by
  rw [← entries_table (putRow row rows), table_putRow] at h
  rcases Keyed.eq_or_mem_of_mem_entries_put h with hnew | hold
  · exact Or.inl hnew
  · rw [entries_table] at hold
    exact Or.inr hold

theorem nodup_putRow (row : Row) {rows : List Row} (h : (rows.map Row.key).Nodup) :
    ((putRow row rows).map Row.key).Nodup := by
  rw [← names_table, table_putRow]
  rw [← names_table] at h
  exact Keyed.nodup_names_put h

/-! Rows are written one after another; with different keys none is written over another. -/

variable {c last : Collection} {rows : List Row}

theorem upsert?_eq_some_iff :
    c.upsert? rows = some last ↔ (rows.map Row.key).Nodup ∧
      last.rows = rows.foldl (fun rows row => putRow row rows) c.rows := by
  unfold upsert?
  by_cases hdistinct : haveDistinctKeys rows = true
  · rw [if_pos hdistinct]
    constructor
    · intro h
      cases h
      exact ⟨haveDistinctKeys_iff.mp hdistinct, rfl⟩
    · rintro ⟨_, hrows⟩
      rw [← hrows]
  · rw [if_neg hdistinct]
    constructor
    · intro h
      cases h
    · rintro ⟨hnodup, _⟩
      exact absurd (haveDistinctKeys_iff.mpr hnodup) hdistinct

theorem row?_upsert (h : c.upsert? rows = some last) (key : String) :
    last.row? key = (rows.find? fun r => r.key = key).or (c.row? key) := by
  obtain ⟨hdistinct, hrows⟩ := upsert?_eq_some_iff.mp h
  unfold row?
  rw [hrows]
  clear hrows h
  generalize c.rows = old
  -- By induction on what is written, whatever it is written over.
  induction rows generalizing old with
  | nil => rfl
  | cons row rest ih =>
    obtain ⟨hrow, hrest⟩ := List.nodup_cons.mp hdistinct
    rw [List.foldl_cons, ih hrest, find?_putRow]
    by_cases hkey : row.key = key
    · have hnone : (rest.find? fun r => r.key = key) = none := by
        refine List.find?_eq_none.mpr ?_
        intro r hr hsame
        exact hrow (hkey.trans (of_decide_eq_true hsame).symm ▸ List.mem_map_of_mem hr)
      rw [hnone, if_pos hkey]
      simp [hkey]
    · rw [if_neg hkey]
      simp [hkey]

theorem Distinct.upsert (hc : c.Distinct) (h : c.upsert? rows = some last) : last.Distinct := by
  have hrows := (upsert?_eq_some_iff.mp h).2
  unfold Distinct at hc ⊢
  rw [hrows]
  clear hrows h
  generalize c.rows = old at hc
  induction rows generalizing old with
  | nil => exact hc
  | cons row rest ih =>
    rw [List.foldl_cons]
    exact ih _ (nodup_putRow row hc)

theorem eq_or_mem_of_mem_upsert (h : c.upsert? rows = some last) {row : Row}
    (hrow : row ∈ last.rows) : row ∈ rows ∨ row ∈ c.rows := by
  have hrows := (upsert?_eq_some_iff.mp h).2
  rw [hrows] at hrow
  clear hrows h
  generalize c.rows = old at hrow ⊢
  induction rows generalizing old with
  | nil => exact Or.inr hrow
  | cons first rest ih =>
    rcases ih _ hrow with hrest | hput
    · exact Or.inl (List.mem_cons_of_mem _ hrest)
    · rcases eq_or_mem_of_mem_putRow hput with rfl | hold
      · exact Or.inl List.mem_cons_self
      · exact Or.inr hold

/-! Metadata is replaced in place, and what satisfies a restriction is taken out. -/

theorem row?_map {f : Row → Row} (hkey : ∀ row, (f row).key = row.key) (key : String) :
    row? ⟨c.rows.map f⟩ key = (c.row? key).map f := by
  unfold row?
  rw [List.find?_map]
  have hsame : ((fun r : Row => decide (r.key = key)) ∘ f) = fun r => decide (r.key = key) := by
    funext row
    simp only [Function.comp_apply, hkey]
  rw [hsame]

theorem Distinct.delete (hc : c.Distinct) (r : Restriction) : (c.delete r).Distinct :=
  hc.sublist (List.Sublist.map _ List.filter_sublist)

theorem row?_delete (hc : c.Distinct) (r : Restriction) (key : String) :
    (c.delete r).row? key = (c.row? key).filter fun row => !r.holds row.metadata := by
  have hmem : ∀ row, row ∈ (c.delete r).rows ↔ row ∈ c.rows ∧ r.holds row.metadata = false := by
    intro row
    simp [delete]
  rcases hfind : c.row? key with _ | row
  · have hnone : ∀ row ∈ c.rows, row.key ≠ key := by simpa [row?] using hfind
    refine List.find?_eq_none.mpr ?_
    intro row hrow
    simpa using hnone row ((hmem row).mp hrow).1
  · obtain ⟨hrow, hkey⟩ := (row?_eq_some_iff hc).mp hfind
    rcases hholds : r.holds row.metadata
    · rw [Option.filter_some_pos (by rw [hholds]; rfl)]
      exact (row?_eq_some_iff (hc.delete r)).mpr ⟨(hmem row).mpr ⟨hrow, hholds⟩, hkey⟩
    · rw [Option.filter_some_neg (by rw [hholds]; rfl)]
      -- The row that was found is gone, and keys are distinct, so there is no other one.
      refine List.find?_eq_none.mpr ?_
      intro other hother hsame
      obtain ⟨hold, hkept⟩ := (hmem other).mp hother
      have heq : other = row :=
        List.inj_on_of_nodup_map hc hold hrow ((of_decide_eq_true hsame).trans hkey.symm)
      rw [heq, hholds] at hkept
      cases hkept

theorem find?_withKeys (keys : List String) (key : String) :
    ((c.withKeys keys).find? fun r => r.key = key) = if key ∈ keys then c.row? key else none := by
  unfold withKeys row?
  rw [List.find?_filter]
  by_cases hkey : key ∈ keys
  · rw [if_pos hkey]
    congr 1
    funext row
    by_cases hsame : row.key = key <;> simp [hsame, hkey]
  · rw [if_neg hkey]
    refine List.find?_eq_none.mpr ?_
    intro row _ hboth
    simp only [List.contains_eq_mem, decide_eq_true_eq] at hboth
    exact hkey (hboth.2 ▸ hboth.1)

/-- The metadata of the rows with some keys, with one use more. -/
def usesOf (c : Collection) (keys : List String) : List (String × Entries) :=
  (c.withKeys keys).map fun row => (row.key, row.counted.metadata)

/-- Counting is done by one change to each row whose key is listed. -/
theorem update_usesOf (hc : c.Distinct) (keys : List String) :
    c.update (c.usesOf keys) =
      ⟨c.rows.map fun row => if row.key ∈ keys then row.counted else row⟩ := by
  unfold update
  congr 1
  refine List.map_congr_left ?_
  intro row hrow
  have hfind : c.row? row.key = some row := (row?_eq_some_iff hc).mpr ⟨hrow, rfl⟩
  have hlookup : (c.usesOf keys).lookup row.key =
      if row.key ∈ keys then some row.counted.metadata else none := by
    rw [usesOf, lookup_map_key, find?_withKeys, hfind]
    split <;> rfl
  rw [hlookup]
  by_cases hkey : row.key ∈ keys
  · simp only [if_pos hkey]
    rfl
  · simp only [if_neg hkey]

/-! ## Sound collections -/

/-- A collection of rows that were made of chunks, no two of them under one key. -/
structure Sound (c : Collection) : Prop where
  distinct : c.Distinct
  ofChunks : AreOfChunks c.rows

theorem sound_empty : Sound empty :=
  ⟨.nil, fun _ hrow => absurd hrow List.not_mem_nil⟩

namespace Sound

theorem ofChunks_withKeys (h : c.Sound) (keys : List String) : AreOfChunks (c.withKeys keys) :=
  fun row hrow => h.ofChunks row (List.mem_of_mem_filter hrow)

theorem upsert (h : c.Sound) (hrows : AreOfChunks rows) (hlast : c.upsert? rows = some last) :
    last.Sound := by
  refine ⟨h.distinct.upsert hlast, ?_⟩
  intro row hrow
  rcases eq_or_mem_of_mem_upsert hlast hrow with hnew | hold
  · exact hrows row hnew
  · exact h.ofChunks row hold

theorem update (h : c.Sound) (keys : List String) : (c.update (c.usesOf keys)).Sound := by
  rw [update_usesOf h.distinct]
  refine ⟨?_, ?_⟩
  · have hkeys : (c.rows.map fun row => if row.key ∈ keys then row.counted else row).map Row.key =
        c.rows.map Row.key := by
      rw [List.map_map]
      refine List.map_congr_left ?_
      intro row _
      show Row.key (if row.key ∈ keys then row.counted else row) = row.key
      split <;> rfl
    unfold Distinct
    rw [hkeys]
    exact h.distinct
  · intro row hrow
    obtain ⟨old, hold, rfl⟩ := List.mem_map.mp hrow
    obtain ⟨chunk, n, rfl⟩ := h.ofChunks old hold
    show ∃ c m, (if (Row.ofChunk chunk n).key ∈ keys then (Row.ofChunk chunk n).counted
      else Row.ofChunk chunk n) = Row.ofChunk c m
    split
    · exact ⟨chunk, n + 1, Row.counted_ofChunk chunk n⟩
    · exact ⟨chunk, n, rfl⟩

theorem row?_update (h : c.Sound) (keys : List String) (key : String) :
    (c.update (c.usesOf keys)).row? key =
      (c.row? key).map fun row => if key ∈ keys then row.counted else row := by
  rw [update_usesOf h.distinct, row?_map]
  · rcases hfind : c.row? key with _ | row
    · rfl
    · rw [((row?_eq_some_iff h.distinct).mp hfind).2.symm]
      rfl
  · intro row
    split <;> rfl

theorem delete (h : c.Sound) (r : Restriction) : (c.delete r).Sound :=
  ⟨h.distinct.delete r, fun row hrow => h.ofChunks row (List.mem_of_mem_filter hrow)⟩

/-- To remove a source is to remove the rows whose keys are of that source. -/
theorem row?_delete_source (h : c.Sound) (sourceType sourceId : String) (t : SourceType)
    (source : String) (n : Nat) :
    (c.delete (.source sourceType sourceId)).row? (keyOf t.name source n) =
      if sourceType = t.name ∧ sourceId = source then none
      else c.row? (keyOf t.name source n) := by
  rw [row?_delete h.distinct]
  rcases hfind : c.row? (keyOf t.name source n) with _ | row
  · split <;> rfl
  · obtain ⟨hrow, hkey⟩ := (row?_eq_some_iff h.distinct).mp hfind
    -- The key that is asked for is the key of a chunk, so its source is the source of that chunk.
    obtain ⟨chunk, m, rfl⟩ := h.ofChunks row hrow
    obtain ⟨rfl, rfl, _⟩ := keyOf_inj hkey
    have hholds := holds_source_iff chunk m sourceType sourceId
    by_cases hmeant : sourceType = chunk.sourceType.name ∧ sourceId = chunk.sourceId
    · rw [if_pos hmeant]
      refine Option.filter_some_neg ?_
      rw [Bool.not_eq_false']
      exact hholds.mpr hmeant
    · rw [if_neg hmeant]
      refine Option.filter_some_pos ?_
      rw [Bool.not_eq_true', Bool.eq_false_iff]
      exact fun hbad => hmeant (hholds.mp hbad)

end Sound

end Collection

end Helpdesk.Knowledge
