import Helpdesk.Proofs.Knowledge.FusedScores
import Helpdesk.Proofs.Knowledge.Sources
import Helpdesk.Proofs.Score.Numbers

/-!
# Helpdesk.Proofs.Knowledge.Search — the best hits for a query.

A search takes a pool of the nearest chunks that its filter admits, gives each a new score and returns
the best of them. Which of equally near chunks are in the pool is up to the collection, and so is
everything about distances; all that is known of them is that no chunk outside the pool is nearer than
one inside it. A distance need not even be a number: the score that is made of it is one, and so the
hits can be put in order. What is searched is a stock of chunks, which is what every history leaves:
longer integers than are read cannot be stored, and no one waits for more uses than floats can count.
-/
namespace Helpdesk.Knowledge

open Score OrderDual

/-! ## Scores -/

/-- A hit stands before another: it has a higher score, or the same score and a smaller id. -/
def Outranks (a b : Hit) : Prop :=
  b.score < a.score ∨ (a.score == b.score) = true ∧ a.id < b.id

/-- The best of some hits, in order, as many as there are up to a number. -/
structure BestOf (count : ℕ) (all best : List Hit) : Prop where
  length : best.length = min count all.length
  subset : best ⊆ all
  distinct : (best.map Hit.id).Nodup
  ordered : best.Pairwise Outranks
  first : ∀ a ∈ best, ∀ b ∈ all, b ∉ best → Outranks a b

theorem BestOf.of_perm {count : ℕ} {all all' best : List Hit} (h : BestOf count all best)
    (hperm : all.Perm all') : BestOf count all' best :=
  ⟨by rw [h.length, hperm.length_eq], fun a ha => hperm.mem_iff.mp (h.subset ha), h.distinct,
    h.ordered, fun a ha b hb => h.first a ha b (hperm.mem_iff.mpr hb)⟩

/-- Whether a filter admits a chunk: its source type is among those that are listed, if any are, and
the text of its module is the one that is named, if one is. -/
def admits (f : Option Filter) (c : Chunk) : Bool :=
  let types := (f.bind Filter.sourceTypes).getD []
  let module := (f.bind Filter.module).getD ""
  (types.isEmpty || types.contains c.sourceType) && (module.isEmpty || c.moduleText == module)

/-- Chunks with the numbers of their uses, as a collection holds them: one under each key, with
metadata that can be read and as many uses as floats can count. -/
structure Stock where
  chunks : List (Chunk × ℕ)
  distinct : (chunks.map fun p => p.1.key).Nodup
  readable : ∀ p ∈ chunks, p.1.Readable
  countable : ∀ p ∈ chunks, (Decimal.floatOfInt? p.2).isSome = true

namespace Stock

/-- The row of a chunk and its uses. -/
def row (p : Chunk × ℕ) : Row :=
  .ofChunk p.1 p.2

def collection (s : Stock) : Collection :=
  ⟨s.chunks.map row⟩

/-- What is stored is shown as a hit: the chunk as it is carried, with a score that is made of its
distance, its source and its uses. -/
def shown (distance : Distance) (query : String) (p : Chunk × ℕ) : Hit :=
  { p.1.carried.stored with
    score := (rerankScore? (distance query (row p)) p.1.sourceType.name p.2).getD 0.0 }

variable {s : Stock} {distance : Distance} {query : String} {f : Option Filter} {p : Chunk × ℕ}

end Stock

theorem useCount_le_length (key : String) (h : List Event) : useCount key h ≤ h.length :=
  List.countP_le_length.trans (List.dropWhile_suffix _).length_le

/-- **What a history leaves is a stock**, when it is not too long to be counted in floats. -/
theorem Recorded.exists_stock {h : List Event} {c : Collection} (hc : Recorded h c)
    (hread : ∀ sourceType id n ch, Stored h sourceType id n ch → ch.Readable)
    (hlength : h.length.log2 < 1023) : ∃ s : Stock, c = s.collection := by
  have hcounted : ∀ n ≤ h.length, (Decimal.floatOfInt? n).isSome = true := by
    intro n hn
    refine isSome_floatOfInt? (lt_of_le_of_lt ?_ hlength)
    rw [Nat.log2_eq_log_two, Nat.log2_eq_log_two]
    exact Nat.log_mono_right hn
  have hrows : ∀ row ∈ c.rows, ∃ p : Chunk × ℕ, Stock.row p = row ∧ p.1.Readable ∧
      (Decimal.floatOfInt? p.2).isSome = true := by
    intro row hrow
    obtain ⟨ch, m, rfl⟩ := hc.sound.ofChunks row hrow
    have hfound := (Collection.row?_eq_some_iff hc.sound.distinct).mpr ⟨hrow, rfl⟩
    have hafter := (hc.row ch.sourceType ch.sourceId ch.number).symm.trans hfound
    obtain ⟨chunk, hlatest, hsame⟩ := Option.map_eq_some_iff.mp hafter
    refine ⟨(chunk, _), hsame, hread _ _ _ _ ⟨_, rfl, hlatest⟩, hcounted _ ?_⟩
    exact (useCount_le_length _ _).trans (List.rtakeWhile_suffix _ h).length_le
  choose asked hasked using hrows
  have hsame : c.rows = (c.rows.pmap asked fun _ hrow => hrow).map Stock.row := by
    simp [List.map_pmap, fun row hrow => (hasked row hrow).1]
  have hall : ∀ p ∈ c.rows.pmap asked fun _ hrow => hrow, p.1.Readable ∧
      (Decimal.floatOfInt? p.2).isSome = true := by
    intro p hp
    obtain ⟨row, hrow, rfl⟩ := List.mem_pmap.mp hp
    exact (hasked row hrow).2
  have hkeys := hc.sound.distinct
  unfold Collection.Distinct at hkeys
  rw [hsame, List.map_map] at hkeys
  exact ⟨⟨_, hkeys, fun p hp => (hall p hp).1, fun p hp => (hall p hp).2⟩,
    congrArg Collection.mk hsame⟩

/-! ## Searching -/

section

variable {s : Stock} {distance : Distance} {query : String} {f : Option Filter} {k : ℕ}

end

/-! ## The own answers of a collection -/

/-- What a collection answers. -/
def Collection.answers (c : Collection) (distance : Distance) {β : Type} (r : Request β) : Option β :=
  (r.answer? distance c).map Prod.fst

end Helpdesk.Knowledge
