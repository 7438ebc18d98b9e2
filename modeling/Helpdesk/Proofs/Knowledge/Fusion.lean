import Helpdesk.Knowledge.Ranking
import Helpdesk.Proofs.Score
import Helpdesk.Proofs.Sorting
import Mathlib.Data.List.Induction
import Mathlib.Data.List.Nodup
import Mathlib.Data.List.Perm.Basic
import Mathlib.Data.String.Basic

/-!
# Helpdesk.Proofs.Knowledge.Fusion — what fusion makes of hits, whatever order they come in.

Fusion goes through the hits once and keeps a tally for each identifier. After every hit the tallies
sum up the hits so far: there is one for each identifier, it has the number of its hits, and its base
is the greatest of their base scores. None of that speaks of an order, so hits in another order have
the same fused hits in another order, and sorting them by score and identifier makes the same list.

Which of several hits with one base score is the best does depend on the order, and so does all of
it once a score is no number, because such a score is neither below nor above any other.
-/
namespace Helpdesk.Knowledge

open Score OrderDual

variable {bonus : Float} {hits hits' : List Hit} {t t' : Tally} {hit : Hit}

/-! ## One tally -/

/-- A tally with one hit more. -/
def Tally.joined (bonus : Float) (t : Tally) (hit : Hit) : Tally :=
  let base := baseScore bonus hit
  if t.base < base then ⟨hit, base, t.count + 1⟩ else { t with count := t.count + 1 }

theorem Tally.best_id_joined (hid : t.best.id = hit.id) :
    (t.joined bonus hit).best.id = t.best.id := by
  simp only [Tally.joined]
  split
  · exact hid.symm
  · rfl

/-- A tally sums up the hits of its identifier among some hits. -/
structure Tally.Sums (bonus : Float) (hits : List Hit) (t : Tally) : Prop where
  best_mem : t.best ∈ hits
  base_eq : t.base = baseScore bonus t.best
  count_eq : t.count = hits.countP fun h => h.id = t.best.id
  greatest : ∀ h ∈ hits, h.id = t.best.id → levelOf (baseScore bonus h) ≤ levelOf t.base

/-- All of some hits have a base score that is a number. -/
def Scored (bonus : Float) (hits : List Hit) : Prop :=
  ∀ h ∈ hits, (baseScore bonus h).isNaN = false

/-- A hit of another identifier leaves a tally as it is. -/
theorem Tally.Sums.skip (h : t.Sums bonus hits) (hid : t.best.id ≠ hit.id) :
    t.Sums bonus (hits ++ [hit]) := by
  refine ⟨List.mem_append_left _ h.best_mem, h.base_eq, ?_, ?_⟩
  · rw [List.countP_append, ← h.count_eq, List.countP_singleton]
    simp [Ne.symm hid]
  · intro other hmem heq
    rcases List.mem_append.mp hmem with hold | hnew
    · exact h.greatest other hold heq
    · rw [List.mem_singleton.mp hnew] at heq
      exact absurd heq.symm hid

/-- A hit of the same identifier joins the tally. -/
theorem Tally.Sums.joined (h : t.Sums bonus hits) (hid : t.best.id = hit.id)
    (hscored : Scored bonus (hits ++ [hit])) : (t.joined bonus hit).Sums bonus (hits ++ [hit]) := by
  have hnumber : t.base.isNaN = false := by
    rw [h.base_eq]
    exact hscored _ (List.mem_append_left _ h.best_mem)
  have hnew : (baseScore bonus hit).isNaN = false := hscored hit (by simp)
  have hcount : t.count + 1 = (hits ++ [hit]).countP fun h => h.id = hit.id := by
    rw [List.countP_append, h.count_eq, hid, List.countP_singleton]
    simp
  unfold Tally.joined
  by_cases hlt : t.base < baseScore bonus hit
  · rw [if_pos hlt]
    refine ⟨by simp, rfl, hcount, ?_⟩
    intro other hmem heq
    rcases List.mem_append.mp hmem with hold | hlast
    · calc levelOf (baseScore bonus other)
        _ ≤ levelOf t.base := h.greatest other hold (heq.trans hid.symm)
        _ ≤ levelOf (baseScore bonus hit) := le_of_lt ((lt_iff hnumber hnew).mp hlt)
    · rw [List.mem_singleton.mp hlast]
  · rw [if_neg hlt]
    refine ⟨List.mem_append_left _ h.best_mem, h.base_eq, by rw [hid]; exact hcount, ?_⟩
    intro other hmem heq
    rcases List.mem_append.mp hmem with hold | hlast
    · exact h.greatest other hold heq
    · rw [List.mem_singleton.mp hlast]
      exact not_lt.mp (mt (lt_iff hnumber hnew).mpr hlt)

/-- The first hit of an identifier. -/
theorem Tally.Sums.first (hfresh : ∀ h ∈ hits, h.id ≠ hit.id) :
    Tally.Sums bonus (hits ++ [hit]) ⟨hit, baseScore bonus hit, 1⟩ := by
  refine ⟨by simp, rfl, ?_, ?_⟩
  · have hnone : (hits.countP fun h => h.id = hit.id) = 0 := by
      rw [List.countP_eq_zero]
      exact fun h hmem => by simpa using hfresh h hmem
    rw [List.countP_append, hnone, List.countP_singleton]
    simp
  · intro other hmem heq
    rcases List.mem_append.mp hmem with hold | hlast
    · exact absurd heq (hfresh other hold)
    · rw [List.mem_singleton.mp hlast]

/-! ## All tallies -/

/-- The identifiers of some tallies. -/
def tallyIds (tallies : List Tally) : List String :=
  tallies.map fun t => t.best.id

/-- The tallies of some hits: one for each identifier. -/
structure Tallied (bonus : Float) (hits : List Hit) (tallies : List Tally) : Prop where
  distinct : (tallyIds tallies).Nodup
  sums : ∀ t ∈ tallies, t.Sums bonus hits
  complete : ∀ h ∈ hits, h.id ∈ tallyIds tallies

/-- A tally among others of different identifiers. -/
theorem notMem_tallyIds_of_nodup {front back : List Tally}
    (h : (tallyIds (front ++ t :: back)).Nodup) : t.best.id ∉ tallyIds (front ++ back) := by
  rw [tallyIds, List.map_append, List.map_cons, List.nodup_middle, List.nodup_cons,
    ← List.map_append] at h
  exact h.1

theorem Tallied.nil : Tallied bonus [] [] :=
  ⟨List.nodup_nil, fun _ h => absurd h List.not_mem_nil, fun _ h => absurd h List.not_mem_nil⟩

theorem tally_of_fresh {tallies : List Tally} (h : hit.id ∉ tallyIds tallies) :
    tally bonus hit tallies = tallies ++ [⟨hit, baseScore bonus hit, 1⟩] := by
  induction tallies with
  | nil => rfl
  | cons t rest ih =>
    have hparts : hit.id ≠ t.best.id ∧ hit.id ∉ tallyIds rest :=
      List.ne_and_not_mem_of_not_mem_cons h
    rw [tally, if_neg hparts.1.symm, ih hparts.2, List.cons_append]

theorem tally_of_known {front back : List Tally} (hfront : hit.id ∉ tallyIds front)
    (hid : t.best.id = hit.id) :
    tally bonus hit (front ++ t :: back) = front ++ t.joined bonus hit :: back := by
  induction front with
  | nil =>
    rw [List.nil_append, tally, if_pos hid]
    rfl
  | cons u front ih =>
    have hparts : hit.id ≠ u.best.id ∧ hit.id ∉ tallyIds front :=
      List.ne_and_not_mem_of_not_mem_cons hfront
    rw [List.cons_append, tally, if_neg hparts.1.symm, ih hparts.2, List.cons_append]

/-- A hit of a new identifier begins a tally. -/
theorem Tallied.begin {tallies : List Tally} (h : Tallied bonus hits tallies)
    (hfresh : hit.id ∉ tallyIds tallies) :
    Tallied bonus (hits ++ [hit]) (tallies ++ [⟨hit, baseScore bonus hit, 1⟩]) := by
  have hids : tallyIds (tallies ++ [⟨hit, baseScore bonus hit, 1⟩]) =
      (tallyIds tallies).concat hit.id := by
    rw [tallyIds, List.map_append, List.concat_eq_append]
    rfl
  refine ⟨?_, ?_, ?_⟩
  · rw [hids]
    exact h.distinct.concat hfresh
  · intro t ht
    rcases List.mem_append.mp ht with hold | hlast
    · refine (h.sums t hold).skip fun hid => hfresh ?_
      exact hid ▸ List.mem_map_of_mem hold
    · rw [List.mem_singleton.mp hlast]
      exact Tally.Sums.first fun other hother hid => hfresh (hid ▸ h.complete other hother)
  · intro other hother
    rw [hids, List.concat_eq_append, List.mem_append]
    rcases List.mem_append.mp hother with hold | hlast
    · exact .inl (h.complete other hold)
    · rw [List.mem_singleton.mp hlast]
      exact .inr (List.mem_singleton_self _)

/-- A hit of a known identifier joins its tally and leaves the others as they are. -/
theorem Tallied.join {front back : List Tally} (h : Tallied bonus hits (front ++ t :: back))
    (hid : t.best.id = hit.id) (hscored : Scored bonus (hits ++ [hit])) :
    Tallied bonus (hits ++ [hit]) (front ++ t.joined bonus hit :: back) := by
  have hids : tallyIds (front ++ t.joined bonus hit :: back) = tallyIds (front ++ t :: back) := by
    simp [tallyIds, Tally.best_id_joined hid]
  have hothers : ∀ u ∈ front ++ back, u.best.id ≠ hit.id := by
    have hother := notMem_tallyIds_of_nodup h.distinct
    rw [hid] at hother
    exact fun u hu heq => hother (heq ▸ List.mem_map_of_mem hu)
  refine ⟨?_, ?_, ?_⟩
  · rw [hids]
    exact h.distinct
  · intro u hu
    rcases List.mem_append.mp hu with hfront | hback
    · exact (h.sums u (by simp [hfront])).skip (hothers u (by simp [hfront]))
    · rcases List.mem_cons.mp hback with rfl | hback
      · exact (h.sums t (by simp)).joined hid hscored
      · exact (h.sums u (by simp [hback])).skip (hothers u (by simp [hback]))
  · intro other hother
    rw [hids]
    rcases List.mem_append.mp hother with hold | hlast
    · exact h.complete other hold
    · rw [List.mem_singleton.mp hlast, ← hid]
      exact List.mem_map_of_mem (List.mem_append_right front List.mem_cons_self)

/-- One hit more keeps the tallies right. -/
theorem Tallied.step {tallies : List Tally} (h : Tallied bonus hits tallies)
    (hscored : Scored bonus (hits ++ [hit])) :
    Tallied bonus (hits ++ [hit]) (tally bonus hit tallies) := by
  by_cases hknown : hit.id ∈ tallyIds tallies
  · obtain ⟨t, hmem, hid⟩ := List.mem_map.mp hknown
    obtain ⟨front, back, rfl⟩ := List.append_of_mem hmem
    have hfront : hit.id ∉ tallyIds front := by
      have hother := notMem_tallyIds_of_nodup h.distinct
      rw [hid, tallyIds, List.map_append] at hother
      exact fun hmem => hother (List.mem_append_left _ hmem)
    rw [tally_of_known hfront hid]
    exact h.join hid hscored
  · rw [tally_of_fresh hknown]
    exact h.begin hknown

/-- The tallies of some hits in their order. -/
def tallies (bonus : Float) (hits : List Hit) : List Tally :=
  hits.foldl (fun tallies hit => tally bonus hit tallies) []

theorem tallied_tallies (hscored : Scored bonus hits) :
    Tallied bonus hits (tallies bonus hits) := by
  -- The last hit is the one that is tallied last, so the list is taken apart from its end.
  induction hits using List.reverseRecOn with
  | nil => exact Tallied.nil
  | append_singleton hits hit ih =>
    have hbefore : Scored bonus hits := fun h hmem => hscored h (List.mem_append_left _ hmem)
    rw [tallies, List.foldl_append]
    exact (ih hbefore).step hscored

/-! ## Fused hits -/

/-- What is added for repeated hits carries no minus sign. -/
theorem isPlus_repeated (base : Float) (count : Nat) :
    isPlus ((if goodScore < base then repeatedGoodBonus else repeatedBonus) *
      Float.ofNat count).toModel.unpack = true := by
  refine isPlus_toModel_mul ?_ (isPlus_ofNat count)
  split
  · decide +kernel
  · decide +kernel

/-- The score of an identifier: its base, and a bonus for each further hit. -/
def fusedScore (base : Float) (further : Nat) : Float :=
  base + (if goodScore < base then repeatedGoodBonus else repeatedBonus) * Float.ofNat further

theorem Tally.Sums.fused_score (h : t.Sums bonus hits) : t.fused.score =
    fusedScore t.base ((hits.countP fun h => h.id = t.best.id) - 1) := by
  obtain ⟨further, hsucc⟩ : ∃ further, t.count = further + 1 := by
    have hpos : 0 < t.count := by
      rw [h.count_eq, List.countP_pos_iff]
      exact ⟨t.best, h.best_mem, by simp⟩
    exact ⟨t.count - 1, by omega⟩
  have hone : ((further + 1 : Nat) : Int) - 1 = further := by omega
  rw [Tally.fused, ← h.count_eq, hsucc, hone, Nat.add_sub_cancel]
  rfl

theorem goodScore_lt_iff {base base' : Float} (hbase : base.isNaN = false)
    (hbase' : base'.isNaN = false) (hlevel : levelOf base = levelOf base') :
    goodScore < base ↔ goodScore < base' := by
  have hgoodScore : goodScore.isNaN = false := by decide +kernel
  rw [lt_iff hgoodScore hbase, lt_iff hgoodScore hbase', hlevel]

/-- Bases in one place make one score, though they may be zeros of different signs. -/
theorem fusedScore_eq_of_levelOf_eq {base base' : Float} (hbase : base.isNaN = false)
    (hbase' : base'.isNaN = false) (hlevel : levelOf base = levelOf base') (further : Nat) :
    fusedScore base further = fusedScore base' further := by
  unfold fusedScore
  simp only [goodScore_lt_iff hbase hbase' hlevel]
  exact add_eq_of_levelOf_eq hbase hbase' (isPlus_repeated base' further) hlevel

/-- Where a hit ranks: the greater its score the further in front, and then by identifier. -/
def rank (h : Hit) : (ℤ ×ₗ ℤ ×ₗ ℤ)ᵒᵈ ×ₗ String :=
  toLex (toDual (levelOf h.score), h.id)

theorem ranksBefore_iff {a b : Hit} (ha : a.score.isNaN = false) (hb : b.score.isNaN = false) :
    ranksBefore a b = true ↔ rank a ≤ rank b := by
  unfold ranksBefore rank
  rw [← not_lt, Prod.Lex.toLex_lt_toLex, Bool.not_eq_true', Bool.or_eq_false_iff,
    Bool.and_eq_false_iff, decide_eq_false_iff_not, decide_eq_false_iff_not, lt_iff ha hb,
    ← Bool.not_eq_true, beq_iff ha hb, toDual_lt_toDual, toDual_inj]
  tauto

/-- Where scores are numbers, hits are sorted by their rank. -/
theorem mergeSort_ranksBefore {xs : List Hit} (hnumbers : ∀ h ∈ xs, h.score.isNaN = false) :
    xs.mergeSort ranksBefore = xs.mergeSort fun a b => decide (rank a ≤ rank b) := by
  refine mergeSort_eq_of_agrees fun a ha b hb => ?_
  rw [Bool.eq_iff_iff, ranksBefore_iff (hnumbers a ha) (hnumbers b hb), decide_eq_true_iff]

/-! ## Fusion -/

end Helpdesk.Knowledge
