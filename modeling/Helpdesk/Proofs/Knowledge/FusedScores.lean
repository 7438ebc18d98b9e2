import Helpdesk.Proofs.Knowledge.Fusion
import Helpdesk.Proofs.Score.Growth

/-!
# Helpdesk.Proofs.Knowledge.FusedScores — the ranked list in closed form.

One pass keeps three facts about each identifier, and the bonus for further hits is chosen only at
the end, by the greatest base. The list that comes out has a description in which no pass occurs: an
identifier has the greatest base of its hits and a bonus for each hit after the first, and the list
is sorted by score and then by identifier. Such a list is determined by what is in it, so the hits
may come in any order.

A score that is no number has no place in a sorted list. Numbers stay numbers when the bonus is
added, unless the greatest base is minus infinity and the bonus, for more hits than there can be,
plus infinity.
-/
namespace Helpdesk.Knowledge

open Score OrderDual

variable {bonus : Float} {hits hits' : List Hit} {branches branches' : List (List Hit)}

/-! ## Scores that are numbers -/

/-- The scores of some hits are exact: numbers, also with the bonus for summaries, and if there is
an infinite one there are not so many hits that their bonus could be infinite too. -/
structure Exact (bonus : Float) (hits : List Hit) : Prop where
  scored : Scored bonus hits
  counted : ∀ h ∈ hits, (baseScore bonus h).isFinite = false → hits.length ≤ 2 ^ 1023

/-- What each hit after the first adds to a base. -/
def furtherBonus (base : Float) : Float :=
  if goodScore < base then repeatedGoodBonus else repeatedBonus

theorem positive_furtherBonus (base : Float) : Positive (furtherBonus base) := by
  unfold furtherBonus
  split
  · exact ⟨by decide +kernel, by decide +kernel, by decide +kernel, by decide +kernel⟩
  · exact ⟨by decide +kernel, by decide +kernel, by decide +kernel, by decide +kernel⟩

/-- A good base adds no less for further hits than any other one. -/
theorem placeOf_furtherBonus_mono {base base' : Float} (hbase : base.isNaN = false)
    (hbase' : base'.isNaN = false) (h : levelOf base ≤ levelOf base') :
    placeOf (furtherBonus base) ≤ placeOf (furtherBonus base') := by
  have hgoodScore : goodScore.isNaN = false := by decide +kernel
  have hbonus : placeOf repeatedBonus ≤ placeOf repeatedGoodBonus := by decide +kernel
  unfold furtherBonus
  by_cases hgood : goodScore < base
  · have hgood' : goodScore < base' := by
      rw [lt_iff hgoodScore hbase] at hgood
      rw [lt_iff hgoodScore hbase']
      exact lt_of_lt_of_le hgood h
    rw [if_pos hgood, if_pos hgood']
  · rw [if_neg hgood]
    split
    · exact hbonus
    · exact le_rfl

/-- What further hits add is finite as long as they can be counted in floats. -/
theorem isFinite_furtherBonus_mul (base : Float) {further : ℕ} (h : further ≤ 2 ^ 1023) :
    (furtherBonus base * Float.ofNat further).isFinite = true := by
  have hbonus := positive_furtherBonus base
  have hunsigned : Unsigned (furtherBonus base * Float.ofNat further).toModel.unpack :=
    ⟨canonical_toModel _, hbonus.isNaN_mul_ofNat further,
      isPlus_toModel_mul hbonus.plus (isPlus_ofNat further)⟩
  have hlarge : ∀ base, placeOf (furtherBonus base * Float.ofNat (2 ^ 1023)) < lastPlace := by
    intro base
    unfold furtherBonus
    split
    · decide +kernel
    · decide +kernel
  -- The product grows with the count, and for the largest count it is still finite.
  have hlow : 0 ≤ placeOf (furtherBonus base * Float.ofNat further) := hunsigned.place_nonneg
  have hhigh : placeOf (furtherBonus base * Float.ofNat further) < lastPlace :=
    lt_of_le_of_lt (hbonus.placeOf_mul_ofNat_mono hbonus le_rfl h) (hlarge base)
  have hlast : 0 < lastPlace := by decide
  apply (isFinite_iff hunsigned.canonical hunsigned.number).mpr
  exact ⟨by unfold placeOf at hlow; omega, hhigh⟩

theorem isNaN_fusedScore {base : Float} {further : ℕ} (hbase : base.isNaN = false)
    (h : base.isFinite = true ∨ further ≤ 2 ^ 1023) : (fusedScore base further).isNaN = false := by
  apply isNaN_add hbase ((positive_furtherBonus base).isNaN_mul_ofNat further)
  exact h.imp id (isFinite_furtherBonus_mul base)

/-- **A score grows with the base and with the number of hits.** -/
theorem fusedScore_mono {base base' : Float} {further further' : ℕ} (hbase : base.isNaN = false)
    (hbase' : base'.isNaN = false) (hle : levelOf base ≤ levelOf base')
    (hfurther : further ≤ further') (hscore : (fusedScore base further).isNaN = false)
    (hscore' : (fusedScore base' further').isNaN = false) :
    fusedScore base further ≤ fusedScore base' further' := by
  rw [le_iff hscore hscore', levelOf_le_iff hscore hscore']
  refine placeOf_add_mono ((levelOf_le_iff hbase hbase').mp hle) ?_ hscore hscore'
  exact (positive_furtherBonus base).placeOf_mul_ofNat_mono (positive_furtherBonus base')
    (placeOf_furtherBonus_mono hbase hbase' hle) hfurther

/-! ## The best hits -/

/-- How many hits an identifier has. -/
def occurrences (hits : List Hit) (id : String) : ℕ :=
  hits.countP fun h => h.id = id

/-- The score that an identifier gets for its best hit among some hits. -/
def scoreOf (bonus : Float) (hits : List Hit) (best : Hit) : Float :=
  fusedScore (baseScore bonus best) (occurrences hits best.id - 1)

/-- A hit has the greatest base of all hits of its identifier. -/
structure Leads (bonus : Float) (hits : List Hit) (best : Hit) : Prop where
  mem : best ∈ hits
  greatest : ∀ h ∈ hits, h.id = best.id → baseScore bonus h ≤ baseScore bonus best

theorem Exact.isNaN_scoreOf {best : Hit} (h : Exact bonus hits) (hbest : best ∈ hits) :
    (scoreOf bonus hits best).isNaN = false := by
  apply isNaN_fusedScore (h.scored best hbest)
  by_cases hfinite : (baseScore bonus best).isFinite = true
  · exact .inl hfinite
  · have hlength := h.counted best hbest (Bool.eq_false_iff.mpr hfinite)
    have hcount : occurrences hits best.id ≤ hits.length := List.countP_le_length
    exact .inr (by omega)

theorem Leads.levelOf_le {best h : Hit} (hscored : Scored bonus hits)
    (hbest : Leads bonus hits best) (hmem : h ∈ hits) (hid : h.id = best.id) :
    levelOf (baseScore bonus h) ≤ levelOf (baseScore bonus best) :=
  (le_iff (hscored h hmem) (hscored best hbest.mem)).mp (hbest.greatest h hmem hid)

/-- Two best hits of one identifier make one score. -/
theorem Leads.scoreOf_eq {best best' : Hit} (hscored : Scored bonus hits)
    (hbest : Leads bonus hits best) (hbest' : Leads bonus hits best') (hid : best.id = best'.id) :
    scoreOf bonus hits best = scoreOf bonus hits best' := by
  -- Each base is no less than the other, though the two may be zeros of different signs.
  have hlevel : levelOf (baseScore bonus best) = levelOf (baseScore bonus best') :=
    le_antisymm (hbest'.levelOf_le hscored hbest.mem hid)
      (hbest.levelOf_le hscored hbest'.mem hid.symm)
  rw [scoreOf, scoreOf, hid]
  exact fusedScore_eq_of_levelOf_eq (hscored best hbest.mem) (hscored best' hbest'.mem) hlevel _

theorem Tally.Sums.leads {t : Tally} (hscored : Scored bonus hits) (h : t.Sums bonus hits) :
    Leads bonus hits t.best := by
  refine ⟨h.best_mem, fun other hother hid => ?_⟩
  rw [le_iff (hscored other hother) (hscored t.best h.best_mem), ← h.base_eq]
  exact h.greatest other hother hid

theorem Tally.Sums.fused_eq_best {t : Tally} (h : t.Sums bonus hits) :
    t.fused = { t.best with score := scoreOf bonus hits t.best } := by
  have hscore : t.fused.score = scoreOf bonus hits t.best := by
    rw [h.fused_score, h.base_eq]
    rfl
  rw [← hscore]
  rfl

/-! ## The ranked list -/

/-- What is left of a hit when it is only asked where it ranks. -/
def Hit.standing (h : Hit) : String × Float :=
  (h.id, h.score)

/-- Where a standing ranks. -/
def standingRank (s : String × Float) : (ℤ ×ₗ ℤ ×ₗ ℤ)ᵒᵈ ×ₗ String :=
  toLex (toDual (levelOf s.2), s.1)

theorem rank_eq_standingRank (h : Hit) : rank h = standingRank h.standing :=
  rfl

/-- Every hit of the list is the best of its identifier, with a score for all of them. -/
theorem leads_of_mem_fuse (hscored : Scored bonus branches.flatten) {h : Hit}
    (hmem : h ∈ fuse branches bonus) : ∃ best, Leads bonus branches.flatten best ∧
      h = { best with score := scoreOf bonus branches.flatten best } := by
  obtain ⟨t, ht, rfl⟩ := List.mem_map.mp (List.mem_mergeSort.mp hmem)
  have hsums := (tallied_tallies hscored).sums t ht
  exact ⟨t.best, hsums.leads hscored, hsums.fused_eq_best⟩

/-- Every identifier has a place in the list. -/
theorem exists_mem_fuse (hscored : Scored bonus branches.flatten) {h : Hit}
    (hmem : h ∈ branches.flatten) : ∃ f ∈ fuse branches bonus, f.id = h.id := by
  obtain ⟨t, ht, hid⟩ := List.mem_map.mp ((tallied_tallies hscored).complete h hmem)
  exact ⟨t.fused, List.mem_mergeSort.mpr (List.mem_map_of_mem ht), hid⟩

theorem nodup_ids_fuse (hscored : Scored bonus branches.flatten) :
    ((fuse branches bonus).map Hit.id).Nodup := by
  have hperm := (List.mergeSort_perm ((tallies bonus branches.flatten).map Tally.fused)
    ranksBefore).map Hit.id
  apply hperm.nodup_iff.mpr
  rw [List.map_map]
  exact (tallied_tallies hscored).distinct

theorem Exact.isNaN_of_mem_fuse (hexact : Exact bonus branches.flatten) {h : Hit}
    (hmem : h ∈ fuse branches bonus) : h.score.isNaN = false := by
  obtain ⟨best, hbest, rfl⟩ := leads_of_mem_fuse hexact.scored hmem
  exact hexact.isNaN_scoreOf hbest.mem

theorem Exact.pairwise_fuse (hexact : Exact bonus branches.flatten) :
    (fuse branches bonus).Pairwise fun a b => rank a < rank b := by
  have hnumbers : ∀ h ∈ (tallies bonus branches.flatten).map Tally.fused, h.score.isNaN = false :=
    fun h hmem => hexact.isNaN_of_mem_fuse (List.mem_mergeSort.mpr hmem)
  have hsorted : (fuse branches bonus).Pairwise fun a b => rank a ≤ rank b := by
    show (((tallies bonus branches.flatten).map Tally.fused).mergeSort ranksBefore).Pairwise _
    rw [mergeSort_ranksBefore hnumbers]
    exact pairwise_mergeSort_key rank _
  have hdistinct := List.pairwise_map.mp (nodup_ids_fuse hexact.scored)
  -- Hits of one rank would have one identifier.
  apply (hsorted.and hdistinct).imp
  rintro a b ⟨hle, hne⟩
  refine lt_of_le_of_ne hle fun hrank => hne ?_
  exact congrArg (fun r => (ofLex r).2) hrank

/-- What stands in the list, told without the pass that made it. -/
theorem Exact.mem_standings_iff (hexact : Exact bonus branches.flatten) {s : String × Float} :
    s ∈ (fuse branches bonus).map Hit.standing ↔ ∃ best, Leads bonus branches.flatten best ∧
      s = (best.id, scoreOf bonus branches.flatten best) := by
  constructor
  · intro hmem
    obtain ⟨h, hh, rfl⟩ := List.mem_map.mp hmem
    obtain ⟨best, hbest, rfl⟩ := leads_of_mem_fuse hexact.scored hh
    exact ⟨best, hbest, rfl⟩
  · rintro ⟨best, hbest, rfl⟩
    obtain ⟨f, hf, hid⟩ := exists_mem_fuse hexact.scored hbest.mem
    obtain ⟨best', hbest', rfl⟩ := leads_of_mem_fuse hexact.scored hf
    apply List.mem_map.mpr
    refine ⟨_, hf, Prod.ext hid ?_⟩
    exact hbest'.scoreOf_eq hexact.scored hbest hid

theorem Exact.pairwise_standings (hexact : Exact bonus branches.flatten) :
    ((fuse branches bonus).map Hit.standing).Pairwise fun a b => standingRank a < standingRank b :=
  List.pairwise_map.mpr hexact.pairwise_fuse

/-! ## Fusion in closed form -/

theorem Exact.of_perm (hexact : Exact bonus hits) (hperm : hits.Perm hits') :
    Exact bonus hits' := by
  refine ⟨fun h hmem => hexact.scored h (hperm.mem_iff.mpr hmem), fun h hmem hinfinite => ?_⟩
  rw [← hperm.length_eq]
  exact hexact.counted h (hperm.mem_iff.mpr hmem) hinfinite

theorem occurrences_of_perm (hperm : hits.Perm hits') (id : String) :
    occurrences hits id = occurrences hits' id :=
  hperm.countP_eq _

theorem scoreOf_of_perm (hperm : hits.Perm hits') (best : Hit) :
    scoreOf bonus hits best = scoreOf bonus hits' best := by
  rw [scoreOf, scoreOf, occurrences_of_perm hperm]

theorem Leads.of_perm {best : Hit} (h : Leads bonus hits best) (hperm : hits.Perm hits') :
    Leads bonus hits' best :=
  ⟨hperm.mem_iff.mp h.mem, fun other hother => h.greatest other (hperm.mem_iff.mpr hother)⟩

/-- The standings do not depend on the order of the hits. -/
theorem Exact.standings_of_perm (hexact : Exact bonus branches.flatten)
    (hperm : branches.flatten.Perm branches'.flatten) :
    (fuse branches bonus).map Hit.standing = (fuse branches' bonus).map Hit.standing := by
  have hexact' := hexact.of_perm hperm
  refine eq_of_pairwise_key_lt hexact.pairwise_standings hexact'.pairwise_standings fun s => ?_
  rw [hexact.mem_standings_iff, hexact'.mem_standings_iff]
  simp only [scoreOf_of_perm hperm]
  constructor
  · rintro ⟨best, hbest, hs⟩
    exact ⟨best, hbest.of_perm hperm, hs⟩
  · rintro ⟨best, hbest, hs⟩
    exact ⟨best, hbest.of_perm hperm.symm, hs⟩

/-- A passage that a query found, perhaps marked as a summary. -/
def finding (id : String) (score : Float) (marked : Bool) : Hit :=
  ⟨id, "Clear the cookies.", "general_knowledge", some id, some 1, score,
    if marked then [("is_summary", .bool true)] else []⟩

end Helpdesk.Knowledge
