import Helpdesk.Proofs.Knowledge.FusedScores

/-!
# Helpdesk.Proofs.Knowledge.Evidence — a hit more never does harm.

One more hit can raise the greatest base of its identifier, lift it over the score from which
further hits count more, and is a further hit itself. All three raise the score, and floats, which
round every sum and product, at least keep the order. The other identifiers have the hits they had
before, so their standings are the same, and whatever ranked below the identifier of the hit still
does.
-/
namespace Helpdesk.Knowledge

open Score OrderDual

variable {bonus : Float} {hits hits' : List Hit} {branches branches' : List (List Hit)} {hit : Hit}

/-! ## One hit more -/

theorem Exact.of_cons (h : Exact bonus (hit :: hits)) : Exact bonus hits := by
  refine ⟨fun other hmem => h.scored other (List.mem_cons_of_mem _ hmem), ?_⟩
  intro other hmem hinfinite
  have hlength := h.counted other (List.mem_cons_of_mem _ hmem) hinfinite
  rw [List.length_cons] at hlength
  exact Nat.le_of_succ_le hlength

theorem occurrences_cons (hit : Hit) (hits : List Hit) (id : String) :
    occurrences (hit :: hits) id = occurrences hits id + if hit.id = id then 1 else 0 := by
  simp [occurrences, List.countP_cons]

/-- The best hits of the other identifiers stay the best. -/
theorem leads_cons_iff {best : Hit} (hid : best.id ≠ hit.id) :
    Leads bonus (hit :: hits) best ↔ Leads bonus hits best := by
  constructor
  · intro h
    have hmem : best ∈ hits := by
      rcases List.mem_cons.mp h.mem with rfl | hmem
      · exact absurd rfl hid
      · exact hmem
    exact ⟨hmem, fun other hother => h.greatest other (List.mem_cons_of_mem _ hother)⟩
  · intro h
    refine ⟨List.mem_cons_of_mem _ h.mem, fun other hother heq => ?_⟩
    rcases List.mem_cons.mp hother with rfl | hother
    · exact absurd heq.symm hid
    · exact h.greatest other hother heq

theorem scoreOf_cons {best : Hit} (hid : best.id ≠ hit.id) :
    scoreOf bonus (hit :: hits) best = scoreOf bonus hits best := by
  rw [scoreOf, occurrences_cons, if_neg (Ne.symm hid), Nat.add_zero, scoreOf]

/-- The score of the identifier that has one hit more does not fall. -/
theorem Exact.scoreOf_le {best best' : Hit} (hexact : Exact bonus (hit :: hits))
    (hbest : Leads bonus hits best) (hbest' : Leads bonus (hit :: hits) best')
    (hid : best.id = best'.id) : scoreOf bonus hits best ≤ scoreOf bonus (hit :: hits) best' := by
  have hmem : best ∈ hit :: hits := List.mem_cons_of_mem _ hbest.mem
  have hcount : occurrences hits best.id - 1 ≤ occurrences (hit :: hits) best'.id - 1 := by
    rw [occurrences_cons, hid]
    omega
  have hlevel : levelOf (baseScore bonus best) ≤ levelOf (baseScore bonus best') :=
    hbest'.levelOf_le hexact.scored hmem hid
  exact fusedScore_mono (hexact.scored best hmem) (hexact.scored best' hbest'.mem) hlevel hcount
    (hexact.of_cons.isNaN_scoreOf hbest.mem) (hexact.isNaN_scoreOf hbest'.mem)

/-! ## The ranked lists before and after -/

/-- Some queries found what others found, and one hit more. -/
def Gains (hit : Hit) (branches branches' : List (List Hit)) : Prop :=
  branches'.flatten.Perm (hit :: branches.flatten)

/-- A hit may come in anywhere among those of any query. -/
theorem gains_insert (hit : Hit) (front back : List (List Hit)) (before after : List Hit) :
    Gains hit (front ++ (before ++ after) :: back) (front ++ (before ++ hit :: after) :: back) := by
  have hwith : (front ++ (before ++ hit :: after) :: back).flatten =
      (front.flatten ++ before) ++ hit :: (after ++ back.flatten) := by
    simp
  have hwithout : (front ++ (before ++ after) :: back).flatten =
      (front.flatten ++ before) ++ (after ++ back.flatten) := by
    simp
  rw [Gains, hwith, hwithout]
  exact List.perm_middle

theorem Gains.exact_before (h : Gains hit branches branches')
    (hexact : Exact bonus branches'.flatten) : Exact bonus branches.flatten :=
  (hexact.of_perm h).of_cons

/-- The standings afterwards, told by the hits before and the one that was added. -/
theorem Gains.mem_standings_iff (h : Gains hit branches branches')
    (hexact : Exact bonus branches'.flatten) {s : String × Float} :
    s ∈ (fuse branches' bonus).map Hit.standing ↔
      ∃ best, Leads bonus (hit :: branches.flatten) best ∧
        s = (best.id, scoreOf bonus (hit :: branches.flatten) best) := by
  have hflat : [hit :: branches.flatten].flatten = hit :: branches.flatten := List.flatten_singleton
  have hone : branches'.flatten.Perm [hit :: branches.flatten].flatten := hflat.symm ▸ h
  rw [hexact.standings_of_perm hone, (hexact.of_perm hone).mem_standings_iff, hflat]

/-- The other identifiers keep their scores and their order. -/
theorem Gains.others_eq (h : Gains hit branches branches')
    (hexact : Exact bonus branches'.flatten) :
    ((fuse branches' bonus).map Hit.standing).filter (fun s => s.1 ≠ hit.id) =
      ((fuse branches bonus).map Hit.standing).filter fun s => s.1 ≠ hit.id := by
  have hbefore := h.exact_before hexact
  refine eq_of_pairwise_key_lt (hexact.pairwise_standings.filter _)
    (hbefore.pairwise_standings.filter _) fun s => ?_
  rw [List.mem_filter, List.mem_filter, h.mem_standings_iff hexact, hbefore.mem_standings_iff]
  simp only [decide_eq_true_iff]
  constructor
  · rintro ⟨⟨best, hbest, rfl⟩, hid⟩
    exact ⟨⟨best, (leads_cons_iff hid).mp hbest, by rw [scoreOf_cons hid]⟩, hid⟩
  · rintro ⟨⟨best, hbest, rfl⟩, hid⟩
    exact ⟨⟨best, (leads_cons_iff hid).mpr hbest, by rw [scoreOf_cons hid]⟩, hid⟩

/-- The identifier that has one hit more keeps its score or gets a higher one. -/
theorem Gains.exists_score_le (h : Gains hit branches branches')
    (hexact : Exact bonus branches'.flatten) {f : Hit} (hf : f ∈ fuse branches bonus)
    (hid : f.id = hit.id) : ∃ f' ∈ fuse branches' bonus, f'.id = hit.id ∧ f.score ≤ f'.score := by
  obtain ⟨best, hbest, rfl⟩ := leads_of_mem_fuse (h.exact_before hexact).scored hf
  have hmem : hit ∈ branches'.flatten := List.Perm.mem_iff h |>.mpr List.mem_cons_self
  obtain ⟨f', hf', hid'⟩ := exists_mem_fuse hexact.scored hmem
  obtain ⟨best', hbest', rfl⟩ := leads_of_mem_fuse hexact.scored hf'
  refine ⟨_, hf', hid', ?_⟩
  have hle := (hexact.of_perm h).scoreOf_le hbest (hbest'.of_perm h) (hid.trans hid'.symm)
  rwa [← scoreOf_of_perm h] at hle

theorem rank_le_rank {a b : Hit} (ha : a.score.isNaN = false) (hb : b.score.isNaN = false)
    (hid : a.id = b.id) (hle : b.score ≤ a.score) : rank a ≤ rank b := by
  have hlevel : levelOf b.score ≤ levelOf a.score := (le_iff hb ha).mp hle
  exact Prod.Lex.toLex_mono ⟨toDual_le_toDual.mpr hlevel, hid.le⟩

/-- What ranked below the identifier that has one hit more does so afterwards. -/
theorem Gains.stays_above (h : Gains hit branches branches')
    (hexact : Exact bonus branches'.flatten) {id : String}
    (habove : [hit.id, id].Sublist ((fuse branches bonus).map Hit.id)) :
    [hit.id, id].Sublist ((fuse branches' bonus).map Hit.id) := by
  have hbefore := h.exact_before hexact
  have hother : id ≠ hit.id := by
    have hnodup := (nodup_ids_fuse hbefore.scored).sublist habove
    exact fun heq => (List.nodup_cons.mp hnodup).1 (List.mem_singleton.mpr heq.symm)
  obtain ⟨f, g, hsub, hf, rfl⟩ : ∃ f g, [f, g].Sublist (fuse branches bonus) ∧
      f.id = hit.id ∧ g.id = id := by
    obtain ⟨pair, hsub, hpair⟩ := List.sublist_map_iff.mp habove
    rcases pair with _ | ⟨f, _ | ⟨g, _ | ⟨_, _⟩⟩⟩
    all_goals simp at hpair
    exact ⟨f, g, hsub, hpair.1.symm, hpair.2.symm⟩
  obtain ⟨hfmem, hgmem, hlt⟩ := (pair_sublist_iff hbefore.pairwise_fuse).mp hsub
  obtain ⟨f', hfmem', hf', hle⟩ := h.exists_score_le hexact hfmem hf
  -- The other hit has the same standing afterwards.
  obtain ⟨g', hgmem', hg'⟩ : ∃ g' ∈ fuse branches' bonus, g'.standing = g.standing := by
    have hstanding : g.standing ∈
        ((fuse branches' bonus).map Hit.standing).filter fun s => s.1 ≠ hit.id := by
      rw [h.others_eq hexact, List.mem_filter, decide_eq_true_iff]
      exact ⟨List.mem_map_of_mem hgmem, hother⟩
    exact List.mem_map.mp (List.mem_filter.mp hstanding).1
  -- The first one has not fallen and the other one has not moved.
  have hrank : rank f' < rank g' := by
    have hfrank : rank f' ≤ rank f := rank_le_rank (hexact.isNaN_of_mem_fuse hfmem')
      (hbefore.isNaN_of_mem_fuse hfmem) (hf'.trans hf.symm) hle
    rw [rank_eq_standingRank g', hg', ← rank_eq_standingRank]
    exact lt_of_le_of_lt hfrank hlt
  have hsub' := (pair_sublist_iff hexact.pairwise_fuse).mpr ⟨hfmem', hgmem', hrank⟩
  have hgid : g'.id = g.id := congrArg Prod.fst hg'
  have hids := hsub'.map Hit.id
  rwa [List.map_cons, List.map_singleton, hf', hgid] at hids

/-- **Fusion is monotone in evidence.** When the queries find one hit more, wherever it comes in,
its identifier is ranked with a score that is not lower than before, the other identifiers keep
their scores and their order, and none that was ranked below the identifier of the hit rises above
it. -/
theorem fuse_grows_with_evidence (branches branches' : List (List Hit)) (hit : Hit) (bonus : Float)
    (hgains : Gains hit branches branches') (hexact : Exact bonus branches'.flatten) :
    (∀ f ∈ fuse branches bonus, f.id = hit.id →
      ∃ f' ∈ fuse branches' bonus, f'.id = hit.id ∧ f.score ≤ f'.score) ∧
    ((fuse branches' bonus).map Hit.standing).filter (fun s => s.1 ≠ hit.id) =
      ((fuse branches bonus).map Hit.standing).filter (fun s => s.1 ≠ hit.id) ∧
    ∀ id, [hit.id, id].Sublist ((fuse branches bonus).map Hit.id) →
      [hit.id, id].Sublist ((fuse branches' bonus).map Hit.id) := by
  refine ⟨fun f hf hid => ?_, hgains.others_eq hexact, fun id habove => ?_⟩
  · exact hgains.exists_score_le hexact hf hid
  · exact hgains.stays_above hexact habove

theorem fuse_grows_with_evidence_login :
    Gains (finding "a" 0.69 true) [[finding "b" 0.5 false], [finding "a" 0.6 false]]
        [[finding "b" 0.5 false], [finding "a" 0.69 true, finding "a" 0.6 false]] ∧
      Exact 0.02 [finding "b" 0.5 false, finding "a" 0.69 true, finding "a" 0.6 false] ∧
      ["a", "b"].Sublist ((fuse [[finding "b" 0.5 false],
        [finding "a" 0.69 true, finding "a" 0.6 false]] 0.02).map Hit.id) := by
  have hgains : Gains (finding "a" 0.69 true) [[finding "b" 0.5 false], [finding "a" 0.6 false]]
      [[finding "b" 0.5 false], [finding "a" 0.69 true, finding "a" 0.6 false]] :=
    gains_insert _ [[finding "b" 0.5 false]] [] [] [finding "a" 0.6 false]
  have hexact : Exact 0.02
      [finding "b" 0.5 false, finding "a" 0.69 true, finding "a" 0.6 false] := by
    refine ⟨?_, ?_⟩
    · unfold Scored
      decide +kernel
    · decide +kernel
  have hbefore : (fuse [[finding "b" 0.5 false], [finding "a" 0.6 false]] 0.02).map Hit.id =
      ["a", "b"] := by
    show ([Tally.fused _, Tally.fused _].mergeSort ranksBefore).map Hit.id = _
    rw [mergeSort_pair, if_neg (by decide +kernel)]
    decide +kernel
  refine ⟨hgains, hexact, ?_⟩
  apply (fuse_grows_with_evidence _ _ _ 0.02 hgains hexact).2.2 "b"
  rw [hbefore]
  exact List.Sublist.refl _

/-- With a bonus for summaries that is no number, a summary costs its identifier the first place. -/
theorem nanBonus_demotes_summarised :
    Gains (finding "a" 0.95 true) [[finding "b" 0.5 false], [finding "a" 0.9 false]]
        [[finding "b" 0.5 false], [finding "a" 0.95 true, finding "a" 0.9 false]] ∧
      (∀ h ∈ [finding "b" 0.5 false, finding "a" 0.95 true, finding "a" 0.9 false],
        h.score.isNaN = false) ∧
      (fuse [[finding "b" 0.5 false], [finding "a" 0.9 false]] (0.0 / 0.0)).map Hit.id =
        ["a", "b"] ∧
      (fuse [[finding "b" 0.5 false], [finding "a" 0.95 true, finding "a" 0.9 false]]
        (0.0 / 0.0)).map Hit.id = ["b", "a"] := by
  refine ⟨gains_insert _ [[finding "b" 0.5 false]] [] [] [finding "a" 0.9 false],
    by decide +kernel, ?_, ?_⟩
  · show ([Tally.fused _, Tally.fused _].mergeSort ranksBefore).map Hit.id = _
    rw [mergeSort_pair, if_neg (by decide +kernel)]
    decide +kernel
  · unfold fuse
    rw [List.mergeSort_of_pairwise (by decide +kernel)]
    decide +kernel

end Helpdesk.Knowledge
