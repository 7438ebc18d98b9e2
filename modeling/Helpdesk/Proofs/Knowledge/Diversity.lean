import Helpdesk.Knowledge.Ranking
import Mathlib.Data.List.Nodup
import Mathlib.Data.List.Perm.Basic

/-!
# Helpdesk.Proofs.Knowledge.Diversity — which of the ranked hits are taken.

Two passes go over the ranked list. The first takes a hit unless its source has had its places, and
what it knows about the hits so far is an invariant: a hit that was passed over has a source that is
full, so no later hit of that source is taken, or there was no place left at all. The second takes
what is left in its order until the places are filled. Both stop early, and stopping is the same as
passing over all the rest.
-/
namespace Helpdesk.Knowledge

variable {topN perSource : Nat} {hits chosen seen : List Hit} {hit : Hit}

/-! ## Places of a source -/

/-- How many of some hits come from a source. -/
def fromSource (hits : List Hit) (key : String) : Nat :=
  (hits.filter fun h => h.sourceKey = key).length

theorem fromSource_append (front back : List Hit) (key : String) :
    fromSource (front ++ back) key = fromSource front key + fromSource back key := by
  rw [fromSource, List.filter_append, List.length_append, fromSource, fromSource]

theorem fromSource_singleton (hit : Hit) (key : String) :
    fromSource [hit] key = if hit.sourceKey = key then 1 else 0 := by
  unfold fromSource
  by_cases h : hit.sourceKey = key
  · simp [h]
  · simp [h]

/-- Hits without repeated identifiers are told apart by them. -/
theorem eq_of_id_eq {a b : Hit} (hids : (hits.map Hit.id).Nodup) (ha : a ∈ hits) (hb : b ∈ hits)
    (hid : a.id = b.id) : a = b :=
  List.inj_on_of_nodup_map hids ha hb hid

/-! ## The pass with the cap -/

/-- What the first pass has chosen from the hits it has seen. -/
structure Capped (topN perSource : Nat) (seen chosen : List Hit) : Prop where
  sublist : chosen.Sublist seen
  short : chosen.length ≤ topN
  within : ∀ key, fromSource chosen key ≤ perSource
  passed : ∀ h ∈ seen, h ∉ chosen →
    perSource ≤ fromSource chosen h.sourceKey ∨ topN ≤ chosen.length
  fair : ∀ h k, [h, k].Sublist seen → h.sourceKey = k.sourceKey → k ∈ chosen → h ∈ chosen

theorem Capped.nil : Capped topN perSource [] [] where
  sublist := List.Sublist.refl []
  short := Nat.zero_le topN
  within _ := Nat.zero_le perSource
  passed _ h := absurd h List.not_mem_nil
  fair _ _ h := absurd (h.subset List.mem_cons_self) List.not_mem_nil

/-- Of two hits in a row that was made longer by one, the later one may be the new one. -/
theorem pair_sublist_concat {h k : Hit} (hsub : [h, k].Sublist (seen ++ [hit])) :
    [h, k].Sublist seen ∨ h ∈ seen ∧ k = hit := by
  obtain ⟨front, back, heq, hfront, hback⟩ := List.sublist_append_iff.mp hsub
  rcases List.sublist_singleton.mp hback with rfl | rfl
  · rw [List.append_nil] at heq
    exact .inl (heq ▸ hfront)
  · -- The new hit is the last of the two.
    have hpair : [h] ++ [k] = front ++ [hit] := heq
    obtain ⟨rfl, hlast⟩ := List.append_inj' hpair rfl
    exact .inr ⟨hfront.subset (by simp), List.singleton_inj.mp hlast⟩

/-- A hit is passed over when its source is full or no place is left. -/
theorem Capped.pass (h : Capped topN perSource seen chosen) (hnew : hit ∉ seen)
    (hfull : perSource ≤ fromSource chosen hit.sourceKey ∨ topN ≤ chosen.length) :
    Capped topN perSource (seen ++ [hit]) chosen where
  sublist := h.sublist.trans (List.sublist_append_left seen [hit])
  short := h.short
  within := h.within
  passed := by
    intro other hother hnot
    rcases List.mem_append.mp hother with hold | hlast
    · exact h.passed other hold hnot
    · rw [List.mem_singleton.mp hlast]
      exact hfull
  fair := by
    intro a b hsub hkey hb
    rcases pair_sublist_concat hsub with hold | ⟨-, rfl⟩
    · exact h.fair a b hold hkey hb
    · exact absurd (h.sublist.subset hb) hnew

/-- A hit is taken when a place is left for it and for its source. -/
theorem Capped.take (h : Capped topN perSource seen chosen) (hnew : hit ∉ seen)
    (hplace : chosen.length < topN) (hsource : fromSource chosen hit.sourceKey < perSource) :
    Capped topN perSource (seen ++ [hit]) (chosen ++ [hit]) where
  sublist := h.sublist.append (List.Sublist.refl [hit])
  short := by
    rw [List.length_append, List.length_singleton]
    omega
  within key := by
    have hbefore := h.within key
    rw [fromSource_append, fromSource_singleton]
    split
    · rename_i hkey
      rw [← hkey]
      omega
    · omega
  passed := by
    intro other hother hnot
    rw [List.mem_append, not_or] at hnot
    rw [fromSource_append, List.length_append]
    rcases List.mem_append.mp hother with hold | hlast
    · rcases h.passed other hold hnot.1 with hfull | hplaces
      · exact .inl (by omega)
      · exact .inr (by omega)
    · exact absurd hlast hnot.2
  fair := by
    intro a b hsub hkey hb
    rw [List.mem_append]
    rcases pair_sublist_concat hsub with hold | ⟨ha, rfl⟩
    · rcases List.mem_append.mp hb with hchosen | hlast
      · exact .inl (h.fair a b hold hkey hchosen)
      · -- The new hit was not among those before it.
        have hseen : b ∈ seen := hold.subset (by simp)
        exact absurd (List.mem_singleton.mp hlast ▸ hseen) hnew
    · -- Had the earlier hit been passed over, there would be no place for this one.
      by_contra hnot
      rw [not_or] at hnot
      rcases h.passed a ha hnot.1 with hfull | hplaces
      · rw [hkey] at hfull
        omega
      · omega

theorem takeCapped_of_full {places cap : Int} (hfull : places ≤ chosen.length) (hits : List Hit) :
    takeCapped places cap chosen hits = chosen := by
  cases hits with
  | nil => rfl
  | cons hit rest => rw [takeCapped, if_pos hfull]

/-- The first pass keeps its invariant to the end. -/
theorem Capped.takeCapped (h : Capped topN perSource seen chosen)
    (hnodup : (seen ++ hits).Nodup) :
    Capped topN perSource (seen ++ hits) (takeCapped topN perSource chosen hits) := by
  -- The invariant is about what was seen, so the induction is over what is still to come.
  induction hits generalizing seen chosen with
  | nil =>
    rw [List.append_nil]
    exact h
  | cons hit rest ih =>
    have hrow : seen ++ hit :: rest = (seen ++ [hit]) ++ rest := by simp
    have hnew : hit ∉ seen := by
      rw [List.nodup_append] at hnodup
      exact fun hmem => hnodup.2.2 hit hmem hit List.mem_cons_self rfl
    rw [hrow] at hnodup ⊢
    unfold Knowledge.takeCapped
    split
    · -- The pass stops here, and a pass over the rest would change nothing.
      rename_i hplaces
      rw [← takeCapped_of_full hplaces rest]
      exact ih (h.pass hnew (.inr (by omega))) hnodup
    · split
      · rename_i hsource
        exact ih (h.pass hnew (.inl (by unfold fromSource; omega))) hnodup
      · rename_i hplaces hsource
        exact ih (h.take hnew (by omega) (by unfold fromSource; omega)) hnodup

/-! ## The pass without the cap -/

/-- The hits that are not among those chosen. -/
def unchosen (chosen hits : List Hit) : List Hit :=
  hits.filter fun h => h.id ∉ chosen.map Hit.id

/-- The second pass takes what is left in its order until the places are filled. -/
theorem fillUp_eq (hids : (hits.map Hit.id).Nodup) :
    fillUp topN chosen hits = chosen ++ (unchosen chosen hits).take (topN - chosen.length) := by
  induction hits generalizing chosen with
  | nil => simp [fillUp, unchosen]
  | cons hit rest ih =>
    have hparts : hit.id ∉ rest.map Hit.id ∧ (rest.map Hit.id).Nodup := List.nodup_cons.mp hids
    have hany : (chosen.any fun h => h.id = hit.id) = true ↔ hit.id ∈ chosen.map Hit.id := by
      simp
    rw [fillUp]
    split
    · rename_i hplaces
      have hnone : topN - chosen.length = 0 := by omega
      rw [hnone, List.take_zero, List.append_nil]
    · rename_i hplaces
      split
      · rename_i hknown
        rw [hany] at hknown
        rw [ih hparts.2, unchosen, unchosen, List.filter_cons_of_neg (by simpa using hknown)]
      · rename_i hfresh
        rw [hany] at hfresh
        -- Of the rest nothing is left out that was not left out before.
        have hrest : unchosen (chosen ++ [hit]) rest = unchosen chosen rest := by
          refine List.filter_congr fun h hmem => ?_
          have hne : h.id ≠ hit.id := fun heq => hparts.1 (heq ▸ List.mem_map_of_mem hmem)
          simp [hne]
        obtain ⟨left, hleft⟩ : ∃ left, topN - chosen.length = left + 1 :=
          ⟨topN - chosen.length - 1, by omega⟩
        have hleft' : topN - (chosen ++ [hit]).length = left := by
          rw [List.length_append, List.length_singleton]
          omega
        have hhead : unchosen chosen (hit :: rest) = hit :: unchosen chosen rest :=
          List.filter_cons_of_pos (by simpa using hfresh)
        rw [ih hparts.2, hrest, hleft', hhead, hleft, List.take_succ_cons, List.append_assoc,
          List.singleton_append]

theorem mem_unchosen_iff (hids : (hits.map Hit.id).Nodup) (hsub : chosen.Sublist hits) :
    hit ∈ unchosen chosen hits ↔ hit ∈ hits ∧ hit ∉ chosen := by
  rw [unchosen, List.mem_filter, decide_eq_true_iff]
  refine and_congr_right fun hmem => not_congr ⟨fun hid => ?_, List.mem_map_of_mem⟩
  obtain ⟨c, hc, heq⟩ := List.mem_map.mp hid
  exact eq_of_id_eq hids (hsub.subset hc) hmem heq ▸ hc

/-- Every hit is among those chosen or among those left, and only once. -/
theorem perm_append_unchosen (hids : (hits.map Hit.id).Nodup) (hsub : chosen.Sublist hits) :
    (chosen ++ unchosen chosen hits).Perm hits := by
  have hhits : hits.Nodup := List.Nodup.of_map Hit.id hids
  have hdisjoint : ∀ a ∈ chosen, ∀ b ∈ unchosen chosen hits, a ≠ b := by
    rintro a ha b hb rfl
    exact ((mem_unchosen_iff hids hsub).mp hb).2 ha
  have hnodup : (chosen ++ unchosen chosen hits).Nodup :=
    List.nodup_append.mpr ⟨hhits.sublist hsub, hhits.filter _, hdisjoint⟩
  rw [List.perm_ext_iff_of_nodup hnodup hhits]
  intro h
  rw [List.mem_append, mem_unchosen_iff hids hsub]
  constructor
  · rintro (hchosen | ⟨hmem, -⟩)
    · exact hsub.subset hchosen
    · exact hmem
  · intro hmem
    by_cases hchosen : h ∈ chosen
    · exact .inl hchosen
    · exact .inr ⟨hmem, hchosen⟩

/-- What is left keeps its order. -/
theorem pair_sublist_unchosen {h k : Hit} (hsub : [h, k].Sublist hits)
    (hh : h ∈ unchosen chosen hits) (hk : k ∈ unchosen chosen hits) :
    [h, k].Sublist (unchosen chosen hits) := by
  have hleft : ∀ a ∈ [h, k], decide (a.id ∉ chosen.map Hit.id) = true := by
    intro a ha
    rcases List.mem_cons.mp ha with rfl | ha
    · exact (List.mem_filter.mp hh).2
    · rw [List.mem_singleton.mp ha]
      exact (List.mem_filter.mp hk).2
  have hfilter := hsub.filter fun a => a.id ∉ chosen.map Hit.id
  rwa [List.filter_eq_self.mpr hleft] at hfilter

/-- What stands before something that is taken from the front is taken too. -/
theorem mem_take_of_pair_sublist {n : Nat} {h k : Hit} (hnodup : hits.Nodup)
    (hsub : [h, k].Sublist hits) (hk : k ∈ hits.take n) : h ∈ hits.take n := by
  have hdisjoint : ∀ a ∈ hits.take n, a ∉ hits.drop n := by
    have hparts : (hits.take n ++ hits.drop n).Nodup := (List.take_append_drop n hits).symm ▸ hnodup
    exact fun a hfront hback => (List.nodup_append.mp hparts).2.2 a hfront a hback rfl
  rw [← List.take_append_drop n hits] at hsub
  obtain ⟨front, back, heq, hfront, hback⟩ := List.sublist_append_iff.mp hsub
  rcases front with _ | ⟨a, front⟩
  · -- Then both would be in the back.
    rw [List.nil_append] at heq
    have hlast : k ∈ back := heq ▸ (by simp)
    exact absurd (hback.subset hlast) (hdisjoint k hk)
  · rw [List.cons_append] at heq
    rw [(List.cons.inj heq).1]
    exact hfront.subset List.mem_cons_self

/-! ## The choice -/

/-- A source has more than its places only when every source of a hit left out has its own. -/
theorem Capped.exceeds (h : Capped topN perSource hits chosen) {rest : List Hit} {key : String}
    (hrest : rest.length ≤ topN - chosen.length)
    (hexceeds : perSource < fromSource (chosen ++ rest) key) (hmem : hit ∈ hits)
    (hnot : hit ∉ chosen) :
    perSource ≤ fromSource (chosen ++ rest) hit.sourceKey := by
  rw [fromSource_append] at hexceeds ⊢
  have hwithin := h.within key
  rcases h.passed hit hmem hnot with hfull | hplaces
  · omega
  · -- With no place left nothing was added, so no source has more than its places.
    have hnone : rest = [] := List.length_eq_zero_iff.mp (by omega)
    rw [hnone] at hexceeds
    exact absurd hexceeds (by simpa [fromSource] using hwithin)

/-- The second pass keeps to the order within a source, as the first one does. -/
theorem Capped.fair_fill (h : Capped topN perSource hits chosen) (hids : (hits.map Hit.id).Nodup)
    {n : Nat} {a b : Hit} (hsub : [a, b].Sublist hits) (hkey : a.sourceKey = b.sourceKey)
    (hb : b ∈ chosen ++ (unchosen chosen hits).take n) :
    a ∈ chosen ++ (unchosen chosen hits).take n := by
  rw [List.mem_append] at hb ⊢
  by_cases ha : a ∈ chosen
  · exact .inl ha
  · rcases hb with hchosen | hrest
    · exact absurd (h.fair a b hsub hkey hchosen) ha
    · right
      have haleft : a ∈ unchosen chosen hits :=
        (mem_unchosen_iff hids h.sublist).mpr ⟨hsub.subset (by simp), ha⟩
      have hleft := pair_sublist_unchosen hsub haleft (List.mem_of_mem_take hrest)
      have hnodup : (unchosen chosen hits).Nodup := (List.Nodup.of_map Hit.id hids).filter _
      exact mem_take_of_pair_sublist hnodup hleft hrest

/-- What a diverse choice from ranked hits is. -/
structure Diverse (topN perSource : Nat) (hits taken : List Hit) : Prop where
  length_eq : taken.length = min topN hits.length
  mem : ∀ h ∈ taken, h ∈ hits
  distinct : (taken.map Hit.id).Nodup
  parts : ∃ capped rest, taken = capped ++ rest ∧ Capped topN perSource hits capped ∧
    rest <+: unchosen capped hits
  exceeds : ∀ key, perSource < fromSource taken key → ∀ h ∈ hits, h ∉ taken →
    perSource ≤ fromSource taken h.sourceKey
  fair : ∀ h k, [h, k].Sublist hits → h.sourceKey = k.sourceKey → k ∈ taken → h ∈ taken

/-- **The choice is diverse.** The best hits are taken as long as their sources have places, and
then the best of the others: as many as there are places for, each once, with more than its places
for a source only where every source of a hit left out has had its own, and never a hit without the
better ones of its source. -/
theorem diversify_is_diverse (hits : List Hit) (topN perSource : Nat)
    (hids : (hits.map Hit.id).Nodup) :
    Diverse topN perSource hits (diversify hits topN perSource) := by
  have hhits : hits.Nodup := List.Nodup.of_map Hit.id hids
  have hcapped : Capped topN perSource hits (takeCapped topN perSource [] hits) :=
    Capped.nil.takeCapped hhits
  generalize hchosen : takeCapped topN perSource [] hits = capped at hcapped
  have htaken : diversify hits topN perSource =
      capped ++ (unchosen capped hits).take (topN - capped.length) := by
    rw [diversify, hchosen, fillUp_eq hids]
  have hperm := perm_append_unchosen hids hcapped.sublist
  have hprefix := List.take_prefix (topN - capped.length) (unchosen capped hits)
  have hsub : (capped ++ (unchosen capped hits).take (topN - capped.length)).Sublist
      (capped ++ unchosen capped hits) := hprefix.sublist.append_left capped
  have hnodup : ((capped ++ unchosen capped hits).map Hit.id).Nodup :=
    (hperm.map Hit.id).nodup_iff.mpr hids
  rw [htaken]
  refine ⟨?_, ?_, ?_, ⟨capped, _, rfl, hcapped, hprefix⟩, ?_, ?_⟩
  · have hlength := hperm.length_eq
    have hshort := hcapped.short
    rw [List.length_append] at hlength
    rw [List.length_append, List.length_take]
    omega
  · exact fun h hmem => hperm.mem_iff.mp (hsub.subset hmem)
  · exact hnodup.sublist (hsub.map Hit.id)
  · intro key hexceeds h hmem hnot
    rw [List.mem_append, not_or] at hnot
    exact hcapped.exceeds (List.length_take_le _ _) hexceeds hmem hnot.1
  · exact fun h k hpair hkey hk => hcapped.fair_fill hids hpair hkey hk

/-- A passage of an article. -/
def article (sourceId : String) (number : Int) : Hit :=
  ⟨sourceId ++ ":" ++ decimal number, "Clear the cookies.", "general_knowledge", some sourceId,
    some number, 0.5, []⟩

/-- Three passages of one article and one of another: the third place goes to the other article. -/
theorem diversify_is_diverse_articles :
    Diverse 3 2 [article "a" 1, article "a" 2, article "a" 3, article "b" 4]
      (diversify [article "a" 1, article "a" 2, article "a" 3, article "b" 4] 3 2) :=
  diversify_is_diverse _ 3 2 (by decide)

end Helpdesk.Knowledge
