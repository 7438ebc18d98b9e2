import Helpdesk.Proofs.Keyed
import Helpdesk.Proofs.Knowledge.Retrieval
import Mathlib.Data.List.Induction
import Mathlib.Data.List.Perm.Subperm

/-!
# Helpdesk.Proofs.Knowledge.Expansion — what is read around hits.

The hits of one source make a group, and groups stand in the order of their first hits. A group from
a conversation is not passed on as it is: its summary comes with a few neighbours, or its first hit
with the chunks before and after it. A store may answer a lookup with anything: other sources,
chunks without a number, the same chunk twice, or a failure. What a group contributes is therefore
said for any answer, and of the answer only hits of the source that was asked for can come through.
-/
namespace Helpdesk.Knowledge

variable {σ : Type} {hits : List Hit}

/-! ## Groups -/

/-- The groups of some hits, each under its source. -/
def groupTable (hits : List Hit) : Keyed (List Hit) :=
  hits.foldl (fun groups hit =>
    Keyed.put hit.sourceKey ((Keyed.get? hit.sourceKey groups).getD [] ++ [hit]) groups) []

/-- The hits of one source in their order. -/
def ofSourceKey (key : String) (hits : List Hit) : List Hit :=
  hits.filter fun h => h.sourceKey = key

theorem ofSourceKey_concat (key : String) (hits : List Hit) (hit : Hit) :
    ofSourceKey key (hits ++ [hit]) =
      ofSourceKey key hits ++ if hit.sourceKey = key then [hit] else [] := by
  unfold ofSourceKey
  rw [List.filter_append]
  by_cases h : hit.sourceKey = key
  · simp [h]
  · simp [h]

/-- The sources stand in the order in which they were first seen. -/
theorem names_groupTable (hits : List Hit) :
    Keyed.names (groupTable hits) = Text.distinct (hits.map Hit.sourceKey) := by
  induction hits using List.reverseRecOn with
  | nil => rfl
  | append_singleton hits hit ih =>
    have hknown : hit.sourceKey ∈ Keyed.names (groupTable hits) ↔
        hit.sourceKey ∈ hits.map Hit.sourceKey := by
      rw [ih, Text.mem_distinct]
    rw [groupTable, List.foldl_append, List.map_append, List.map_singleton, Text.distinct_concat,
      ← ih]
    show Keyed.names (Keyed.put hit.sourceKey _ (groupTable hits)) = _
    rcases hget : Keyed.get? hit.sourceKey (groupTable hits) with _ | group
    · have hnew := Keyed.get?_eq_none_iff.mp hget
      rw [Keyed.names_put_of_get?_eq_none hget, if_neg (mt hknown.mpr hnew)]
    · have hold : hit.sourceKey ∈ Keyed.names (groupTable hits) := by
        rw [← Keyed.has_iff_mem_names, Keyed.has, hget]
        rfl
      rw [Keyed.names_put_of_get?_eq_some hget, if_pos (hknown.mp hold)]

/-- Under a source stand its hits. -/
theorem get?_groupTable (hits : List Hit) (key : String) :
    (Keyed.get? key (groupTable hits)).getD [] = ofSourceKey key hits := by
  induction hits using List.reverseRecOn generalizing key with
  | nil => rfl
  | append_singleton hits hit ih =>
    rw [groupTable, List.foldl_append]
    show (Keyed.get? key (Keyed.put hit.sourceKey _ (groupTable hits))).getD [] = _
    rw [Keyed.get?_put, ofSourceKey_concat, ← ih key]
    by_cases h : hit.sourceKey = key
    · rw [if_pos h, if_pos h, h]
      rfl
    · rw [if_neg h, if_neg h, List.append_nil]

/-- Groups are the hits of each source, and stand in the order of their first hits. -/
theorem grouped_eq (hits : List Hit) : grouped hits =
    (Text.distinct (hits.map Hit.sourceKey)).map fun key => ofSourceKey key hits := by
  have hnodup : (Keyed.names (groupTable hits)).Nodup := by
    rw [names_groupTable]
    exact Text.nodup_distinct _
  rw [← names_groupTable, Keyed.names, List.map_map]
  show (groupTable hits).map Prod.snd = _
  -- No source is repeated, so each entry is the one that is found under its source.
  refine List.map_congr_left fun entry hentry => ?_
  have hget : Keyed.get? entry.1 (groupTable hits) = some entry.2 :=
    Keyed.get?_eq_some_of_mem hnodup hentry
  show entry.2 = ofSourceKey entry.1 hits
  rw [← get?_groupTable, hget]
  rfl

theorem mem_of_mem_grouped {group : List Hit} {h : Hit} (hgroup : group ∈ grouped hits)
    (hmem : h ∈ group) : h ∈ hits := by
  rw [grouped_eq] at hgroup
  obtain ⟨key, -, rfl⟩ := List.mem_map.mp hgroup
  exact List.mem_of_mem_filter hmem

theorem exists_cons_of_mem_grouped {group : List Hit} (hgroup : group ∈ grouped hits) :
    ∃ first rest, group = first :: rest := by
  rw [grouped_eq] at hgroup
  obtain ⟨key, hkey, rfl⟩ := List.mem_map.mp hgroup
  obtain ⟨h, hmem, hsource⟩ := List.mem_map.mp (Text.mem_distinct.mp hkey)
  have hhit : h ∈ ofSourceKey key hits := List.mem_filter.mpr ⟨hmem, decide_eq_true hsource⟩
  exact List.exists_cons_of_ne_nil (List.ne_nil_of_mem hhit)

/-! ## What a group contributes -/

/-- What a group adds to the hits, and what the store was asked for it. -/
structure Contribution where
  asked : List Exchange
  part : List Hit

theorem mem_company_iff {hit n : Hit} {answer : Except Fault (List Hit)} :
    n ∈ company hit answer ↔ ∃ found, answer = .ok found ∧ n ∈ found ∧
      n.sourceType = hit.sourceType ∧ n.sourceId = hit.sourceId := by
  rcases answer with fault | found
  · simp [company]
  · simp [company, List.mem_filter]

/-- At most one hit with a number, and one if the answer to a lookup has any. -/
def Beside (hit : Hit) (answer : Except Fault (List Hit)) (number : Int) (part : List Hit) : Prop :=
  (part = [] ∧ ∀ n ∈ company hit answer, n.number ≠ some number) ∨
    ∃ n ∈ company hit answer, n.number = some number ∧ part = [n]

/-- Up to two hits other than the chunk that sums up the source. -/
def Accompanies (summary : Hit) (answer : Except Fault (List Hit)) (part : List Hit) : Prop :=
  part.Subperm ((company summary answer).filter fun n => n.number ≠ some 0) ∧
    part.length = min 2 ((company summary answer).filter fun n => n.number ≠ some 0).length

/-- What a group contributes, for any answer of the store. -/
inductive Contributes : List Hit → Contribution → Prop where
  /-- All its hits, when it is not from a conversation or its source is not known. -/
  | whole {first : Hit} {rest : List Hit}
      (hplain : first.isDialog = false ∨ first.sourceId = none) :
      Contributes (first :: rest) ⟨[], first :: rest⟩
  /-- Its first summary, and up to two others. -/
  | summary {first summary : Hit} {rest neighbors : List Hit} {answer : Except Fault (List Hit)}
      (hdialog : first.isDialog = true) (hsource : first.sourceId ≠ none)
      (hsummary : (first :: rest).find? (fun h => h.number = some 0) = some summary)
      (hneighbors : Accompanies summary answer neighbors) :
      Contributes (first :: rest)
        ⟨[.lookedAround summary.sourceType summary.sourceId 0 2 answer], summary :: neighbors⟩
  /-- Its first hit between the chunks before and after it. -/
  | around {first : Hit} {rest before after : List Hit} {number : Int}
      {answer : Except Fault (List Hit)} (hdialog : first.isDialog = true)
      (hsource : first.sourceId ≠ none) (hnone : ∀ h ∈ first :: rest, h.number ≠ some 0)
      (hnumber : first.number = some number) (hbefore : Beside first answer (number - 1) before)
      (hafter : Beside first answer (number + 1) after) :
      Contributes (first :: rest)
        ⟨[.lookedAround first.sourceType first.sourceId number 1 answer],
          before ++ [first] ++ after⟩
  /-- Its first hit alone, when that has no number. -/
  | alone {first : Hit} {rest : List Hit} (hdialog : first.isDialog = true)
      (hsource : first.sourceId ≠ none) (hnone : ∀ h ∈ first :: rest, h.number ≠ some 0)
      (hnumber : first.number = none) : Contributes (first :: rest) ⟨[], [first]⟩

theorem beside_lastNumbered (hit : Hit) (answer : Except Fault (List Hit)) (number : Int) :
    Beside hit answer number (lastNumbered number (company hit answer)) := by
  unfold lastNumbered
  cases hfind : (company hit answer).reverse.find? (fun n => n.number = some number) with
  | none =>
    refine .inl ⟨rfl, fun n hn => ?_⟩
    have hnot := List.find?_eq_none.mp hfind n (List.mem_reverse.mpr hn)
    exact fun heq => hnot (decide_eq_true heq)
  | some n =>
    have hmem := List.mem_reverse.mp (List.mem_of_find?_eq_some hfind)
    have hnumber := List.find?_some hfind
    exact .inr ⟨n, hmem, of_decide_eq_true hnumber, rfl⟩

theorem accompanies_summaryCompany (summary : Hit) (answer : Except Fault (List Hit)) :
    Accompanies summary answer (summaryCompany (company summary answer)) := by
  have hfilter : ((company summary answer).filter fun n => n.number != some 0) =
      (company summary answer).filter fun n => n.number ≠ some 0 := by
    refine List.filter_congr fun n _ => ?_
    rw [Bool.eq_iff_iff]
    simp
  unfold summaryCompany
  rw [hfilter]
  have hperm := List.mergeSort_perm ((company summary answer).filter fun n => n.number ≠ some 0)
    leadsBefore
  refine ⟨(List.take_sublist _ _).subperm.trans hperm.subperm, ?_⟩
  rw [List.length_take, hperm.length_eq]
  rfl

theorem journals_expandGroup (store : Store σ) (first : Hit) (rest : List Hit) :
    Journals (expandGroup store (first :: rest)) (expandGroup store.journaled (first :: rest))
      (fun part asked => Contributes (first :: rest) ⟨asked, part⟩) := by
  unfold expandGroup
  by_cases hplain : (!first.isDialog || first.sourceId.isNone) = true
  · simp only [hplain, if_true]
    refine Journals.pure _ (.whole ?_)
    rwa [Bool.or_eq_true, Bool.not_eq_true', Option.isNone_iff_eq_none] at hplain
  · simp only [hplain]
    rw [Bool.or_eq_true, Bool.not_eq_true', Option.isNone_iff_eq_none, not_or,
      Bool.not_eq_false] at hplain
    obtain ⟨hdialog, hsource⟩ := hplain
    cases hsummary : (first :: rest).find? (fun h => h.number = some 0) with
    | some summary =>
      refine (journals_lookAround_company store summary 0 summaryWindow).bind ?_
      rintro neighbors asked ⟨answer, rfl, rfl⟩
      exact Journals.pure _
        (.summary hdialog hsource hsummary (accompanies_summaryCompany summary answer))
    | none =>
      have hnone : ∀ h ∈ first :: rest, h.number ≠ some 0 := by
        intro h hmem heq
        exact List.find?_eq_none.mp hsummary h hmem (decide_eq_true heq)
      cases hnumber : first.number with
      | none => exact Journals.pure _ (.alone hdialog hsource hnone hnumber)
      | some number =>
        refine (journals_lookAround_company store first number 1).bind ?_
        rintro around asked ⟨answer, rfl, rfl⟩
        exact Journals.pure _ (.around hdialog hsource hnone hnumber
          (beside_lastNumbered first answer _) (beside_lastNumbered first answer _))

/-- Nothing comes in from elsewhere: a hit of a contribution is one of the group, or was found
around one of the group and has its source. -/
theorem Contributes.origin {group : List Hit} {c : Contribution} (h : Contributes group c) {n : Hit}
    (hn : n ∈ c.part) : n ∈ group ∨ ∃ hit ∈ group, ∃ number window answer,
      .lookedAround hit.sourceType hit.sourceId number window answer ∈ c.asked ∧
      n ∈ company hit answer := by
  cases h with
  | whole => exact .inl hn
  | @summary first summary rest neighbors answer _ _ hsummary hneighbors =>
    have hmem := List.mem_of_find?_eq_some hsummary
    rcases List.mem_cons.mp hn with rfl | hn
    · exact .inl hmem
    · have hfound := List.mem_of_mem_filter (hneighbors.1.subset hn)
      exact .inr ⟨summary, hmem, 0, 2, answer, List.mem_cons_self, hfound⟩
  | @around first rest before after number answer _ _ _ _ hbefore hafter =>
    have hbeside : ∀ {k part}, Beside first answer k part → n ∈ part →
        n ∈ company first answer := by
      rintro k part (⟨rfl, -⟩ | ⟨m, hm, -, rfl⟩) hpart
      · exact absurd hpart List.not_mem_nil
      · exact List.mem_singleton.mp hpart ▸ hm
    suffices hfound : n = first ∨ n ∈ company first answer by
      rcases hfound with rfl | hfound
      · exact .inl List.mem_cons_self
      · exact .inr ⟨first, List.mem_cons_self, number, 1, answer, List.mem_cons_self, hfound⟩
    rw [List.mem_append, List.mem_append, List.mem_singleton] at hn
    rcases hn with (hn | hn) | hn
    · exact .inr (hbeside hbefore hn)
    · exact .inl hn
    · exact .inr (hbeside hafter hn)
  | alone =>
    rw [List.mem_singleton] at hn
    exact .inl (hn ▸ List.mem_cons_self)

/-- A lookup that was not answered. -/
def Exchange.Failed : Exchange → Prop
  | .lookedAround _ _ _ _ (.error _) => True
  | _ => False

/-- The hit that a group from a conversation contributes in any case: its first summary, or else its
first hit. -/
def lead (first : Hit) (rest : List Hit) : Hit :=
  ((first :: rest).find? fun h => h.number = some 0).getD first

/-- A group from a conversation whose lookup fails contributes its lead all the same. -/
theorem Contributes.part_eq_of_failed {first : Hit} {rest : List Hit} {c : Contribution}
    (h : Contributes (first :: rest) c) (hfailed : ∀ e ∈ c.asked, e.Failed)
    (hdialog : first.isDialog = true) (hsource : first.sourceId ≠ none) :
    c.part = [lead first rest] := by
  have hlead : (∀ h ∈ first :: rest, h.number ≠ some 0) → lead first rest = first := by
    intro hnone
    have hfind : (first :: rest).find? (fun h => h.number = some 0) = none :=
      List.find?_eq_none.mpr fun h hmem => by simpa using hnone h hmem
    rw [lead, hfind]
    rfl
  cases h with
  | whole hplain =>
    rcases hplain with hplain | hplain
    · rw [hdialog] at hplain
      cases hplain
    · exact absurd hplain hsource
  | @summary first summary rest neighbors answer _ _ hsummary hneighbors =>
    rcases answer with fault | found
    · -- There is nothing to choose from when the lookup fails.
      have hnothing : neighbors = [] := List.length_eq_zero_iff.mp hneighbors.2
      rw [lead, hsummary, hnothing]
      rfl
    · exact absurd (hfailed _ List.mem_cons_self) id
  | @around first rest before after number answer _ _ hnone _ hbefore hafter =>
    rcases answer with fault | found
    · have hnothing : ∀ {k part}, Beside first (.error fault) k part → part = [] := by
        rintro k part (⟨rfl, -⟩ | ⟨m, hm, -, -⟩)
        · rfl
        · exact absurd hm List.not_mem_nil
      rw [hlead hnone, hnothing hbefore, hnothing hafter]
      rfl
    · exact absurd (hfailed _ List.mem_cons_self) id
  | alone _ _ hnone _ => rw [hlead hnone]

/-- A group from a conversation contributes its lead and nothing else. -/
def KeepsLead (group : List Hit) (c : Contribution) : Prop :=
  ∀ first rest, group = first :: rest → first.isDialog = true → first.sourceId ≠ none →
    c.part = [lead first rest]

theorem keepLeads_of_failed {groups : List (List Hit)} {cs : List Contribution}
    (hcs : List.Forall₂ Contributes groups cs)
    (hfailed : ∀ e ∈ (cs.map Contribution.asked).flatten, e.Failed) :
    List.Forall₂ KeepsLead groups cs := by
  induction hcs with
  | nil => exact .nil
  | cons hc _ ih =>
    rw [List.map_cons, List.flatten_cons] at hfailed
    refine .cons ?_ (ih fun e he => hfailed e (List.mem_append_right _ he))
    rintro first rest rfl hdialog hsource
    exact hc.part_eq_of_failed (fun e he => hfailed e (List.mem_append_left _ he)) hdialog hsource

theorem exists_group_of_mem {groups : List (List Hit)} {cs : List Contribution}
    (hcs : List.Forall₂ Contributes groups cs) {c : Contribution} (hc : c ∈ cs) :
    ∃ group ∈ groups, Contributes group c := by
  induction hcs with
  | nil => cases hc
  | cons hhead _ ih =>
    rcases List.mem_cons.mp hc with rfl | hc
    · exact ⟨_, List.mem_cons_self, hhead⟩
    · obtain ⟨group, hgroup, hcontributes⟩ := ih hc
      exact ⟨group, List.mem_cons_of_mem _ hgroup, hcontributes⟩

/-! ## De-duplication -/

theorem mem_of_mem_distinctHits {h : Hit} (hmem : h ∈ distinctHits hits) : h ∈ hits := by
  induction hits using List.reverseRecOn with
  | nil => exact hmem
  | append_singleton hits hit ih =>
    rw [distinctHits, List.foldl_append] at hmem
    change h ∈ if (distinctHits hits).any (fun h => h.id = hit.id) then distinctHits hits
      else distinctHits hits ++ [hit] at hmem
    split at hmem
    · exact List.mem_append_left _ (ih hmem)
    · rcases List.mem_append.mp hmem with hold | hlast
      · exact List.mem_append_left _ (ih hold)
      · exact List.mem_append_right _ hlast

theorem nodup_ids_distinctHits (hits : List Hit) : ((distinctHits hits).map Hit.id).Nodup := by
  induction hits using List.reverseRecOn with
  | nil => exact List.nodup_nil
  | append_singleton hits hit ih =>
    rw [distinctHits, List.foldl_append]
    show ((if (distinctHits hits).any (fun h => h.id = hit.id) then distinctHits hits
      else distinctHits hits ++ [hit]).map Hit.id).Nodup
    split
    · exact ih
    · rename_i hnew
      rw [List.map_append, List.map_singleton, ← List.concat_eq_append]
      exact ih.concat (by simpa using hnew)

/-! ## Expansion -/

theorem journals_expandGroups (store : Store σ) {groups : List (List Hit)}
    (hgroups : ∀ group ∈ groups, ∃ first rest, group = first :: rest) :
    Journals (groups.mapM (expandGroup store)) (groups.mapM (expandGroup store.journaled))
      (fun parts more => ∃ cs, List.Forall₂ Contributes groups cs ∧
        more = (cs.map Contribution.asked).flatten ∧ parts = cs.map Contribution.part) := by
  induction groups with
  | nil =>
    rw [List.mapM_nil, List.mapM_nil]
    exact Journals.pure _ ⟨[], .nil, rfl, rfl⟩
  | cons group groups ih =>
    obtain ⟨first, rest, rfl⟩ := hgroups group List.mem_cons_self
    have hothers := ih fun group hgroup => hgroups group (List.mem_cons_of_mem _ hgroup)
    rw [List.mapM_cons, List.mapM_cons]
    refine (journals_expandGroup store first rest).bind fun part asked hpart => ?_
    refine hothers.bind ?_
    rintro parts more ⟨cs, hcs, rfl, rfl⟩
    refine Journals.pure _ ⟨⟨asked, part⟩ :: cs, .cons hpart hcs, ?_, rfl⟩
    rw [List.append_nil]
    rfl

/-- What comes of some hits when they are read together with what stands around them. -/
structure Expansion (hits : List Hit) (limit : Nat) (journal : List Exchange)
    (result : List Hit) : Prop where
  bounded : result.length ≤ limit
  distinct : (result.map Hit.id).Nodup
  /-- Every hit was there, or a lookup around one that was there found it in the same source. -/
  origin : ∀ h ∈ result, h ∈ hits ∨ ∃ hit ∈ hits, ∃ number window found,
    .lookedAround hit.sourceType hit.sourceId number window (.ok found) ∈ journal ∧ h ∈ found ∧
      h.sourceType = hit.sourceType ∧ h.sourceId = hit.sourceId
  /-- The groups stand in the order of their first hits and contribute one after another. -/
  contributions : ∃ cs, List.Forall₂ Contributes
      ((Text.distinct (hits.map Hit.sourceKey)).map fun key => ofSourceKey key hits) cs ∧
    journal = (cs.map Contribution.asked).flatten ∧
    result = (distinctHits (cs.map Contribution.part).flatten).take limit ∧
    ((∀ e ∈ journal, e.Failed) → List.Forall₂ KeepsLead
      ((Text.distinct (hits.map Hit.sourceKey)).map fun key => ofSourceKey key hits) cs)

theorem expansion_of_contributions {cs : List Contribution} {limit : Nat}
    (hcs : List.Forall₂ Contributes (grouped hits) cs) :
    Expansion hits limit (cs.map Contribution.asked).flatten
      ((distinctHits (cs.map Contribution.part).flatten).take limit) := by
  refine ⟨List.length_take_le _ _, ?_, fun h hmem => ?_, cs, ?_, rfl, rfl, fun hfailed => ?_⟩
  · exact (nodup_ids_distinctHits _).sublist ((List.take_sublist _ _).map Hit.id)
  · have hall := mem_of_mem_distinctHits (List.mem_of_mem_take hmem)
    obtain ⟨part, hpart, hmem⟩ := List.mem_flatten.mp hall
    obtain ⟨c, hc, rfl⟩ := List.mem_map.mp hpart
    obtain ⟨group, hgroup, hcontributes⟩ := exists_group_of_mem hcs hc
    rcases hcontributes.origin hmem with hold | ⟨hit, hhit, number, window, answer, hasked, hfound⟩
    · exact .inl (mem_of_mem_grouped hgroup hold)
    · obtain ⟨found, rfl, hmem, htype, hid⟩ := mem_company_iff.mp hfound
      have hjournal := List.mem_flatten.mpr ⟨c.asked, List.mem_map_of_mem hc, hasked⟩
      exact .inr ⟨hit, mem_of_mem_grouped hgroup hhit, number, window, found, hjournal, hmem, htype,
        hid⟩
  · rw [← grouped_eq]
    exact hcs
  · rw [← grouped_eq]
    exact keepLeads_of_failed hcs hfailed

/-- **Reading around hits.** Whatever the store answers, the hits in the end are no more than the
limit and have different identifiers, and each was there or stands in the source of one that was.
The groups contribute in the order of their first hits, and where every lookup fails each
conversation still has its lead. -/
theorem expand_stays_with_sources (store : Store σ) (limit : Nat) (hits : List Hit) (w : World σ) :
    ∃ result after journal, (expand store limit hits).run w = (result, after) ∧
      (expand store.journaled limit hits).run (w.keeping []) = (result, after.keeping journal) ∧
      Expansion hits limit journal result := by
  have hgroups := journals_expandGroups store fun group (hgroup : group ∈ grouped hits) =>
    exists_cons_of_mem_grouped hgroup
  have hexpand : Journals (expand store limit hits) (expand store.journaled limit hits)
      (fun result journal => Expansion hits limit journal result) := by
    unfold expand
    refine hgroups.bind ?_
    rintro parts more ⟨cs, hcs, rfl, rfl⟩
    refine Journals.pure _ ?_
    rw [Text.upTo_natCast, List.append_nil]
    exact expansion_of_contributions hcs
  obtain ⟨journal, hexpansion, htwin⟩ := hexpand w []
  exact ⟨_, _, journal, rfl, htwin, hexpansion⟩

end Helpdesk.Knowledge
