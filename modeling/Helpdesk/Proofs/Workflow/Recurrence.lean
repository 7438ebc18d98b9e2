import Helpdesk.Proofs.Workflow.Cycles
import Helpdesk.Proofs.Workflow.Endings
import Helpdesk.Proofs.Workflow.Itinerary
import Mathlib.Data.List.Perm.Subperm

/-!
# Helpdesk.Proofs.Workflow.Recurrence — steps come back only along a cycle.

The arrows that are searched for cycles when a definition is compiled are its edges between compiled
steps, no more and no fewer. A run goes along these edges, so in a run that comes back to a step they
lead from that step to itself. Without cycles a run therefore makes each step once, and a run with a
limit above the number of steps is at its end before the limit is.
-/
namespace Helpdesk.Workflow

open Conversation

variable {σ : Type}

/-- An edge of the definition leads from one compiled step to another. -/
def Definition.Links (d : Definition) (w : Compiled) (a b : String) : Prop :=
  (∃ e ∈ d.edges, e.source = a ∧ e.target = b) ∧ a ∈ w.stepIds ∧ b ∈ w.stepIds

/-- Edges lead from a compiled step back to it; an edge from a step to itself is enough. -/
def Definition.Recurs (d : Definition) (w : Compiled) (id : String) : Prop :=
  Relation.TransGen (d.Links w) id id

namespace CompiledFrom

variable {d : Definition} {start : String} {w : Compiled}

/-! ## The search at compile time -/

theorem stepIds_eq (h : CompiledFrom d start w) :
    w.stepIds = (d.reachedActions start).map Prod.fst := by
  rw [Compiled.stepIds, h.steps, Definition.steps, List.map_map]
  rfl

/-- The arrows of a definition are its edges between compiled steps. -/
theorem mem_arrows (h : CompiledFrom d start w) {a b : String} :
    (a, b) ∈ d.arrows start ↔ d.Links w a b := by
  simp only [Definition.arrows, ← h.stepIds_eq, List.mem_map, List.mem_filter, Bool.and_eq_true,
    List.contains_eq_mem, decide_eq_true_eq, Bool.not_eq_true', decide_eq_false_iff_not]
  constructor
  · rintro ⟨e, ⟨hwired, hsource, htarget⟩, hends⟩
    cases hends
    refine ⟨⟨e, (Definition.mem_wiredEdges.mp hwired).1, rfl, rfl⟩, hsource, ?_⟩
    -- A wired edge leads to a step or to an end, and ends have been sorted out.
    have hlands := h.lands_targetOf hwired
    rw [Definition.targetOf, List.contains_eq_mem, decide_eq_false htarget] at hlands
    rcases hlands with hfinish | ⟨id, hid, hnode⟩
    · cases hfinish
    · cases hnode
      exact hid
  · rintro ⟨⟨e, hedge, rfl, rfl⟩, hsource, htarget⟩
    obtain ⟨n, hn, -, hpath, hsourceId⟩ := h.mem_stepIds.mp hsource
    obtain ⟨m, hm, -, -, htargetId⟩ := h.mem_stepIds.mp htarget
    have hstart : e.target ≠ start := by
      rintro rfl
      refine h.notMem_starts htarget ?_
      rw [h.acceptable.starts]
      exact List.mem_singleton_self _
    have husable : d.Usable start e := by
      refine ⟨?_, ?_, hstart⟩
      · exact hsourceId ▸ List.mem_map_of_mem hn
      · exact htargetId ▸ List.mem_map_of_mem hm
    have hwired : e ∈ d.wiredEdges start :=
      Definition.mem_wiredEdges.mpr ⟨hedge, husable, hsourceId ▸ hpath⟩
    exact ⟨e, ⟨hwired, hsource, h.notMem_finishes htarget⟩, rfl⟩

theorem hasCycle_eq (h : CompiledFrom d start w) {limit : Int} (hw : (d.compile limit).2 = .ok w) :
    w.hasCycle = Workflow.hasCycle (d.arrows start) w.stepIds := by
  obtain ⟨first, entry, hfirst, -, rfl⟩ := Definition.compile_eq_ok_iff.mp hw
  have hstart : d.start? = .ok start :=
    (Definition.start?_eq_ok_iff h.acceptable.sound).mpr ⟨h.acceptable.starts, h.acceptable.finishes⟩
  rw [hstart] at hfirst
  cases hfirst
  rfl

theorem hasCycle_iff (h : CompiledFrom d start w) {limit : Int} (hw : (d.compile limit).2 = .ok w) :
    w.hasCycle = true ↔ ∃ id, d.Recurs w id := by
  have hlinks : (fun a b => (a, b) ∈ d.arrows start) = d.Links w := by
    funext a b
    exact propext h.mem_arrows
  rw [h.hasCycle_eq hw, Workflow.hasCycle_iff]
  unfold Reaches Precedes Definition.Recurs
  rw [hlinks]
  constructor
  · rintro ⟨s, -, id, -, hcycle⟩
    exact ⟨id, hcycle⟩
  · -- Every step of a cycle is a compiled step, and these are where the search begins.
    rintro ⟨id, hcycle⟩
    obtain ⟨next, hlink, -⟩ := Relation.TransGen.head'_iff.mp hcycle
    exact ⟨id, hlink.2.1, id, .refl, hcycle⟩

/-! ## Runs without cycles -/

theorem linked_visits (h : CompiledFrom d start w) (sv : Services σ) (office : Office σ) (s : State) :
    ((w.run sv office s).visits.map Visit.id).IsChain (d.Links w) := by
  have ht := h.travelled_run sv office s
  rw [List.isChain_map]
  refine ht.joined.imp_of_mem_imp ?_
  intro a b ha hb hjoins
  obtain ⟨e, hedge, hsource, htarget, -⟩ := hjoins
  exact ⟨⟨e, hedge, hsource, htarget⟩, ht.known a ha, ht.known b hb⟩

/-- A run of a workflow without cycles makes no step twice. -/
theorem nodup_visits (h : CompiledFrom d start w) (hcycle : ∀ id, ¬ d.Recurs w id)
    (sv : Services σ) (office : Office σ) (s : State) :
    ((w.run sv office s).visits.map Visit.id).Nodup := by
  have hchain : ((w.run sv office s).visits.map Visit.id).IsChain (Relation.TransGen (d.Links w)) :=
    (h.linked_visits sv office s).imp fun _ _ hlink => .single hlink
  refine (List.isChain_iff_pairwise.mp hchain).imp ?_
  rintro a _ hpath rfl
  exact hcycle a hpath

theorem length_visits_le (h : CompiledFrom d start w) (hcycle : ∀ id, ¬ d.Recurs w id)
    (sv : Services σ) (office : Office σ) (s : State) :
    (w.run sv office s).visits.length ≤ w.stepIds.length := by
  have hknown : (w.run sv office s).visits.map Visit.id ⊆ w.stepIds := by
    intro id hid
    obtain ⟨v, hv, rfl⟩ := List.mem_map.mp hid
    exact (h.travelled_run sv office s).known v hv
  have hlength := (List.subperm_of_subset (h.nodup_visits hcycle sv office s) hknown).length_le
  rwa [List.length_map] at hlength

end CompiledFrom

/-- What stops a run: a fault of a step, a limit that allows no step, or as many visits as the limit
allows. -/
theorem Compiled.stops_run (w : Compiled) (sv : Services σ) (office : Office σ) (s : State)
    {fault : Fault} (hnext : (w.run sv office s).next = .error fault) :
    StepFault fault ∨ fault = .noSteps ∨
      fault = .stepLimit w.stepLimit ∧ w.stepLimit ≤ (w.run sv office s).visits.length := by
  rcases w.run_cases sv office s with ⟨_, _, hnone⟩ | ⟨_, settled, hrun⟩
  · rw [hnone] at hnext
    cases hnext
    exact Or.inr (Or.inl rfl)
  · have horderly :=
      (Run.advanceAll_spec sv w w.stepLimit.toNat (Run.orderly_start w settled s)).1
    rw [hrun] at hnext ⊢
    rw [Run.visits_stop]
    rcases Run.fault_of_stop horderly hnext with hfault | hlimit
    · exact Or.inl hfault
    · exact Or.inr (Or.inr hlimit)

/-- **Steps come back only along a cycle.** A compiled workflow knows whether the edges between its
steps have a cycle. When they have none, no run makes a step twice, and no run with a limit above the
number of steps is stopped for taking too many, whatever the conditions, models, stores and books
say. -/
theorem steps_recur_along_cycles {d : Definition} {limit : Int} {w : Compiled}
    (h : (d.compile limit).2 = .ok w) :
    (w.hasCycle = true ↔ ∃ id, d.Recurs w id) ∧
      (w.hasCycle = false → ∀ (σ : Type) (sv : Services σ) (office : Office σ) (s : State),
        ((w.run sv office s).visits.map Visit.id).Nodup ∧
          (w.stepIds.length < w.stepLimit →
            ∀ n, ((w.invoke sv s).run.run office).1 ≠ .error (.stepLimit n))) := by
  obtain ⟨start, hfrom⟩ := compiledFrom_of_compile h
  refine ⟨hfrom.hasCycle_iff h, ?_⟩
  intro hnone σ sv office s
  have hcycle : ∀ id, ¬ d.Recurs w id := by
    intro id hid
    rw [(hfrom.hasCycle_iff h).mpr ⟨id, hid⟩] at hnone
    cases hnone
  refine ⟨hfrom.nodup_visits hcycle sv office s, ?_⟩
  intro hlimit n hinvoke
  have hvisits := hfrom.length_visits_le hcycle sv office s
  have hresult : (w.run sv office s).result = .error (.stepLimit n) := hinvoke
  rcases hnext : (w.run sv office s).next with fault | target
  · rw [Run.result, hnext] at hresult
    cases hresult
    rcases w.stops_run sv office s hnext with hstep | hnone | ⟨-, htaken⟩
    · cases hstep
    · cases hnone
    · omega
  · rw [Run.result, hnext] at hresult
    cases hresult

/-- A definition that looks for knowledge and then replies. -/
def straightDefinition : Definition :=
  let edge := fun (source target : String) =>
    (⟨source ++ target, source, target, none, none, none⟩ : Edge)
  { id := "straight", name := "",
    nodes := [
      ⟨"start", none, .start⟩, ⟨"look", none, .action (.rag .default)⟩,
      ⟨"chat", none, .action (.smartChat .default)⟩, ⟨"end", none, .finish⟩],
    edges := [edge "chat" "end", edge "look" "chat", edge "start" "look"] }

theorem links_straightDefinition {w : Compiled} {a b : String}
    (hids : w.stepIds = ["look", "chat"]) (h : straightDefinition.Links w a b) :
    a = "look" ∧ b = "chat" := by
  obtain ⟨⟨e, hedge, rfl, rfl⟩, hsource, htarget⟩ := h
  rw [hids] at hsource htarget
  simp only [straightDefinition, List.mem_cons, List.not_mem_nil, or_false] at hedge
  rcases hedge with rfl | rfl | rfl
  · exact absurd htarget (by decide)
  · exact ⟨rfl, rfl⟩
  · exact absurd hsource (by decide)

theorem steps_recur_along_cycles_looping_straight :
    (∃ w, (loopingDefinition.compile 25).2 = .ok w ∧ w.hasCycle = true) ∧
      ∃ w, (straightDefinition.compile 3).2 = .ok w ∧ w.hasCycle = false ∧
        ∀ (σ : Type) (sv : Services σ) (office : Office σ) (s : State) (n : Int),
          ((w.invoke sv s).run.run office).1 ≠ .error (.stepLimit n) := by
  refine ⟨?_, ?_⟩
  · obtain ⟨w, hw⟩ := acceptable_loopingDefinition.compiles 25
    obtain ⟨start, hfrom⟩ := compiledFrom_of_compile hw
    have hids : w.stepIds = ["look", "chat"] := by
      rw [hfrom.stepIds_eq]
      cases (hfrom.acceptable.starts : ["start"] = [start])
      decide +kernel
    refine ⟨w, hw, (steps_recur_along_cycles hw).1.mpr ⟨"look", ?_⟩⟩
    have hlook : "look" ∈ w.stepIds := hids ▸ by decide
    have hchat : "chat" ∈ w.stepIds := hids ▸ by decide
    have hforth : loopingDefinition.Links w "look" "chat" :=
      ⟨⟨_, List.mem_cons_of_mem _ List.mem_cons_self, rfl, rfl⟩, hlook, hchat⟩
    have hback : loopingDefinition.Links w "chat" "look" :=
      ⟨⟨⟨"chatlook", "chat", "look", some "response === ''", none, none⟩, by decide, rfl, rfl⟩,
        hchat, hlook⟩
    exact (Relation.TransGen.single hforth).tail hback
  · obtain ⟨w, hw, hids, hlimit⟩ : ∃ w, (straightDefinition.compile 3).2 = .ok w ∧
        w.stepIds = ["look", "chat"] ∧ w.stepLimit = 3 :=
      ⟨_, Definition.compile_eq_ok_iff.mpr ⟨"start", _, rfl, rfl, rfl⟩, rfl, rfl⟩
    have hnone : w.hasCycle = false := by
      rw [Bool.eq_false_iff]
      intro htrue
      obtain ⟨id, hcycle⟩ := (steps_recur_along_cycles hw).1.mp htrue
      -- Every path goes from the first step to the second one.
      have hpath : ∀ {a b}, Relation.TransGen (straightDefinition.Links w) a b →
          a = "look" ∧ b = "chat" := by
        intro a b hab
        induction hab with
        | single hlink => exact links_straightDefinition hids hlink
        | tail _ hlink ih => exact ⟨ih.1, (links_straightDefinition hids hlink).2⟩
      obtain ⟨hlook, hchat⟩ := hpath hcycle
      exact absurd (hlook.symm.trans hchat) (by decide)
    refine ⟨w, hw, hnone, ?_⟩
    intro σ sv office s
    refine ((steps_recur_along_cycles hw).2 hnone σ sv office s).2 ?_
    rw [hids, hlimit]
    decide

end Helpdesk.Workflow
