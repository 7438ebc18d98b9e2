import Helpdesk.Proofs.Workflow.Itinerary

/-!
# Helpdesk.Proofs.Workflow.Partition — every declared node is a step, left out, the start or an end.

A node is *connected* when a path of edges between declared nodes leads to it from the start. Edges
back to the start are dropped when a workflow is compiled, and edges out of an end are not: no path
needs the former, and the latter count for what is connected although no run takes them. So a node
behind an end is compiled as a step that is never visited; what runs visit is connected by a path
that goes on from no end.
-/
namespace Helpdesk.Workflow

open Conversation

namespace Definition

/-- An edge from one declared node to another. -/
def Linked (d : Definition) (a b : String) : Prop :=
  ∃ e ∈ d.edges, e.source ∈ d.nodes.map Node.id ∧ e.target ∈ d.nodes.map Node.id ∧
    e.source = a ∧ e.target = b

/-- A path along edges between declared nodes. -/
def Connected (d : Definition) : String → String → Prop :=
  Relation.ReflTransGen d.Linked

/-- Such a path that goes on from no end. -/
def ConnectedPastNoEnd (d : Definition) : String → String → Prop :=
  Relation.ReflTransGen fun a b => d.Linked a b ∧ a ∉ d.finishes

/-- A path back to the start has led nowhere, so paths from there can do without such edges. -/
theorem leads_iff_connected {d : Definition} {start id : String} :
    d.Leads start start id ↔ d.Connected start id := by
  constructor
  · refine Relation.ReflTransGen.mono ?_ start id
    rintro a b ⟨e, he, ⟨hsource, htarget, _⟩, rfl, rfl⟩
    exact ⟨e, he, hsource, htarget, rfl, rfl⟩
  · intro hpath
    induction hpath with
    | refl => exact .refl
    | tail _ hlinked ih =>
      obtain ⟨e, he, hsource, htarget, rfl, rfl⟩ := hlinked
      by_cases hback : e.target = start
      · rw [hback]
        exact .refl
      · exact ih.tail ⟨e, he, ⟨hsource, htarget, hback⟩, rfl, rfl⟩

/-- The ends that can be reached. -/
def reachedEnds (d : Definition) (start : String) : List String :=
  d.finishes.filter (d.reached start).contains

theorem mem_reachedEnds {d : Definition} {start id : String} :
    id ∈ d.reachedEnds start ↔ id ∈ d.finishes ∧ d.Connected start id := by
  rw [reachedEnds, List.mem_filter, List.contains_iff_mem, mem_reached_iff, leads_iff_connected]

theorem sublist_ids_finishes (d : Definition) : d.finishes.Sublist (d.nodes.map Node.id) :=
  List.filter_sublist.map Node.id

theorem sublist_ids_stepIds (d : Definition) (start : String) :
    ((d.steps start).map Step.id).Sublist (d.nodes.map Node.id) := by
  have hids : (d.steps start).map Step.id = (d.reachedActions start).map Prod.fst := by
    simp [steps]
  rw [hids, reachedActions]
  induction d.nodes with
  | nil => exact .slnil
  | cons n rest ih =>
    -- A step has the identifier of its node, and other nodes are passed over.
    rw [List.filterMap_cons, List.map_cons]
    split
    · exact ih.cons _
    · rename_i step hstep
      have hid : step.1 = n.id := by
        split at hstep
        · split at hstep <;> cases hstep
          rfl
        · cases hstep
      rw [List.map_cons, hid]
      exact ih.cons_cons _

end Definition

namespace CompiledFrom

variable {d : Definition} {start : String} {w : Compiled}

/-! ## Steps and nodes that are left out -/

theorem mem_stepIds_iff_connected (h : CompiledFrom d start w) {id : String} :
    id ∈ w.stepIds ↔
      ∃ n ∈ d.nodes, (∃ a, n.role = .action a) ∧ n.id = id ∧ d.Connected start id := by
  rw [h.mem_stepIds]
  constructor
  · rintro ⟨n, hn, hrole, hpath, rfl⟩
    exact ⟨n, hn, hrole, rfl, Definition.leads_iff_connected.mp hpath⟩
  · rintro ⟨n, hn, hrole, rfl, hpath⟩
    exact ⟨n, hn, hrole, Definition.leads_iff_connected.mpr hpath, rfl⟩

theorem id_eq_start_iff (h : CompiledFrom d start w) {n : Node} (hn : n ∈ d.nodes) :
    n.id = start ↔ n.role = .start := by
  have hmem : n.id ∈ d.starts ↔ n.role = .start := by
    simp only [Definition.starts, List.mem_map, List.mem_filter, beq_iff_eq]
    constructor
    · rintro ⟨m, ⟨hm, hrole⟩, hid⟩
      exact h.node_eq hm hn hid ▸ hrole
    · intro hrole
      exact ⟨n, ⟨hn, hrole⟩, rfl⟩
  rw [← hmem, h.acceptable.starts, List.mem_singleton]

theorem mem_finishes_iff (h : CompiledFrom d start w) {n : Node} (hn : n ∈ d.nodes) :
    n.id ∈ d.finishes ↔ n.role = .finish := by
  rw [Definition.mem_finishes]
  constructor
  · rintro ⟨m, hm, hrole, hid⟩
    exact h.node_eq hm hn hid ▸ hrole
  · intro hrole
    exact ⟨n, hn, hrole, rfl⟩

/-- What is left out is what is not connected; the start is connected to itself. -/
theorem mem_excluded_iff (h : CompiledFrom d start w) {id : String} :
    id ∈ w.excluded ↔
      ∃ n ∈ d.nodes, n.role ≠ .start ∧ n.id = id ∧ ¬ d.Connected start id := by
  rw [h.excluded]
  simp only [Definition.unreached, List.mem_map, List.mem_filter, Bool.not_eq_true',
    List.contains_eq_mem, decide_eq_false_iff_not, Definition.mem_reached_iff,
    Definition.leads_iff_connected]
  constructor
  · rintro ⟨n, ⟨hn, hpath⟩, rfl⟩
    refine ⟨n, hn, ?_, rfl, hpath⟩
    intro hrole
    rw [(h.id_eq_start_iff hn).mpr hrole] at hpath
    exact hpath .refl
  · rintro ⟨n, hn, _, rfl, hpath⟩
    exact ⟨n, ⟨hn, hpath⟩, rfl⟩

/-! ## The parts together -/

/-- The four kinds that a declared node can be of. -/
theorem mem_parts_iff (h : CompiledFrom d start w) {id : String} :
    id ∈ w.stepIds ++ (w.excluded ++ start :: d.reachedEnds start) ↔ id ∈ d.nodes.map Node.id := by
  simp only [List.mem_append, List.mem_cons, h.mem_stepIds_iff_connected, h.mem_excluded_iff,
    Definition.mem_reachedEnds, List.mem_map]
  constructor
  · rintro (⟨n, hn, _, rfl, _⟩ | ⟨n, hn, _, rfl, _⟩ | rfl | ⟨hfinish, _⟩)
    · exact ⟨n, hn, rfl⟩
    · exact ⟨n, hn, rfl⟩
    · have hstart : id ∈ d.starts := by
        rw [h.acceptable.starts]
        exact List.mem_singleton_self id
      obtain ⟨n, hn, rfl⟩ := List.mem_map.mp hstart
      exact ⟨n, List.mem_of_mem_filter hn, rfl⟩
    · exact List.mem_map.mp (d.sublist_ids_finishes.subset hfinish)
  · rintro ⟨n, hn, rfl⟩
    by_cases hpath : d.Connected start n.id
    · rcases hrole : n.role with _ | _ | a
      · exact Or.inr (Or.inr (Or.inl ((h.id_eq_start_iff hn).mpr hrole)))
      · exact Or.inr (Or.inr (Or.inr ⟨(h.mem_finishes_iff hn).mpr hrole, hpath⟩))
      · exact Or.inl ⟨n, hn, ⟨a, hrole⟩, rfl, hpath⟩
    · refine Or.inr (Or.inl ⟨n, hn, ?_, rfl, hpath⟩)
      intro hrole
      rw [(h.id_eq_start_iff hn).mpr hrole] at hpath
      exact hpath .refl

theorem nodup_parts (h : CompiledFrom d start w) :
    (w.stepIds ++ (w.excluded ++ start :: d.reachedEnds start)).Nodup := by
  have hids := h.acceptable.sound.distinct
  have hsteps : w.stepIds.Nodup := by
    rw [Compiled.stepIds, h.steps]
    exact hids.sublist (d.sublist_ids_stepIds start)
  have hexcluded : w.excluded.Nodup := by
    rw [h.excluded]
    exact hids.sublist (List.filter_sublist.map Node.id)
  have hends : (d.reachedEnds start).Nodup :=
    hids.sublist (List.filter_sublist.trans d.sublist_ids_finishes)
  have hstart : start ∉ d.reachedEnds start := by
    intro hmem
    obtain ⟨n, hn, hrole, hid⟩ := Definition.mem_finishes.mp (Definition.mem_reachedEnds.mp hmem).1
    rw [(h.id_eq_start_iff hn).mp hid] at hrole
    cases hrole
  -- What is left out is not connected, and the start and the other ends are.
  have hleft : List.Disjoint w.excluded (start :: d.reachedEnds start) := by
    intro id hid hmem
    obtain ⟨_, _, _, _, hpath⟩ := h.mem_excluded_iff.mp hid
    rcases List.mem_cons.mp hmem with rfl | hend
    · exact hpath .refl
    · exact hpath (Definition.mem_reachedEnds.mp hend).2
  have hapart : List.Disjoint w.stepIds (w.excluded ++ start :: d.reachedEnds start) := by
    intro id hid hmem
    rcases List.mem_append.mp hmem with hout | hmem
    · exact h.notMem_excluded hid hout
    · rcases List.mem_cons.mp hmem with rfl | hend
      · refine h.notMem_starts hid ?_
        rw [h.acceptable.starts]
        exact List.mem_singleton_self id
      · exact h.notMem_finishes hid (Definition.mem_reachedEnds.mp hend).1
  exact hsteps.append (hexcluded.append (List.nodup_cons.mpr ⟨hstart, hends⟩) hleft) hapart

/-! ## What runs visit -/

variable {σ : Type}

theorem connectedPastNoEnd_first (h : CompiledFrom d start w) {id : String}
    (hentry : w.entry = .node id) : d.ConnectedPastNoEnd start id := by
  obtain ⟨e, hexit, htarget⟩ := h.entry
  have hmem : e ∈ d.exits start := by
    rw [hexit]
    exact List.mem_singleton_self e
  obtain ⟨he, hleaves⟩ := List.mem_filter.mp hmem
  obtain ⟨⟨hsource, hdeclared, _⟩, hstart⟩ := of_decide_eq_true hleaves
  have hid : id = e.target := by
    rw [hentry, Definition.targetOf] at htarget
    split at htarget
    · cases htarget
    · exact Target.node.inj htarget
  refine .single ⟨⟨e, he, hsource, hdeclared, hstart, hid.symm⟩, ?_⟩
  intro hfinish
  obtain ⟨n, hn, hrole, hname⟩ := Definition.mem_finishes.mp hfinish
  rw [(h.id_eq_start_iff hn).mp hname] at hrole
  cases hrole

/-- The edge that a run takes joins declared nodes, and it does not leave an end. -/
theorem linked_of_joins (h : CompiledFrom d start w) {a b : Visit} (ha : a.id ∈ w.stepIds)
    (hb : b.id ∈ w.stepIds) (hjoins : d.Joins a b.id) : d.Linked a.id b.id := by
  obtain ⟨e, he, hsource, htarget, _⟩ := hjoins
  obtain ⟨n, hn, _, hnid, _⟩ := h.mem_stepIds_iff_connected.mp ha
  obtain ⟨m, hm, _, hmid, _⟩ := h.mem_stepIds_iff_connected.mp hb
  refine ⟨e, he, ?_, ?_, hsource, htarget⟩
  · rw [hsource, ← hnid]
    exact List.mem_map_of_mem hn
  · rw [htarget, ← hmid]
    exact List.mem_map_of_mem hm

/-- Visits that follow one another along edges are connected when the first one is. -/
theorem connectedPastNoEnd_of_chain (h : CompiledFrom d start w) {visits : List Visit}
    (hknown : ∀ v ∈ visits, v.id ∈ w.stepIds)
    (hjoined : visits.IsChain fun a b => d.Joins a b.id)
    (hfirst : ∀ v, visits.head? = some v → d.ConnectedPastNoEnd start v.id) :
    ∀ v ∈ visits, d.ConnectedPastNoEnd start v.id := by
  induction visits with
  | nil => exact fun v hv => absurd hv List.not_mem_nil
  | cons a rest ih =>
    have ha := hfirst a rfl
    have hrest : ∀ v ∈ rest, v.id ∈ w.stepIds := fun v hv => hknown v (List.mem_cons_of_mem a hv)
    intro v hv
    rcases List.mem_cons.mp hv with rfl | hv
    · exact ha
    · refine ih hrest hjoined.tail ?_ v hv
      intro b hb
      have hstep : a.id ∈ w.stepIds := hknown a List.mem_cons_self
      have hlinked := h.linked_of_joins hstep (hrest b (List.mem_of_mem_head? hb))
        (hjoined.rel_head? hb)
      exact ha.tail ⟨hlinked, h.notMem_finishes hstep⟩

theorem connectedPastNoEnd_of_visited (h : CompiledFrom d start w) (sv : Services σ)
    (office : Office σ) (s : State) :
    ∀ v ∈ (w.run sv office s).visits, d.ConnectedPastNoEnd start v.id := by
  have ht := h.travelled_run sv office s
  exact h.connectedPastNoEnd_of_chain ht.known ht.joined fun v hv =>
    h.connectedPastNoEnd_first (ht.first v hv)

end CompiledFrom

/-! ## The division of a definition -/

/-- How compiling divides the nodes of a definition, where `start` is its start. -/
structure Divided (d : Definition) (start : String) (w : Compiled) : Prop where
  only : d.starts = [start]
  steps : ∀ id, id ∈ w.stepIds ↔
    ∃ n ∈ d.nodes, (∃ a, n.role = .action a) ∧ n.id = id ∧ d.Connected start id
  excluded : ∀ id, id ∈ w.excluded ↔
    ∃ n ∈ d.nodes, n.role ≠ .start ∧ n.id = id ∧ ¬ d.Connected start id
  /-- Each declared node is in one place, once. -/
  parts : ∃ ends : List String, (∀ id, id ∈ ends ↔ id ∈ d.finishes ∧ d.Connected start id) ∧
    (w.stepIds ++ (w.excluded ++ start :: ends)).Nodup ∧
    (w.stepIds ++ (w.excluded ++ start :: ends)).Perm (d.nodes.map Node.id)
  /-- Of the steps, runs visit those to which a path leads that goes on from no end. -/
  visited : ∀ (σ : Type) (sv : Services σ) (office : Office σ) (s : State),
    ∀ v ∈ (w.run sv office s).visits, d.ConnectedPastNoEnd start v.id

/-- **Compiling divides the nodes of a definition**: actions that are connected are steps, nodes
that are not connected are left out, and with the start and the ends that are connected these are
all declared nodes, each once. Runs visit no node that stands only behind an end. -/
theorem compiling_divides_nodes {d : Definition} {limit : Int} {w : Compiled}
    (h : (d.compile limit).2 = .ok w) : ∃ start, Divided d start w := by
  obtain ⟨start, hfrom⟩ := compiledFrom_of_compile h
  have hnodup := hfrom.nodup_parts
  refine ⟨start, hfrom.acceptable.starts, fun _ => hfrom.mem_stepIds_iff_connected,
    fun _ => hfrom.mem_excluded_iff, ⟨d.reachedEnds start, fun _ => Definition.mem_reachedEnds,
    hnodup, ?_⟩, fun _ => hfrom.connectedPastNoEnd_of_visited⟩
  exact (List.perm_ext_iff_of_nodup hnodup hfrom.acceptable.sound.distinct).mpr
    fun _ => hfrom.mem_parts_iff

theorem compiling_divides_loopingDefinition :
    ∃ w, (loopingDefinition.compile 25).2 = .ok w ∧ ∃ start, Divided loopingDefinition start w := by
  obtain ⟨w, hw⟩ := acceptable_loopingDefinition.compiles 25
  exact ⟨w, hw, compiling_divides_nodes hw⟩

/-- A definition whose only action stands behind its end. -/
def endFirstDefinition : Definition where
  id := "endFirst"
  name := ""
  nodes := [⟨"start", none, .start⟩, ⟨"end", none, .finish⟩,
    ⟨"chat", none, .action (.smartChat .default)⟩]
  edges := [⟨"1", "start", "end", none, none, none⟩, ⟨"2", "end", "chat", none, none, none⟩]

theorem chat_behind_end_is_compiled :
    ∃ w, (endFirstDefinition.compile 25).2 = .ok w ∧ "chat" ∈ w.stepIds ∧ "chat" ∉ w.excluded ∧
      ¬ endFirstDefinition.ConnectedPastNoEnd "start" "chat" := by
  refine ⟨_, rfl, by decide, by decide, ?_⟩
  intro hpath
  rcases hpath.cases_tail with heq | ⟨a, _, ⟨e, he, _, _, hsource, htarget⟩, halive⟩
  · exact absurd heq (by decide)
  · -- Only the end has an edge to this node.
    have hend : a = "end" := by
      simp only [endFirstDefinition, List.mem_cons, List.not_mem_nil, or_false] at he
      rcases he with rfl | rfl
      · exact absurd htarget (by decide)
      · exact hsource.symm
    rw [hend] at halive
    exact halive (by decide)

end Helpdesk.Workflow
