import Helpdesk.Proofs.Workflow.Acceptance
import Helpdesk.Workflow.Run
import Mathlib.Data.List.Chain

/-!
# Helpdesk.Proofs.Workflow.Itinerary — runs follow the edges that their authors drew.

A run is judged by its visits alone, whatever models, stores, books and channels did meanwhile. The
route of a step leads to the end or along an edge that is open in the state that the step left, and
edges that are wired lead to compiled steps or to the end. Both are facts about one decision; the
invariant `Travelled` carries them through a run.
-/
namespace Helpdesk.Workflow

open Conversation

variable {σ : Type}

/-- An edge that may be taken in a state: it has no condition, or its condition holds there. -/
def Edge.OpenIn (e : Edge) (s : State) : Prop :=
  e.condition = none ∨ ∃ text vars, e.condition = some text ∧ bag s = .ok vars ∧
    ((Condition.ofText text).ask vars).answer = .ok true

/-- An edge of the definition leads from a visit to a node, and the visit left it open. -/
def Definition.Joins (d : Definition) (v : Visit) (id : String) : Prop :=
  ∃ e ∈ d.edges, e.source = v.id ∧ e.target = id ∧ e.OpenIn v.after

/-- A target that a run can go to: a compiled step, or the end. -/
def Compiled.Lands (w : Compiled) (t : Target) : Prop :=
  t = .finish ∨ ∃ id ∈ w.stepIds, t = .node id

/-! ## One decision -/

theorem Route.eq_or_mem_of_choose {vars : Entries} {otherwise t : Target}
    {branches : List (Condition × Target)} (h : (Route.choose vars otherwise branches).2 = .ok t) :
    t = otherwise ∨ ∃ b ∈ branches, b.2 = t ∧ (b.1.ask vars).answer = .ok true := by
  induction branches with
  | nil =>
    cases h
    exact Or.inl rfl
  | cons b rest ih =>
    -- A fault ends the choice, and a condition that does not hold leaves it to the next branch.
    rcases hanswer : (b.1.ask vars).answer with fault | _ | _
    · simp only [Route.choose, hanswer] at h
      cases h
    · simp only [Route.choose, hanswer] at h
      rcases ih h with hotherwise | ⟨b, hb, htarget, hholds⟩
      · exact Or.inl hotherwise
      · exact Or.inr ⟨b, List.mem_cons_of_mem _ hb, htarget, hholds⟩
    · simp only [Route.choose, hanswer] at h
      cases h
      exact Or.inr ⟨b, List.mem_cons_self, rfl, hanswer⟩

theorem Route.fallback_eq (otherwise : Option Target) :
    Route.fallback otherwise = .finish ∨ otherwise = some (Route.fallback otherwise) := by
  rcases otherwise with _ | id | _
  · exact Or.inl rfl
  · by_cases hempty : id.isEmpty = true
    · exact Or.inl (if_pos hempty)
    · exact Or.inr (congrArg some (if_neg hempty).symm)
  · exact Or.inl rfl

theorem Definition.mem_branches {d : Definition} {edges : List Edge} {b : Condition × Target} :
    b ∈ d.branches edges ↔
      ∃ e ∈ edges, ∃ text, e.condition = some text ∧ (.ofText text, d.targetOf e.target) = b := by
  simp only [Definition.branches, List.mem_filterMap, Option.map_eq_some_iff]

theorem Definition.eq_targetOf_of_otherwise {d : Definition} {edges : List Edge} {t : Target}
    (h : d.otherwise edges = some t) : ∃ e ∈ edges, e.condition = none ∧ t = d.targetOf e.target := by
  obtain ⟨e, hfind, rfl⟩ := Option.map_eq_some_iff.mp h
  have hfree : e.condition = none := by simpa using List.find?_some hfind
  exact ⟨e, List.mem_of_find?_eq_some hfind, hfree, rfl⟩

/-- Conditions are asked in the variables of the state, so what is chosen is open in it. -/
theorem Definition.follow_conditional {d : Definition} {edges : List Edge} {s : State} {t : Target}
    {otherwise : Option Target}
    (hotherwise : ∀ t, otherwise = some t →
      ∃ e ∈ edges, e.condition = none ∧ t = d.targetOf e.target)
    (h : ((Route.conditional (d.branches edges) otherwise).follow s).2 = .ok t) :
    t = .finish ∨ ∃ e ∈ edges, e.OpenIn s ∧ t = d.targetOf e.target := by
  rcases hbag : bag s with misfit | vars
  · simp only [Route.follow, hbag] at h
    cases h
  rcases hchoice : Route.choose vars (Route.fallback otherwise) (d.branches edges) with
    ⟨notices, fault | target⟩
  · simp only [Route.follow, hbag, Route.resolve, hchoice] at h
    cases h
  simp only [Route.follow, hbag, Route.resolve, hchoice] at h
  cases h
  rcases Route.eq_or_mem_of_choose (congrArg Prod.snd hchoice) with hdefault | ⟨b, hb, hto, hholds⟩
  · rcases Route.fallback_eq otherwise with hfinish | hsome
    · exact Or.inl (hdefault.trans hfinish)
    · obtain ⟨e, he, hfree, htarget⟩ := hotherwise _ hsome
      exact Or.inr ⟨e, he, Or.inl hfree, hdefault.trans htarget⟩
  · obtain ⟨e, he, text, htext, rfl⟩ := Definition.mem_branches.mp hb
    exact Or.inr ⟨e, he, Or.inr ⟨text, vars, htext, hbag, hholds⟩, hto.symm⟩

/-- **One decision**: a step is left along one of its edges that is open, or the run ends. -/
theorem Definition.follow_routeOf {d : Definition} {edges : List Edge} {s : State} {t : Target}
    (h : ((d.routeOf edges).follow s).2 = .ok t) :
    t = .finish ∨ ∃ e ∈ edges, e.OpenIn s ∧ t = d.targetOf e.target := by
  rcases edges with _ | ⟨e, _ | ⟨second, others⟩⟩
  · cases h
    exact Or.inl rfl
  · by_cases hfree : e.condition = none
    · simp only [Definition.routeOf, hfree, Option.isNone_none, if_true] at h
      cases h
      exact Or.inr ⟨e, List.mem_cons_self, Or.inl hfree, rfl⟩
    · simp only [Definition.routeOf, Option.isNone_iff_eq_none, hfree, if_false] at h
      refine Definition.follow_conditional ?_ h
      intro t ht
      cases ht
  · exact Definition.follow_conditional (fun t ht => Definition.eq_targetOf_of_otherwise ht) h

/-! ## Compiled steps -/

theorem Compiled.step?_ne_none {w : Compiled} {id : String} (hid : id ∈ w.stepIds) :
    w.step? id ≠ none := by
  obtain ⟨step, hstep, rfl⟩ := List.mem_map.mp hid
  intro hnone
  exact List.find?_eq_none.mp hnone step hstep (decide_eq_true rfl)

/-- What a run may rely on in a compiled workflow, where `start` is the start of its definition. -/
structure CompiledFrom (d : Definition) (start : String) (w : Compiled) : Prop where
  acceptable : d.Acceptable start
  entry : ∃ e, d.exits start = [e] ∧ w.entry = d.targetOf e.target
  steps : w.steps = d.steps start
  excluded : w.excluded = (d.unreached start).map Node.id

theorem compiledFrom_of_compile {d : Definition} {limit : Int} {w : Compiled}
    (h : (d.compile limit).2 = .ok w) : ∃ start, CompiledFrom d start w := by
  obtain ⟨start, hacceptable⟩ := Definition.exists_acceptable_of_compiles h
  obtain ⟨first, entry, hfirst, hentry, rfl⟩ := Definition.compile_eq_ok_iff.mp h
  obtain ⟨e, hexit, hfree⟩ := hacceptable.exit
  -- The start that was compiled is the only one that the definition has.
  have hsame : first = start := by
    have hstarts := ((Definition.start?_eq_ok_iff hacceptable.sound).mp hfirst).1
    rw [hacceptable.starts] at hstarts
    exact (List.singleton_inj.mp hstarts).symm
  subst hsame
  rw [Definition.entry?_of_exit hacceptable.reached hexit hfree] at hentry
  cases hentry
  exact ⟨first, hacceptable, ⟨e, hexit, rfl⟩, rfl, rfl⟩

theorem Definition.mem_steps {d : Definition} {start : String} {step : Step} :
    step ∈ d.steps start ↔
      (∃ n ∈ d.nodes, n.role = .action step.action ∧ d.Leads start start n.id ∧ n.id = step.id) ∧
        step.route = d.routeOf (outgoing (d.wiredEdges start) step.id) := by
  have hactions : ∀ id a, (id, a) ∈ d.reachedActions start ↔
      ∃ n ∈ d.nodes, n.role = .action a ∧ d.Leads start start n.id ∧ n.id = id := by
    intro id a
    simp only [Definition.reachedActions, List.mem_filterMap]
    constructor
    · rintro ⟨n, hn, hsome⟩
      rcases hrole : n.role with _ | _ | action
      · simp [hrole] at hsome
      · simp [hrole] at hsome
      · simp only [hrole, List.contains_eq_mem, decide_eq_true_eq, Option.ite_none_right_eq_some,
          Option.some.injEq, Prod.mk.injEq] at hsome
        obtain ⟨hreached, rfl, rfl⟩ := hsome
        exact ⟨n, hn, hrole, Definition.mem_reached_iff.mp hreached, rfl⟩
    · rintro ⟨n, hn, hrole, hpath, rfl⟩
      refine ⟨n, hn, ?_⟩
      simp [hrole, Definition.mem_reached_iff.mpr hpath]
  obtain ⟨id, action, route⟩ := step
  simp only [Definition.steps, List.mem_map, Prod.exists, Step.mk.injEq, ← hactions]
  constructor
  · rintro ⟨_, _, hmem, rfl, rfl, rfl⟩
    exact ⟨hmem, rfl⟩
  · rintro ⟨hmem, rfl⟩
    exact ⟨id, action, hmem, rfl, rfl, rfl⟩

namespace CompiledFrom

variable {d : Definition} {start : String} {w : Compiled}

theorem mem_stepIds (h : CompiledFrom d start w) {id : String} :
    id ∈ w.stepIds ↔
      ∃ n ∈ d.nodes, (∃ a, n.role = .action a) ∧ d.Leads start start n.id ∧ n.id = id := by
  simp only [Compiled.stepIds, h.steps, List.mem_map, Definition.mem_steps]
  constructor
  · rintro ⟨step, ⟨⟨n, hn, hrole, hpath, hid⟩, _⟩, rfl⟩
    exact ⟨n, hn, ⟨step.action, hrole⟩, hpath, hid⟩
  · rintro ⟨n, hn, ⟨a, hrole⟩, hpath, rfl⟩
    let route := d.routeOf (Definition.outgoing (d.wiredEdges start) n.id)
    exact ⟨⟨n.id, a, route⟩, ⟨⟨n, hn, hrole, hpath, rfl⟩, rfl⟩, rfl⟩

/-- Nodes are told apart by their identifiers. -/
theorem node_eq (h : CompiledFrom d start w) {n m : Node} (hn : n ∈ d.nodes) (hm : m ∈ d.nodes)
    (hid : n.id = m.id) : n = m :=
  List.inj_on_of_nodup_map h.acceptable.sound.distinct hn hm hid

theorem notMem_starts (h : CompiledFrom d start w) {id : String} (hid : id ∈ w.stepIds) :
    id ∉ d.starts := by
  obtain ⟨n, hn, ⟨a, hrole⟩, _, rfl⟩ := h.mem_stepIds.mp hid
  intro hstart
  obtain ⟨m, hm, hmrole, hmid⟩ : ∃ m ∈ d.nodes, m.role = .start ∧ m.id = n.id := by
    simpa [Definition.starts, and_assoc] using hstart
  rw [h.node_eq hm hn hmid, hrole] at hmrole
  cases hmrole

theorem notMem_finishes (h : CompiledFrom d start w) {id : String} (hid : id ∈ w.stepIds) :
    id ∉ d.finishes := by
  obtain ⟨n, hn, ⟨a, hrole⟩, _, rfl⟩ := h.mem_stepIds.mp hid
  intro hfinish
  obtain ⟨m, hm, hmrole, hmid⟩ := Definition.mem_finishes.mp hfinish
  rw [h.node_eq hm hn hmid, hrole] at hmrole
  cases hmrole

theorem notMem_excluded (h : CompiledFrom d start w) {id : String} (hid : id ∈ w.stepIds) :
    id ∉ w.excluded := by
  obtain ⟨n, _, _, hpath, rfl⟩ := h.mem_stepIds.mp hid
  rw [h.excluded]
  intro hexcluded
  obtain ⟨m, hm, hmid⟩ := List.mem_map.mp hexcluded
  have hunreached := (List.mem_filter.mp hm).2
  rw [hmid, List.contains_eq_mem, decide_eq_true (Definition.mem_reached_iff.mpr hpath)] at hunreached
  cases hunreached

/-- What an edge that is wired leads to has survived: it is compiled, or it is an end. -/
theorem lands_targetOf (h : CompiledFrom d start w) {e : Edge} (he : e ∈ d.wiredEdges start) :
    w.Lands (d.targetOf e.target) := by
  obtain ⟨hedge, husable, hsource⟩ := Definition.mem_wiredEdges.mp he
  obtain ⟨n, hn, hid⟩ := List.mem_map.mp husable.2.1
  have hpath : d.Leads start start n.id := hid ▸ hsource.tail ⟨e, hedge, husable, rfl, rfl⟩
  unfold Definition.targetOf
  by_cases hfinish : e.target ∈ d.finishes
  · refine Or.inl ?_
    simp [hfinish]
  refine Or.inr ⟨e.target, ?_, by simp [hfinish]⟩
  refine h.mem_stepIds.mpr ⟨n, hn, ?_, hpath, hid⟩
  -- The only start is no target of a usable edge, so what is left is an action.
  rcases hrole : n.role with _ | _ | a
  · have hstart : n.id ∈ d.starts := by
      simp only [Definition.starts, List.mem_map, List.mem_filter, beq_iff_eq]
      exact ⟨n, ⟨hn, hrole⟩, rfl⟩
    rw [h.acceptable.starts, List.mem_singleton] at hstart
    exact absurd (hid ▸ hstart) husable.2.2
  · exact absurd (Definition.mem_finishes.mpr ⟨n, hn, hrole, hid⟩) hfinish
  · exact ⟨a, rfl⟩

/-- The edges that a step is left by are wired edges from that step. -/
theorem follow_step (h : CompiledFrom d start w) {step : Step} (hstep : step ∈ w.steps) {s : State}
    {t : Target} (hfollow : (step.route.follow s).2 = .ok t) :
    t = .finish ∨ ∃ e ∈ d.wiredEdges start, e.source = step.id ∧ e.OpenIn s ∧
      t = d.targetOf e.target := by
  rw [h.steps] at hstep
  rw [(Definition.mem_steps.mp hstep).2] at hfollow
  rcases Definition.follow_routeOf hfollow with hfinish | ⟨e, he, hopen, htarget⟩
  · exact Or.inl hfinish
  · obtain ⟨hwired, hsource⟩ := List.mem_filter.mp he
    exact Or.inr ⟨e, hwired, of_decide_eq_true hsource, hopen, htarget⟩

/-- No decision dangles: it leads to a compiled step or to the end. -/
theorem lands_of_follow (h : CompiledFrom d start w) {step : Step} (hstep : step ∈ w.steps)
    {s : State} {t : Target} (hfollow : (step.route.follow s).2 = .ok t) : w.Lands t := by
  rcases h.follow_step hstep hfollow with hfinish | ⟨e, he, _, _, rfl⟩
  · exact Or.inl hfinish
  · exact h.lands_targetOf he

/-- A decision for a node takes an edge to that node. -/
theorem joins_of_follow (h : CompiledFrom d start w) {step : Step} (hstep : step ∈ w.steps)
    {after : State} {id : String} (hfollow : (step.route.follow after).2 = .ok (.node id)) :
    d.Joins ⟨step.id, after⟩ id := by
  rcases h.follow_step hstep hfollow with hfinish | ⟨e, he, hsource, hopen, htarget⟩
  · cases hfinish
  · unfold Definition.targetOf at htarget
    split at htarget
    · cases htarget
    · cases htarget
      exact ⟨e, (Definition.mem_wiredEdges.mp he).1, hsource, rfl, hopen⟩

end CompiledFrom

/-! ## Runs -/

namespace Run

theorem visits_leave (r : Run σ) (step : Step) (office : Office σ) (result : Except Fault Fields) :
    ∃ after, (r.leave step office result).visits = r.visits ++ [⟨step.id, after⟩] ∧
      ∀ t, (r.leave step office result).next = .ok t → (step.route.follow after).2 = .ok t := by
  rcases result with fault | update
  · refine ⟨r.state, rfl, ?_⟩
    intro t ht
    cases ht
  · exact ⟨r.state.write update, rfl, fun t ht => ht⟩

/-- A step adds one visit; where the run goes next is what its route says about the state it left. -/
theorem visits_visit (sv : Services σ) (r : Run σ) (step : Step) :
    ∃ after, (r.visit sv step).visits = r.visits ++ [⟨step.id, after⟩] ∧
      ∀ t, (r.visit sv step).next = .ok t → (step.route.follow after).2 = .ok t := by
  unfold Run.visit
  exact r.visits_leave step _ _

/-- What every run has kept to so far. -/
structure Travelled (d : Definition) (w : Compiled) (r : Run σ) : Prop where
  known : ∀ v ∈ r.visits, v.id ∈ w.stepIds
  joined : r.visits.IsChain fun a b => d.Joins a b.id
  first : ∀ v, r.visits.head? = some v → w.entry = .node v.id
  lands : ∀ t, r.next = .ok t → w.Lands t
  /-- The next node is where runs begin, or an edge leads to it from the last visit. -/
  leads : ∀ id, r.next = .ok (.node id) →
    (r.visits = [] ∧ w.entry = .node id) ∨ ∃ v, r.visits.getLast? = some v ∧ d.Joins v id

theorem travelled_start {d : Definition} {start : String} {w : Compiled}
    (h : CompiledFrom d start w) (office : Office σ) (s : State) :
    Travelled d w (Run.start w office s) := by
  obtain ⟨e, hexit, hentry⟩ := h.entry
  have hwired : e ∈ d.wiredEdges start := by
    have hmem : e ∈ Definition.outgoing (d.wiredEdges start) start := by
      rw [Definition.outgoing_wiredEdges_start, hexit]
      exact List.mem_singleton_self e
    exact List.mem_of_mem_filter hmem
  refine ⟨?_, .nil, ?_, ?_, ?_⟩
  · intro v hv
    exact absurd hv List.not_mem_nil
  · intro v hv
    cases hv
  · intro t ht
    cases ht
    rw [hentry]
    exact h.lands_targetOf hwired
  · intro id hid
    exact Or.inl ⟨rfl, Except.ok.inj hid⟩

theorem Travelled.visit {d : Definition} {start : String} {w : Compiled}
    (h : CompiledFrom d start w) {r : Run σ} (ht : Travelled d w r) {step : Step}
    (hstep : step ∈ w.steps) (hnext : r.next = .ok (.node step.id)) (sv : Services σ) :
    Travelled d w (r.visit sv step) := by
  obtain ⟨after, hvisits, hroute⟩ := r.visits_visit sv step
  refine ⟨?_, ?_, ?_, ?_, ?_⟩
  · intro v hv
    rw [hvisits] at hv
    rcases List.mem_append.mp hv with hold | hnew
    · exact ht.known v hold
    · rw [List.mem_singleton.mp hnew]
      exact List.mem_map_of_mem hstep
  · rw [hvisits]
    refine List.isChain_append.mpr ⟨ht.joined, .singleton _, ?_⟩
    intro a ha b hb
    cases hb
    -- A visit before this one is where the decision for it was made.
    rcases ht.leads step.id hnext with ⟨hnone, _⟩ | ⟨v, hlast, hjoins⟩
    · rw [hnone] at ha
      cases ha
    · rw [hlast] at ha
      cases ha
      exact hjoins
  · intro v hv
    rw [hvisits, List.head?_append] at hv
    -- The first visit changes only when there was none.
    rcases hhead : r.visits.head? with _ | first
    · rw [hhead] at hv
      cases hv
      rcases ht.leads step.id hnext with ⟨_, hentry⟩ | ⟨v, hlast, _⟩
      · exact hentry
      · rw [List.head?_eq_none_iff.mp hhead] at hlast
        cases hlast
    · rw [hhead] at hv
      cases hv
      exact ht.first _ hhead
  · intro t hto
    exact h.lands_of_follow hstep (hroute t hto)
  · intro id hto
    refine Or.inr ⟨⟨step.id, after⟩, ?_, h.joins_of_follow hstep (hroute _ hto)⟩
    rw [hvisits, List.getLast?_append]
    rfl

theorem Travelled.advance {d : Definition} {start : String} {w : Compiled}
    (h : CompiledFrom d start w) {r : Run σ} (ht : Travelled d w r) (sv : Services σ) :
    Travelled d w (r.advance sv w) := by
  rcases hnext : r.next with fault | id | _
  · simp only [Run.advance, hnext]
    exact ht
  · rcases hstep : w.step? id with _ | step
    · -- The invariant says that there is a step to go to, so a run is never lost.
      rcases ht.lands _ hnext with hfinish | ⟨known, hknown, htarget⟩
      · cases hfinish
      · cases htarget
        exact absurd hstep (Compiled.step?_ne_none hknown)
    · have hid : step.id = id := by simpa using List.find?_some hstep
      simp only [Run.advance, hnext, hstep]
      exact ht.visit h (List.mem_of_find?_eq_some hstep) (hid ▸ hnext) sv
  · simp only [Run.advance, hnext]
    exact ht

theorem Travelled.advanceAll {d : Definition} {start : String} {w : Compiled}
    (h : CompiledFrom d start w) (sv : Services σ) (steps : Nat) {r : Run σ}
    (ht : Travelled d w r) : Travelled d w (advanceAll sv w steps r) := by
  induction steps generalizing r with
  | zero => exact ht
  | succ steps ih =>
    unfold Run.advanceAll
    split
    · exact ih (ht.advance h sv)
    · exact ht

end Run

/-! ## Whole runs -/

namespace Run

/-- A run keeps the visits that it has made. -/
theorem visits_prefix_advance (sv : Services σ) (w : Compiled) (r : Run σ) :
    r.visits <+: (r.advance sv w).visits ∧ (r.advance sv w).visits.length ≤ r.visits.length + 1 := by
  rcases hnext : r.next with fault | id | _
  · simp [Run.advance, hnext]
  · rcases hstep : w.step? id with _ | step
    · simp [Run.advance, hnext, hstep]
    · obtain ⟨after, hvisits, _⟩ := r.visits_visit sv step
      simp [Run.advance, hnext, hstep, hvisits]
  · simp [Run.advance, hnext]

theorem visits_prefix_advanceAll (sv : Services σ) (w : Compiled) (steps : Nat) (r : Run σ) :
    r.visits <+: (advanceAll sv w steps r).visits ∧
      (advanceAll sv w steps r).visits.length ≤ r.visits.length + steps := by
  induction steps generalizing r with
  | zero => exact ⟨List.prefix_rfl, Nat.le_refl _⟩
  | succ steps ih =>
    unfold advanceAll
    split
    · obtain ⟨hone, hlength⟩ := visits_prefix_advance sv w r
      obtain ⟨hrest, hall⟩ := ih (r.advance sv w)
      exact ⟨hone.trans hrest, by omega⟩
    · exact ⟨List.prefix_rfl, by omega⟩

theorem visits_stop (w : Compiled) (r : Run σ) : (r.stop w).visits = r.visits := by
  unfold stop
  split
  · rfl
  · split <;> rfl

theorem next_of_stop {w : Compiled} {r : Run σ} {t : Target} (h : (r.stop w).next = .ok t) :
    r.next = .ok t := by
  unfold stop at h
  split at h
  · exact h
  · split at h
    · cases h
    · exact h

theorem Travelled.stop {d : Definition} {w : Compiled} {r : Run σ} (ht : Travelled d w r) :
    Travelled d w (r.stop w) := by
  have hvisits := visits_stop w r
  refine ⟨hvisits ▸ ht.known, hvisits ▸ ht.joined, hvisits ▸ ht.first, ?_, ?_⟩
  · intro t hto
    exact ht.lands t (next_of_stop hto)
  · intro id hto
    rw [hvisits]
    exact ht.leads id (next_of_stop hto)

/-- A run that makes no visit and goes nowhere has kept to everything. -/
theorem travelled_of_error {d : Definition} {w : Compiled} {r : Run σ} {fault : Fault}
    (hvisits : r.visits = []) (hnext : r.next = .error fault) : Travelled d w r := by
  refine ⟨?_, ?_, ?_, ?_, ?_⟩
  · intro v hv
    rw [hvisits] at hv
    exact absurd hv List.not_mem_nil
  · rw [hvisits]
    exact .nil
  · intro v hv
    rw [hvisits] at hv
    cases hv
  · intro t hto
    rw [hnext] at hto
    cases hto
  · intro id hto
    rw [hnext] at hto
    cases hto

/-- A run that begins at a node makes its first visit there. -/
theorem visits_advanceAll_start_ne_nil {d : Definition} {start : String} {w : Compiled}
    (h : CompiledFrom d start w) {id : String} (hentry : w.entry = .node id) {steps : Nat}
    (hsteps : 1 ≤ steps) (sv : Services σ) (office : Office σ) (s : State) :
    (advanceAll sv w steps (Run.start w office s)).visits ≠ [] := by
  obtain ⟨steps, rfl⟩ : ∃ fewer, steps = fewer + 1 := ⟨steps - 1, by omega⟩
  have hnext : (Run.start w office s).next = .ok (.node id) := congrArg Except.ok hentry
  have hhas : (Run.start w office s).hasNext = true := by simp only [hasNext, hnext]
  rw [advanceAll, if_pos hhas]
  -- The first step makes a visit, and the steps after it keep it.
  refine (visits_prefix_advanceAll sv w steps _).1.ne_nil ?_
  rcases hstep : w.step? id with _ | step
  · rcases (travelled_start h office s).lands _ hnext with hfinish | ⟨known, hknown, htarget⟩
    · cases hfinish
    · cases htarget
      exact absurd hstep (Compiled.step?_ne_none hknown)
  · obtain ⟨after, hvisits, _⟩ := (Run.start w office s).visits_visit sv step
    simp [advance, hnext, hstep, hvisits]

/-- What whole runs of a compiled workflow keep to. -/
structure Faithful (d : Definition) (w : Compiled) (r : Run σ) : Prop where
  /-- A run begins where the only edge of the start leads; it does begin unless that is an end. -/
  first : ∃ start e, d.starts = [start] ∧ d.exits start = [e] ∧
    (∀ v, r.visits.head? = some v → v.id = e.target) ∧
    (1 ≤ w.stepLimit → e.target ∉ d.finishes → r.visits ≠ [])
  compiled : ∀ v ∈ r.visits, v.id ∈ w.stepIds
  actions : ∀ v ∈ r.visits, v.id ∉ d.starts ∧ v.id ∉ d.finishes ∧ v.id ∉ w.excluded
  joined : r.visits.IsChain fun a b => d.Joins a b.id
  /-- Every decision that a compiled step can come to, and the one that a run ends with. -/
  decided : w.Lands w.entry ∧ (∀ step ∈ w.steps, ∀ s t, (step.route.follow s).2 = .ok t → w.Lands t) ∧
    ∀ t, r.next = .ok t → w.Lands t
  bounded : r.visits.length ≤ w.stepLimit.toNat

end Run

theorem Compiled.run_cases (w : Compiled) (sv : Services σ) (office : Office σ) (s : State) :
    (w.stepLimit < 1 ∧ (w.run sv office s).visits = [] ∧
      (w.run sv office s).next = .error .noSteps) ∨
    (1 ≤ w.stepLimit ∧ ∃ settled, w.run sv office s =
      (Run.advanceAll sv w w.stepLimit.toNat (Run.start w settled s)).stop w) := by
  unfold Compiled.run
  by_cases hlimit : w.stepLimit < 1
  · simp only [if_pos hlimit]
    exact Or.inl ⟨hlimit, rfl, rfl⟩
  · simp only [if_neg hlimit]
    exact Or.inr ⟨by omega, _, rfl⟩

theorem CompiledFrom.travelled_run {d : Definition} {start : String} {w : Compiled}
    (h : CompiledFrom d start w) (sv : Services σ) (office : Office σ) (s : State) :
    Run.Travelled d w (w.run sv office s) := by
  rcases w.run_cases sv office s with ⟨_, hvisits, hnext⟩ | ⟨_, settled, hrun⟩
  · exact Run.travelled_of_error hvisits hnext
  · rw [hrun]
    exact ((Run.travelled_start h settled s).advanceAll h sv _).stop

theorem Compiled.length_visits_run (w : Compiled) (sv : Services σ) (office : Office σ) (s : State) :
    (w.run sv office s).visits.length ≤ w.stepLimit.toNat := by
  rcases w.run_cases sv office s with ⟨_, hvisits, _⟩ | ⟨_, settled, hrun⟩
  · rw [hvisits]
    exact Nat.zero_le _
  · rw [hrun, Run.visits_stop]
    have hlength := (Run.visits_prefix_advanceAll sv w w.stepLimit.toNat (Run.start w settled s)).2
    simpa [Run.start] using hlength

theorem CompiledFrom.visits_run_ne_nil {d : Definition} {start : String} {w : Compiled}
    (h : CompiledFrom d start w) {id : String} (hentry : w.entry = .node id)
    (hlimit : 1 ≤ w.stepLimit) (sv : Services σ) (office : Office σ) (s : State) :
    (w.run sv office s).visits ≠ [] := by
  rcases w.run_cases sv office s with ⟨hnone, _, _⟩ | ⟨_, settled, hrun⟩
  · omega
  · rw [hrun, Run.visits_stop]
    exact Run.visits_advanceAll_start_ne_nil h hentry (by omega) sv settled s

/-- **Runs follow the definition.** Whatever models, stores, books and channels do, a run of a
compiled workflow begins where the start leads, visits compiled steps only, goes from one to the next
along an edge that the first one left open, and visits no more of them than it may. -/
theorem runs_follow_definition {d : Definition} {limit : Int} {w : Compiled}
    (h : (d.compile limit).2 = .ok w) :
    ∀ (σ : Type) (sv : Services σ) (office : Office σ) (s : State),
      Run.Faithful d w (w.run sv office s) := by
  intro σ sv office s
  obtain ⟨start, hfrom⟩ := compiledFrom_of_compile h
  obtain ⟨e, hexit, hentry⟩ := hfrom.entry
  have ht : Run.Travelled d w (w.run sv office s) := hfrom.travelled_run sv office s
  refine ⟨⟨start, e, hfrom.acceptable.starts, hexit, ?_, ?_⟩, ht.known, ?_, ht.joined, ?_, ?_⟩
  · intro v hv
    have hnode : d.targetOf e.target = .node v.id := hentry.symm.trans (ht.first v hv)
    unfold Definition.targetOf at hnode
    split at hnode
    · cases hnode
    · exact (Target.node.inj hnode).symm
  · intro hlimit htarget
    have hnode : w.entry = .node e.target := by
      rw [hentry, Definition.targetOf, List.contains_eq_mem, decide_eq_false htarget]
      rfl
    exact hfrom.visits_run_ne_nil hnode hlimit sv office s
  · intro v hv
    have hknown := ht.known v hv
    exact ⟨hfrom.notMem_starts hknown, hfrom.notMem_finishes hknown, hfrom.notMem_excluded hknown⟩
  · refine ⟨(Run.travelled_start hfrom office s).lands _ rfl, ?_, ht.lands⟩
    intro step hstep s t hfollow
    exact hfrom.lands_of_follow hstep hfollow
  · exact w.length_visits_run sv office s

/-- A definition with a loop, a branch, a stray node and edges that lead nowhere. -/
def loopingDefinition : Definition :=
  let edge := fun (source target : String) (condition : Option String) =>
    (⟨source ++ target, source, target, condition, none, none⟩ : Edge)
  { id := "looping", name := "",
    nodes := [
      ⟨"start", none, .start⟩, ⟨"look", none, .action (.rag .default)⟩,
      ⟨"chat", none, .action (.smartChat .default)⟩, ⟨"stray", none, .action (.handoff .default)⟩,
      ⟨"end", none, .finish⟩],
    edges := [
      edge "start" "look" none, edge "look" "chat" (some "hasRetrievedContext"),
      edge "look" "end" none, edge "chat" "look" (some "response === ''"), edge "chat" "end" none,
      edge "stray" "chat" none, edge "chat" "nowhere" none, edge "chat" "start" none] }

theorem acceptable_loopingDefinition : loopingDefinition.Acceptable "start" where
  sound := by
    have hvalid : loopingDefinition.nodes.all (fun n => isValidId n.id) = true := by decide
    refine ⟨?_, by decide⟩
    intro n hn
    exact isValidId_iff.mp (List.all_eq_true.mp hvalid n hn)
  starts := by decide
  finishes := by decide
  reached := by
    have hlook : loopingDefinition.Leads "start" "start" "look" :=
      .single ⟨⟨"startlook", "start", "look", none, none, none⟩, by decide, by decide, rfl, rfl⟩
    refine ⟨⟨"end", none, .finish⟩, by decide, rfl, hlook.tail ?_⟩
    exact ⟨⟨"lookend", "look", "end", none, none, none⟩, by decide, by decide, rfl, rfl⟩
  exit := ⟨⟨"startlook", "start", "look", none, none, none⟩, by decide, rfl⟩

theorem runs_follow_loopingDefinition :
    ∃ w, (loopingDefinition.compile 25).2 = .ok w ∧
      ∀ (σ : Type) (sv : Services σ) (office : Office σ) (s : State),
        Run.Faithful loopingDefinition w (w.run sv office s) := by
  obtain ⟨w, hw⟩ := acceptable_loopingDefinition.compiles 25
  exact ⟨w, hw, runs_follow_definition hw⟩

end Helpdesk.Workflow
