import Helpdesk.Proofs.Workflow.Reachability

/-!
# Helpdesk.Proofs.Workflow.Cycles — the search for cycles is exact.

`explore` passes two lists on: the way to where it stands, and the nodes that it has left for good.
Each of its two answers needs one fact about them. Nodes that were left for good are `Settled`:
arrows do not lead out of them, and none of them lies on a cycle; so a search that comes to its end
has settled whatever can be reached. Every node of the way leads to what is looked at next; so a way
that meets itself is a cycle. The order of nodes and arrows plays no part in either.
-/
namespace Helpdesk.Workflow

/-- A path of at least one arrow. -/
def Precedes (arrows : List Arrow) : String → String → Prop :=
  Relation.TransGen fun a b => (a, b) ∈ arrows

/-- Nodes that are left for good: nothing else can be reached from them, and none of them can be
reached from itself. -/
structure Settled (arrows : List Arrow) (done : List String) : Prop where
  closed : Saturated arrows done
  acyclic : ∀ id ∈ done, ¬ Precedes arrows id id

theorem mem_successors {arrows : List Arrow} {id next : String} :
    next ∈ successors arrows id ↔ (id, next) ∈ arrows := by
  simp only [successors, List.mem_map, List.mem_filter, decide_eq_true_eq, Prod.exists]
  constructor
  · rintro ⟨_, _, ⟨harrow, rfl⟩, rfl⟩
    exact harrow
  · intro harrow
    exact ⟨id, next, ⟨harrow, rfl⟩, rfl⟩

/-! ## Searches that come to their end -/

theorem settled_nil (arrows : List Arrow) : Settled arrows [] := by
  refine ⟨?_, ?_⟩
  · intro a _ ha
    exact absurd ha List.not_mem_nil
  · intro id hid
    exact absurd hid List.not_mem_nil

/-- A node can be left for good when all that its arrows lead to was left for good. -/
theorem Settled.cons {arrows : List Arrow} {done : List String} (h : Settled arrows done)
    {id : String} (hnext : successors arrows id ⊆ done) : Settled arrows (id :: done) := by
  refine ⟨?_, ?_⟩
  · rintro ⟨source, target⟩ harrow hsource
    rcases List.mem_cons.mp hsource with rfl | hsource
    · exact List.mem_cons_of_mem _ (hnext (mem_successors.mpr harrow))
    · exact List.mem_cons_of_mem _ (h.closed _ harrow hsource)
  · intro other hother hcycle
    rcases List.mem_cons.mp hother with rfl | hother
    · -- The cycle leaves the node by an arrow, and then it stays among the nodes left before.
      obtain ⟨next, harrow, hback⟩ := Relation.TransGen.head'_iff.mp hcycle
      have hreturns := h.closed.mem_of_reaches hback (hnext (mem_successors.mpr harrow))
      exact h.acyclic _ hreturns hcycle
    · exact h.acyclic other hother hcycle

theorem settled_of_explore {arrows : List Arrow} {path done ids found : List String}
    (hexplore : explore arrows path done ids = some found) (hdone : Settled arrows done) :
    Settled arrows found ∧ done ⊆ found ∧ ids ⊆ found := by
  fun_induction explore arrows path done ids generalizing found with
  | case1 path done =>
    cases hexplore
    exact ⟨hdone, List.Subset.refl _, List.nil_subset _⟩
  | case2 => cases hexplore
  | case3 path done id rest _ hknown ih =>
    obtain ⟨hsettled, hkept, hrest⟩ := ih hexplore hdone
    have hid : id ∈ done := by simpa using hknown
    exact ⟨hsettled, hkept, List.cons_subset.mpr ⟨hkept hid, hrest⟩⟩
  | case4 => cases hexplore
  | case5 path done id rest _ _ inner hinner ihinner ih =>
    obtain ⟨hsettled, hkept, hnext⟩ := ihinner hinner hdone
    obtain ⟨hfound, hlater, hrest⟩ := ih hexplore (hsettled.cons hnext)
    obtain ⟨hid, hinnerkept⟩ := List.cons_subset.mp hlater
    exact ⟨hfound, List.Subset.trans hkept hinnerkept, List.cons_subset.mpr ⟨hid, hrest⟩⟩

/-! ## Ways that meet themselves -/

theorem exists_cycle_of_explore {arrows : List Arrow} {path done ids : List String}
    (hexplore : explore arrows path done ids = none)
    (hpath : ∀ id ∈ path, ∀ next ∈ ids, Precedes arrows id next) :
    ∃ s ∈ ids, ∃ id, Reaches arrows s id ∧ Precedes arrows id id := by
  fun_induction explore arrows path done ids with
  | case1 => cases hexplore
  | case2 path done id rest hmeets =>
    have hid : id ∈ path := by simpa using hmeets
    exact ⟨id, List.mem_cons_self, id, .refl, hpath id hid id List.mem_cons_self⟩
  | case3 path done id rest _ _ ih =>
    obtain ⟨s, hs, hfound⟩ :=
      ih hexplore fun id hid next hnext => hpath id hid next (List.mem_cons_of_mem _ hnext)
    exact ⟨s, List.mem_cons_of_mem _ hs, hfound⟩
  | case4 path done id rest _ _ hinner ih =>
    -- The way grows by the node, and each of its arrows prolongs every path to the node.
    have hlonger : ∀ x ∈ id :: path, ∀ next ∈ successors arrows id, Precedes arrows x next := by
      intro x hx next hnext
      have harrow := mem_successors.mp hnext
      rcases List.mem_cons.mp hx with rfl | hx
      · exact .single harrow
      · exact (hpath x hx id List.mem_cons_self).tail harrow
    obtain ⟨s, hs, cycle, hreaches, hcycle⟩ := ih hinner hlonger
    exact ⟨id, List.mem_cons_self, cycle, .head (mem_successors.mp hs) hreaches, hcycle⟩
  | case5 path done id rest _ _ inner _ _ ih =>
    obtain ⟨s, hs, hfound⟩ :=
      ih hexplore fun id hid next hnext => hpath id hid next (List.mem_cons_of_mem _ hnext)
    exact ⟨s, List.mem_cons_of_mem _ hs, hfound⟩

/-- **The search for cycles is exact**: it answers whether a node that lies on a cycle can be reached
from some nodes. -/
theorem hasCycle_iff {arrows : List Arrow} {ids : List String} :
    hasCycle arrows ids = true ↔
      ∃ s ∈ ids, ∃ id, Reaches arrows s id ∧ Precedes arrows id id := by
  unfold hasCycle
  rcases hexplore : explore arrows [] [] ids with _ | found
  · have hcycle := exists_cycle_of_explore hexplore
      fun id hid => absurd hid List.not_mem_nil
    simpa using hcycle
  · obtain ⟨hsettled, -, hids⟩ := settled_of_explore hexplore (settled_nil arrows)
    simp only [Option.isNone_some, Bool.false_eq_true, false_iff]
    rintro ⟨s, hs, id, hreaches, hcycle⟩
    exact hsettled.acyclic id (hsettled.closed.mem_of_reaches hreaches (hids hs)) hcycle

end Helpdesk.Workflow
