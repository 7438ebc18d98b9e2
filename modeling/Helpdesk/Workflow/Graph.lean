import Helpdesk.Workflow.Definition

/-!
# Helpdesk.Workflow.Graph — what can be reached along edges.

Reachability is found by adding the targets of edges whose sources are reached until nothing is
added. Each round that adds something adds the target of an edge, so as many rounds as there are
edges are enough.

Cycles are looked for depth first. A node that was left for good is not entered again, whatever led
to it the second time, so every edge is followed at most once.
-/
namespace Helpdesk.Workflow

/-- A step from one node to another. -/
abbrev Arrow := String × String

/-- Adds the target of an arrow whose source is known. -/
def follow (known : List String) (a : Arrow) : List String :=
  if known.contains a.1 && !known.contains a.2 then known ++ [a.2] else known

/-- Adds targets along arrows in so many rounds. -/
def spread (arrows : List Arrow) : Nat → List String → List String
  | 0, known => known
  | rounds + 1, known => spread arrows rounds (arrows.foldl follow known)

/-- Everything that can be reached from some nodes, the nodes themselves included. -/
def reachableFrom (arrows : List Arrow) (sources : List String) : List String :=
  spread arrows arrows.length sources

/-- The targets of the arrows that leave a node. -/
def successors (arrows : List Arrow) (id : String) : List String :=
  (arrows.filter fun a => a.1 = id).map Prod.snd

/-- The number of arrows that leave nodes off a path. -/
def arrowsOff (arrows : List Arrow) (path : List String) : Nat :=
  arrows.countP fun a => !path.contains a.1

theorem arrowsOff_cons_le (arrows : List Arrow) (id : String) (path : List String) :
    arrowsOff arrows (id :: path) ≤ arrowsOff arrows path := by
  refine List.countP_mono_left ?_
  intro a _ ha
  simp only [List.contains_cons, Bool.not_or, Bool.and_eq_true] at ha
  exact ha.2

/-- To enter a node that arrows leave takes these arrows out of the count. -/
theorem arrowsOff_cons_lt {arrows : List Arrow} {id : String} {path : List String}
    (hnew : id ∉ path) (hleaves : successors arrows id ≠ []) :
    arrowsOff arrows (id :: path) < arrowsOff arrows path := by
  obtain ⟨next, hnext⟩ := List.exists_mem_of_ne_nil _ hleaves
  obtain ⟨a, ha, -⟩ := List.mem_map.mp hnext
  obtain ⟨hmem, hsource⟩ := List.mem_filter.mp ha
  obtain ⟨before, after, rfl⟩ := List.append_of_mem hmem
  have hbefore := arrowsOff_cons_le before id path
  have hafter := arrowsOff_cons_le after id path
  have hid : a.1 = id := of_decide_eq_true hsource
  unfold arrowsOff at *
  simp only [List.countP_append, List.countP_cons, hid, List.contains_eq_mem, hnew,
    List.mem_cons_self, decide_true, decide_false, Bool.not_true, Bool.not_false, if_true,
    Bool.false_eq_true, if_false] at *
  omega

/-- Follows arrows from some nodes depth first, where `path` is the way to these nodes and `done` are
the nodes that were left for good. Nothing when the way meets itself, else the nodes that are left for
good in the end. -/
def explore (arrows : List Arrow) (path done : List String) : List String → Option (List String)
  | [] => some done
  | id :: rest =>
    if path.contains id then none
    else if done.contains id then explore arrows path done rest
    else
      match explore arrows (id :: path) done (successors arrows id) with
      | none => none
      | some done => explore arrows path (id :: done) rest
termination_by ids => (arrowsOff arrows path, ids.length)
decreasing_by
  · exact Prod.Lex.right _ (Nat.lt_succ_self _)
  · rename_i hnew _
    -- A node that no arrow leaves may not shorten the count, but then nothing is left to follow.
    by_cases hleaves : successors arrows id = []
    · rcases Nat.lt_or_eq_of_le (arrowsOff_cons_le arrows id path) with hlt | heq
      · exact Prod.Lex.left _ _ hlt
      · rw [heq, hleaves]
        exact Prod.Lex.right _ (Nat.succ_pos _)
    · refine Prod.Lex.left _ _ (arrowsOff_cons_lt ?_ hleaves)
      simpa using hnew
  · exact Prod.Lex.right _ (Nat.lt_succ_self _)

/-- Whether a cycle can be reached from some nodes. -/
def hasCycle (arrows : List Arrow) (ids : List String) : Bool :=
  (explore arrows [] [] ids).isNone

end Helpdesk.Workflow
